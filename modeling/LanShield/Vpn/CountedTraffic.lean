import LanShield.Transport.ReplyLengths
import LanShield.Vpn.TrafficLedger

/-!
# What the NIO thread moves and what it reports

`read` and `write` return the number of bytes they have moved.  A step of
the thread is compared with the history of the session's channel, and for a
datagram channel with the packets written to the client.
-/

namespace LanShield.Vpn

open LanShield.Library LanShield.Java LanShield.Transport Program

/-! ## Amounts -/

/-- The payload of a reply to the client: what is behind the session's IP
header and the UDP header. -/
def Session.replyPayload (session : Session) (packet : List UInt8) : Nat :=
  packet.length -
    ((session.lastIpHeader.map IPHeader.headerLength).getD 0 + 8)

/-- Bytes have moved for one session, and its counters have grown.  What a
datagram channel has delivered is what was written to the client. -/
structure Moved (id : Nat) (read sent : Nat) (ingress egress : Int)
    (before after : Engine) : Prop where
  allocated : after.allocated = before.allocated
  others :
    ∀ other, other ≠ id →
      (after.sessions other).ledger = (before.sessions other).ledger
  kind :
    (after.sessions id).channel.isSocket =
      (before.sessions id).channel.isSocket
  streamed :
    (before.sessions id).channel.isSocket = true →
      (after.sessions id).channel.streamedBytes =
        (before.sessions id).channel.streamedBytes + read
  replied :
    (before.sessions id).channel.isSocket = false →
      (after.sessions id).session.lastIpHeader =
          (before.sessions id).session.lastIpHeader ∧
        ∃ replies,
          after.written = before.written ++ replies ∧
            (replies.map (before.sessions id).session.replyPayload).sum =
              read
  accepted :
    (after.sessions id).channel.acceptedBytes =
      (before.sessions id).channel.acceptedBytes + sent
  dataIngress :
    (after.sessions id).session.flow.dataIngress =
      (before.sessions id).session.flow.dataIngress + ingress
  dataEgress :
    (after.sessions id).session.flow.dataEgress =
      (before.sessions id).session.flow.dataEgress + egress

section Moved

variable {id : Nat} {before middle after : Engine}

theorem Moved.refl (engine : Engine) : Moved id 0 0 0 0 engine engine :=
  ⟨rfl, fun _ _ => rfl, rfl, fun _ => rfl,
    fun _ => ⟨rfl, [], (List.append_nil _).symm, rfl⟩, rfl,
    (Int.add_zero _).symm, (Int.add_zero _).symm⟩

/-- Nothing moves in an undisturbed engine.  For a datagram channel that is
one in which nothing was written to the client either. -/
theorem Undisturbed.moved {reading silent : Prop}
    (undisturbed : Undisturbed reading silent before after)
    (quiet : (before.sessions id).channel.isSocket = false → silent) :
    Moved id 0 0 0 0 before after where
  allocated := undisturbed.allocated
  others other _ := undisturbed.ledger other
  kind := congrArg Ledger.isSocket (undisturbed.ledger id)
  streamed _ := congrArg Ledger.streamed (undisturbed.ledger id)
  replied datagram :=
    ⟨(undisturbed.objects id).lastIpHeader (quiet datagram), [],
      by rw [undisturbed.written (quiet datagram), List.append_nil], rfl⟩
  accepted := congrArg Ledger.accepted (undisturbed.ledger id)
  dataIngress := by
    rw [Int.add_zero]
    exact congrArg Ledger.dataIngress (undisturbed.ledger id)
  dataEgress := by
    rw [Int.add_zero]
    exact congrArg Ledger.dataEgress (undisturbed.ledger id)

/-- Amounts of two steps add up. -/
theorem Moved.trans {read sent read' sent' : Nat}
    {ingress egress ingress' egress' : Int}
    (first : Moved id read sent ingress egress before middle)
    (second : Moved id read' sent' ingress' egress' middle after) :
    Moved id (read + read') (sent + sent') (ingress + ingress')
      (egress + egress') before after where
  allocated := second.allocated.trans first.allocated
  others other different :=
    (second.others other different).trans (first.others other different)
  kind := second.kind.trans first.kind
  streamed socket := by
    rw [second.streamed (first.kind.trans socket), first.streamed socket,
      Nat.add_assoc]
  replied datagram := by
    obtain ⟨firstHeader, firstReplies, firstWritten, firstSum⟩ :=
      first.replied datagram
    obtain ⟨secondHeader, secondReplies, secondWritten, secondSum⟩ :=
      second.replied (first.kind.trans datagram)
    refine
      ⟨secondHeader.trans firstHeader, firstReplies ++ secondReplies, ?_, ?_⟩
    · rw [secondWritten, firstWritten, List.append_assoc]
    · have same :
          (middle.sessions id).session.replyPayload =
            (before.sessions id).session.replyPayload := by
        funext packet
        rw [Session.replyPayload, Session.replyPayload, firstHeader]
      rw [same] at secondSum
      rw [List.map_append, List.sum_append, firstSum, secondSum]
  accepted := by rw [second.accepted, first.accepted, Nat.add_assoc]
  dataIngress := by
    rw [second.dataIngress, first.dataIngress, Int.add_assoc]
  dataEgress := by
    rw [second.dataEgress, first.dataEgress, Int.add_assoc]

/-- A step that moves nothing before one that does. -/
theorem Moved.followed {read sent : Nat} {ingress egress : Int}
    (first : Moved id 0 0 0 0 before middle)
    (second : Moved id read sent ingress egress middle after) :
    Moved id read sent ingress egress before after := by
  have both := first.trans second
  simp only [Nat.zero_add, Int.zero_add] at both
  exact both

/-- A step that moves nothing behind one that does. -/
theorem Moved.settled {read sent : Nat} {ingress egress : Int}
    (first : Moved id read sent ingress egress before middle)
    (second : Moved id 0 0 0 0 middle after) :
    Moved id read sent ingress egress before after := by
  have both := first.trans second
  simp only [Nat.add_zero, Int.add_zero] at both
  exact both

/-- A counter of the session grows. -/
theorem Moved.count {flow : LANFlow → LANFlow} {ingress egress : Int}
    (dataIngress :
      ∀ before, (flow before).dataIngress = before.dataIngress + ingress)
    (dataEgress :
      ∀ before, (flow before).dataEgress = before.dataEgress + egress) :
    Moved id 0 0 ingress egress before
      (before.updateObject id
        (SessionObject.updateSession fun session =>
          { session with flow := flow session.flow })) where
  allocated := rfl
  others other different := by rw [Engine.updateObject_of_ne different]
  kind := by
    rw [Engine.updateObject_self]
    rfl
  streamed _ := by
    rw [Engine.updateObject_self]
    rfl
  replied _ := by
    rw [Engine.updateObject_self]
    exact ⟨rfl, [], (List.append_nil _).symm, rfl⟩
  accepted := by
    rw [Engine.updateObject_self]
    rfl
  dataIngress := by
    rw [Engine.updateObject_self]
    exact dataIngress _
  dataEgress := by
    rw [Engine.updateObject_self]
    exact dataEgress _

/-- A change of the channel alone. -/
private theorem Moved.transfer
    {update : SelectableChannel → SelectableChannel} {read sent : Nat}
    (kind :
      (update (before.sessions id).channel).isSocket =
        (before.sessions id).channel.isSocket)
    (streamed :
      (update (before.sessions id).channel).streamedBytes =
        (before.sessions id).channel.streamedBytes + read)
    (none : (before.sessions id).channel.isSocket = false → read = 0)
    (accepted :
      (update (before.sessions id).channel).acceptedBytes =
        (before.sessions id).channel.acceptedBytes + sent) :
    Moved id read sent 0 0 before
      (before.updateObject id fun object =>
        { object with channel := update object.channel }) where
  allocated := rfl
  others other different := by rw [Engine.updateObject_of_ne different]
  kind := by
    rw [Engine.updateObject_self]
    exact kind
  streamed _ := by
    rw [Engine.updateObject_self]
    exact streamed
  replied datagram := by
    rw [Engine.updateObject_self, none datagram]
    exact ⟨rfl, [], (List.append_nil _).symm, rfl⟩
  accepted := by
    rw [Engine.updateObject_self]
    exact accepted
  dataIngress := by
    rw [Engine.updateObject_self, Int.add_zero]
  dataEgress := by
    rw [Engine.updateObject_self, Int.add_zero]

end Moved

/-- Bytes have been read, and the upload is what it was. -/
structure ReadIn (id : Nat) (count : Nat) (ingress : Int)
    (before after : Engine) : Prop where
  moved : Moved id count 0 ingress 0 before after
  upload :
    (after.sessions id).session.upload =
      (before.sessions id).session.upload

section ReadIn

variable {id : Nat} {before middle after : Engine}

theorem Undisturbed.readIn {silent : Prop}
    (undisturbed : Undisturbed True silent before after)
    (quiet : (before.sessions id).channel.isSocket = false → silent) :
    ReadIn id 0 0 before after :=
  ⟨undisturbed.moved quiet, (undisturbed.objects id).upload trivial⟩

theorem ReadIn.trans {count count' : Nat} {ingress ingress' : Int}
    (first : ReadIn id count ingress before middle)
    (second : ReadIn id count' ingress' middle after) :
    ReadIn id (count + count') (ingress + ingress') before after :=
  ⟨first.moved.trans second.moved, second.upload.trans first.upload⟩

/-- A step that reads nothing before one that reads. -/
theorem ReadIn.followed {count : Nat} {ingress : Int}
    (first : ReadIn id 0 0 before middle)
    (second : ReadIn id count ingress middle after) :
    ReadIn id count ingress before after := by
  have both := first.trans second
  rw [Nat.zero_add, Int.zero_add] at both
  exact both

theorem ReadIn.settled {count : Nat} {ingress : Int}
    (first : ReadIn id count ingress before middle)
    (second : ReadIn id 0 0 middle after) :
    ReadIn id count ingress before after := by
  have both := first.trans second
  rw [Nat.add_zero, Int.add_zero] at both
  exact both

end ReadIn

/-- The program throws no `IOException`. -/
abbrev NoIO (failure : ThreadException) (_ : Engine) : Prop :=
  failure ≠ .io

namespace NioThread

section Reading

variable {id : Nat} {engine : Engine}

/-- A calm program reads nothing. -/
private theorem meets_calm {silent : Prop} {Value : Type}
    {program : Running Value} (calm : Calm True silent program)
    (quiet : (engine.sessions id).channel.isSocket = false → silent) :
    Meets
      (fun _ after =>
        ReadIn id 0 0 engine after ∧
          (after.sessions id).ledger = (engine.sessions id).ledger)
      NoIO program engine :=
  (calm.meets engine).imp
    (fun _ _ undisturbed =>
      ⟨undisturbed.readIn quiet, undisturbed.ledger id⟩)
    fun _ _ thrown => thrown.2

theorem meets_readSession {Last : Type} {next : Session → Running Last}
    {returned : Last → Engine → Prop}
    {thrown : ThreadException → Engine → Prop}
    (right :
      Meets returned thrown (next (engine.sessions id).session) engine) :
    Meets returned thrown (readSession id >>= next) engine :=
  right

theorem meets_readObject {Last : Type}
    {next : SessionObject → Running Last}
    {returned : Last → Engine → Prop}
    {thrown : ThreadException → Engine → Prop}
    (right : Meets returned thrown (next (engine.sessions id)) engine) :
    Meets returned thrown (readObject id >>= next) engine :=
  right

/-! ## `readTCP` -/

/-- The bytes a read has returned. -/
def bytesOf : ReadOutcome → Nat
  | .data chunk => chunk.bytes.length
  | .nothing | .endOfStream | .failure _ => 0

private theorem length_received_read (outcome : ReadOutcome)
    (channel : SocketChannel) :
    (channel.read outcome).2.received.length =
      channel.received.length + bytesOf (channel.read outcome).1 := by
  cases outcome with
  | data chunk =>
      rw [SocketChannel.read]
      split
      · rfl
      · exact List.length_append
  | nothing =>
      rw [SocketChannel.read]
      split
      · rfl
      · rfl
  | endOfStream => rfl
  | failure exception => rfl

/-- What a read returns depends on the end of the stream alone. -/
private theorem read_congr (outcome : ReadOutcome)
    {own channel : SocketChannel}
    (atEnd : own.atEnd = channel.atEnd) :
    (own.read outcome).1 = (channel.read outcome).1 ∧
      (own.read outcome).2.atEnd = (channel.read outcome).2.atEnd ∧
        (own.read outcome).2.sent = own.sent := by
  cases outcome with
  | data chunk =>
      rw [SocketChannel.read, SocketChannel.read, atEnd]
      split
      · exact ⟨rfl, atEnd, rfl⟩
      · exact ⟨rfl, rfl, rfl⟩
  | nothing =>
      rw [SocketChannel.read, SocketChannel.read, atEnd]
      split
      · exact ⟨rfl, atEnd, rfl⟩
      · exact ⟨rfl, atEnd, rfl⟩
  | endOfStream => exact ⟨rfl, rfl, rfl⟩
  | failure exception => exact ⟨rfl, atEnd, rfl⟩

/-- The engine behind a read of the session's channel. -/
def afterRead (id : Nat) (outcome : ReadOutcome) (engine : Engine) :
    Engine :=
  engine.updateObject id fun object =>
    { object with
      channel :=
        object.channel.mapSocket fun channel => (channel.read outcome).2 }

/-- A read moves the bytes it returns. -/
private theorem readIn_afterRead (outcome : ReadOutcome)
    {channel : SocketChannel}
    (socket : (engine.sessions id).channel.isSocket = true)
    (atEnd : (engine.sessions id).channel.atEnd = channel.atEnd) :
    ReadIn id (bytesOf (channel.read outcome).1) 0 engine
        (afterRead id outcome engine) ∧
      ((afterRead id outcome engine).sessions id).channel.isSocket = true ∧
        ((afterRead id outcome engine).sessions id).channel.atEnd =
          (channel.read outcome).2.atEnd := by
  cases kind : (engine.sessions id).channel with
  | datagram own =>
      rw [kind] at socket
      cases socket
  | socket own =>
      rw [kind] at atEnd
      obtain ⟨same, sameEnd, sent⟩ := @read_congr outcome own channel atEnd
      have length := length_received_read outcome own
      rw [same] at length
      have self :
          ((afterRead id outcome engine).sessions id).channel =
            .socket (own.read outcome).2 := by
        rw [afterRead, Engine.updateObject_self]
        show SelectableChannel.mapSocket _ (engine.sessions id).channel = _
        rw [kind]
        rfl
      refine ⟨⟨?_, ?_⟩, ?_, ?_⟩
      · apply Moved.transfer
        · rw [kind]
          rfl
        · rw [kind]
          exact length
        · intro datagram
          rw [kind] at datagram
          cases datagram
        · rw [kind]
          show (own.read outcome).2.sent.length = own.sent.length
          rw [sent]
      · rw [afterRead, Engine.updateObject_self]
      · rw [self]
        rfl
      · rw [self]
        exact sameEnd

/-- A socket channel is no datagram channel. -/
private theorem not_datagram
    (socket : (engine.sessions id).channel.isSocket = true) :
    (engine.sessions id).channel.isSocket = false → False := by
  intro datagram
  rw [socket] at datagram
  cases datagram

/-- A calm program before a return of zero. -/
private theorem meets_nothing {silent : Prop} {program : Running Unit}
    (calm : Calm True silent program)
    (quiet : (engine.sessions id).channel.isSocket = false → silent) :
    Meets (fun bytesRead after => ReadIn id bytesRead 0 engine after)
      NoIO (program >>= fun _ => return 0) engine := by
  apply (meets_calm calm quiet).bind
  intro _ after unread
  exact unread.1

/-- What was read before adds to what the rest of a program reads. -/
private theorem meets_readBefore {program : Running Nat} {before : Engine}
    {count : Nat} (earlier : ReadIn id count 0 before engine)
    (later :
      Meets (fun bytesRead after => ReadIn id bytesRead 0 engine after)
        NoIO program engine) :
    Meets
      (fun bytesRead after => ReadIn id (count + bytesRead) 0 before after)
      NoIO program engine :=
  later.mono fun _ _ read => earlier.trans read

/-- The loop of `readTCP` returns the number of bytes it has read. -/
private theorem meets_readTCPLoop (outcomes : List ReadOutcome)
    {channel : SocketChannel}
    (socket : (engine.sessions id).channel.isSocket = true)
    (atEnd : (engine.sessions id).channel.atEnd = channel.atEnd) :
    Meets (fun bytesRead after => ReadIn id bytesRead 0 engine after)
      NoIO (readTCPLoop id outcomes channel) engine := by
  induction outcomes generalizing engine channel with
  | nil =>
      rw [readTCPLoop]
      apply meets_readSession
      split
      · exact
          meets_nothing (calm_unsubscribeKey .read) (not_datagram socket)
      · exact (Undisturbed.refl engine).readIn (not_datagram socket)
  | cons outcome later inductionHypothesis =>
      rw [readTCPLoop]
      apply meets_readSession
      split
      · exact
          meets_nothing (calm_unsubscribeKey .read) (not_datagram socket)
      · obtain ⟨read, stillSocket, newEnd⟩ :=
          readIn_afterRead outcome socket atEnd
        apply meets_modify_bind
        show Meets _ _ _ (afterRead id outcome engine)
        cases result : (channel.read outcome).1 with
        | data chunk =>
            rw [result] at read
            apply
              (meets_calm (calm_sendToRequester chunk)
                (not_datagram stillSocket)).bind
            rintro _ after ⟨sent, ledger⟩
            have rest :=
              inductionHypothesis
                ((congrArg Ledger.isSocket ledger).trans stillSocket)
                ((congrArg Ledger.atEnd ledger).trans newEnd)
            apply (meets_readBefore (read.trans sent) rest).bind
            intro _ last all
            exact all
        | nothing =>
            rw [result] at read
            exact read
        | endOfStream =>
            rw [result] at read
            apply
              (meets_nothing calm_endUpstream
                (not_datagram stillSocket)).mono
            intro _ after ended
            exact read.followed ended
        | failure exception =>
            rw [result] at read
            apply
              (meets_nothing (calm_readFailed loggedByTCP exception)
                (not_datagram stillSocket)).mono
            intro _ after failed
            exact read.followed failed

/-- `readTCP` returns the number of bytes it has read. -/
private theorem meets_readTCP (outcomes : List ReadOutcome)
    {channel : SocketChannel}
    (socket : (engine.sessions id).channel = .socket channel) :
    Meets (fun bytesRead after => ReadIn id bytesRead 0 engine after)
      NoIO (readTCP outcomes channel id) engine := by
  have isSocket : (engine.sessions id).channel.isSocket = true := by
    rw [socket]
    rfl
  apply meets_readSession
  split
  · exact (Undisturbed.refl engine).readIn (not_datagram isSocket)
  · apply meets_readTCPLoop outcomes isSocket
    rw [socket]
    rfl

/-! ## `readUDP` -/

/-- A reply has the payload it was built for. -/
private theorem meets_buildUdpResponse (data : List UInt8) :
    Meets
      (fun packetData after =>
        ReadIn id 0 0 engine after ∧
          (engine.sessions id).session.replyPayload packetData =
            data.length)
      NoIO (buildUdpResponse data id) engine := by
  apply meets_readSession
  split
  · next ip udp lastIp lastUdp =>
    have numbered :
        Meets (fun _ after => Undisturbed True True engine after) NoIO
          getPacketId engine :=
      (calm_getPacketId.meets engine).imp (fun _ _ same => same)
        fun _ _ thrown => thrown.2
    apply numbered.bind
    intro packetId after undisturbed
    rcases reply :
      (UDPPacketFactory.createResponsePacket packetId data
        { ip, udp, ipHeader := ip }).map Prod.fst with exception | packetData
    · exact nofun
    · have length := UDPPacketFactory.length_createResponsePacket reply
      refine ⟨undisturbed.readIn fun _ => trivial, ?_⟩
      rw [Session.replyPayload, lastIp, length]
      show ip.headerLength + (8 + data.length) - (ip.headerLength + 8) = _
      omega
  · exact nofun

/-- A packet is written to the client. -/
theorem ReadIn.reply {packetData : List UInt8}
    (datagram : (engine.sessions id).channel.isSocket = false) :
    ReadIn id ((engine.sessions id).session.replyPayload packetData) 0 engine
      { engine with written := engine.written ++ [packetData] } := by
  refine ⟨⟨rfl, fun _ _ => rfl, rfl, ?_, ?_, rfl, ?_, ?_⟩, rfl⟩
  · intro socket
    exact (not_datagram socket datagram).elim
  · intro _
    exact ⟨rfl, [packetData], rfl, by simp⟩
  · exact (Int.add_zero _).symm
  · exact (Int.add_zero _).symm

/-- A response counts with its payload if it is written. -/
private theorem meets_sendUdpResponse (data : List UInt8)
    (datagram : (engine.sessions id).channel.isSocket = false) :
    Meets (fun counted after => ReadIn id counted 0 engine after) NoIO
      (sendUdpResponse data id) engine := by
  apply (meets_buildUdpResponse data).bind
  rintro packetData after ⟨built, payload⟩
  split
  · exact built
  · apply meets_modify_bind
    have written :=
      @ReadIn.reply id after packetData (built.moved.kind.trans datagram)
    have same :
        (after.sessions id).session.replyPayload packetData =
          data.length := by
      rw [← payload, Session.replyPayload, Session.replyPayload,
        (built.moved.replied datagram).1]
    rw [same] at written
    exact built.followed written

/-- The loop of `readUDP` returns the number of payload bytes written to the
client. -/
private theorem meets_readUDP (outcomes : List ReadOutcome)
    (datagram : (engine.sessions id).channel.isSocket = false) :
    Meets (fun bytesRead after => ReadIn id bytesRead 0 engine after)
      NoIO (readUDP id outcomes) engine := by
  induction outcomes generalizing engine with
  | nil => exact (Undisturbed.refl engine).readIn fun _ => trivial
  | cons outcome later inductionHypothesis =>
      unfold readUDP
      apply meets_readSession
      split
      · exact (Undisturbed.refl engine).readIn fun _ => trivial
      · cases outcome with
        | data chunk =>
            apply
              (meets_calm (calm_receive chunk.bytes) fun _ => trivial).bind
            rintro _ received ⟨unread, ledger⟩
            have still : (received.sessions id).channel.isSocket = false :=
              (congrArg Ledger.isSocket ledger).trans datagram
            apply (meets_sendUdpResponse chunk.bytes still).bind
            intro counted replied read
            have rest :=
              inductionHypothesis (read.moved.kind.trans still)
            apply (meets_readBefore (unread.followed read) rest).bind
            intro bytesRead after all
            exact all
        | nothing => exact (Undisturbed.refl engine).readIn fun _ => trivial
        | endOfStream =>
            exact (Undisturbed.refl engine).readIn fun _ => trivial
        | failure exception =>
            exact
              meets_nothing (calm_readFailed loggedByUDP exception)
                fun _ => trivial

end Reading

/-! ## `writeTCP` -/

/-- The channel has accepted what the buffer has advanced by. -/
private theorem length_sent_writeLoop (outcomes : List WriteOutcome)
    (buffer : ByteBuffer) (channel : SocketChannel) :
    (SocketChannelWriter.writeLoop outcomes buffer channel).2.1.sent.length +
        buffer.position =
      channel.sent.length +
        (SocketChannelWriter.writeLoop outcomes buffer
          channel).1.position := by
  induction outcomes generalizing buffer channel with
  | nil => rfl
  | cons outcome later inductionHypothesis =>
      simp only [SocketChannelWriter.writeLoop]
      split
      · cases outcome with
        | failure exception => rfl
        | accepted count =>
            dsimp only
            split
            · rfl
            · have next :=
                inductionHypothesis (buffer.advance count)
                  { channel with
                    sent := channel.sent ++ buffer.unread.take count }
              have advanced :
                  (buffer.advance count).position =
                    buffer.position + min count buffer.remaining := by
                have inside := buffer.position_le_limit
                simp only [ByteBuffer.advance, ByteBuffer.remaining]
                omega
              rw [List.length_append, List.length_take,
                ByteBuffer.length_unread] at next
              omega
      · rfl

end NioThread

/-- The loop of `writePendingData` throws behind bytes the channel has
accepted. -/
def SelectableChannel.failsMidway (outcomes : List WriteOutcome)
    (data : List UInt8) : SelectableChannel → Bool
  | socket channel =>
      let ended :=
        SocketChannelWriter.writeLoop outcomes (ByteBuffer.wrap data) channel
      ended.2.2.isSome && decide (0 < ended.1.position)
  | datagram _ => false

/-- What the channel has accepted in this event would not be reported:
`channel.write` throws behind a write that has taken bytes. -/
def SessionObject.losesCount (ready : SocketNIODataService.Readiness)
    (object : SessionObject) : Bool :=
  object.session.selectionkey.isValid && ready.isWritable &&
    object.session.isDataForSendingReady &&
    object.channel.failsMidway ready.writes object.session.sendingStream

/-- The bytes a method of the writer reports, none with an exception. -/
def reported : Except SocketException Nat → Nat
  | .ok amountBytes => amountBytes
  | .error _ => 0

/-- The channel has accepted bytes, all of which are in `amount` if the loop
is `whole`. -/
def Wrote (id : Nat) (whole : Prop) (amount : Nat)
    (before after : Engine) : Prop :=
  ∃ sent : Nat, Moved id 0 sent 0 0 before after ∧ (whole → amount = sent)

section Wrote

variable {id : Nat} {whole : Prop} {amount : Nat}
  {before middle after : Engine}

private theorem Moved.wrote (moved : Moved id 0 amount 0 0 before after) :
    Wrote id whole amount before after :=
  ⟨amount, moved, fun _ => rfl⟩

theorem Wrote.settled (wrote : Wrote id whole amount before middle)
    (second : Moved id 0 0 0 0 middle after) :
    Wrote id whole amount before after := by
  obtain ⟨sent, moved, all⟩ := wrote
  exact ⟨sent, moved.settled second, all⟩

end Wrote

namespace NioThread

section Writing

variable {id : Nat} {engine : Engine}

/-- A calm program moves nothing. -/
private theorem meets_still {reading silent : Prop} {Value : Type}
    {program : Running Value} (calm : Calm reading silent program)
    (quiet : (engine.sessions id).channel.isSocket = false → silent) :
    Meets (fun _ after => Moved id 0 0 0 0 engine after) NoIO program
      engine :=
  (calm.meets engine).imp (fun _ _ undisturbed => undisturbed.moved quiet)
    fun _ _ thrown => thrown.2

/-- The engine behind the loop of `writePendingData`. -/
def afterWrites (id : Nat) (outcomes : List WriteOutcome)
    (data : List UInt8) (engine : Engine) : Engine :=
  engine.updateObject id fun object =>
    { object with
      channel :=
        object.channel.mapSocket fun channel =>
          (SocketChannelWriter.writeLoop outcomes (ByteBuffer.wrap data)
            channel).2.1 }

private theorem moved_afterWrites (outcomes : List WriteOutcome)
    (data : List UInt8) {channel : SocketChannel}
    (socket : (engine.sessions id).channel = .socket channel) :
    Moved id 0
      (SocketChannelWriter.writeLoop outcomes (ByteBuffer.wrap data)
        channel).1.position
      0 0 engine (afterWrites id outcomes data engine) := by
  apply Moved.transfer
  · rw [socket]
    rfl
  · rw [socket]
    show
      (SocketChannelWriter.writeLoop outcomes (ByteBuffer.wrap data)
          channel).2.1.received.length =
        channel.received.length + 0
    rw [SocketChannelWriter.writeLoop_channel]
    rfl
  · exact fun _ => rfl
  · rw [socket]
    have advanced :=
      length_sent_writeLoop outcomes (ByteBuffer.wrap data) channel
    exact advanced

/-- What `writePendingData` does behind its loop. -/
private theorem meets_settled {before : Engine} {sent : Nat}
    (moved : Moved id 0 sent 0 0 before engine) (buffer : ByteBuffer)
    (socket : (engine.sessions id).channel.isSocket = true)
    (position : buffer.position = sent) :
    Meets
      (fun result after => Moved id 0 (reported result) 0 0 before after)
      NoIO
      (do
        settleBuffer buffer id
        return .ok buffer.position)
      engine := by
  have calm : Calm False False (settleBuffer buffer id) :=
    calm_settleBuffer buffer
  apply (meets_still calm (not_datagram socket)).bind
  intro _ after still
  have all := moved.settled still
  rw [← position] at all
  exact all

/-- `writePendingData` reports what the channel has accepted, if it does not
throw behind some of it. -/
private theorem meets_writePendingData (outcomes : List WriteOutcome)
    {channel : SocketChannel}
    (socket : (engine.sessions id).channel = .socket channel) :
    Meets
      (fun result after =>
        Wrote id
          ((SelectableChannel.socket channel).failsMidway outcomes
            (engine.sessions id).session.sendingStream = false)
          (reported result) engine after)
      NoIO (writePendingData outcomes channel id) engine := by
  have isSocket : (engine.sessions id).channel.isSocket = true := by
    rw [socket]
    rfl
  apply meets_readSession
  split
  · have taken :
        Calm False False
          (updateSession id fun session => session.getSendingData.2) :=
      calm_updateSession (fun _ => ⟨rfl, rfl⟩) False.elim False.elim
    apply (meets_still taken (not_datagram isSocket)).bind
    intro _ emptied still
    cases kind : (emptied.sessions id).channel with
    | datagram own =>
        have changed := still.kind
        rw [kind, isSocket] at changed
        cases changed
    | socket own =>
        have written :=
          moved_afterWrites outcomes
            (engine.sessions id).session.sendingStream kind
        rw [(SocketChannelWriter.writeLoop_congr outcomes _ own channel).1] at written
        have moved := still.followed written
        apply meets_modify_bind
        show Meets _ _ _ (afterWrites id _ _ emptied)
        rw [SelectableChannel.failsMidway]
        rcases loop :
          SocketChannelWriter.writeLoop outcomes
            (ByteBuffer.wrap (engine.sessions id).session.sendingStream)
            channel with ⟨buffer, last, thrown⟩
        rw [loop] at moved
        cases thrown with
        | some exception =>
            refine ⟨buffer.position, moved, ?_⟩
            intro whole
            have none : buffer.position = 0 := by simpa using whole
            exact none.symm
        | none =>
            apply (meets_settled moved buffer ?_ rfl).mono
            · exact fun _ _ all => all.wrote
            · exact moved.kind.trans isSocket
  · exact (Moved.refl engine).wrote

/-- `writeTCP` returns what `writePendingData` reports. -/
private theorem meets_writeTCP (outcomes : List WriteOutcome)
    {channel : SocketChannel}
    (socket : (engine.sessions id).channel = .socket channel) :
    Meets
      (fun amountBytes after =>
        Wrote id
          ((SelectableChannel.socket channel).failsMidway outcomes
            (engine.sessions id).session.sendingStream = false)
          amountBytes engine after)
      NoIO (writeTCP outcomes channel id) engine := by
  apply (meets_writePendingData outcomes socket).bind
  intro result after moved
  rcases result with exception | amountBytes
  · have failed :
        Meets
          (fun amountBytes last =>
            Wrote id
              ((SelectableChannel.socket channel).failsMidway outcomes
                (engine.sessions id).session.sendingStream = false)
              amountBytes engine last)
          NoIO
          (do
            writeFailed id
            return 0)
          after := by
      have isSocket : (after.sessions id).channel.isSocket = true := by
        obtain ⟨sent, moved, -⟩ := moved
        rw [moved.kind, socket]
        rfl
      have calm : Calm False False (writeFailed id) := calm_writeFailed
      apply (meets_still calm (not_datagram isSocket)).bind
      intro _ last still
      exact moved.settled still
    cases exception with
    | notYetConnected => exact moved
    | closedByInterrupt => exact failed
    | closedChannel => exact failed
    | other => exact failed
  · exact moved

/-! ## `writeUDP` -/

/-- A datagram is accepted as a whole or not at all. -/
private theorem meets_writeDatagram (outcomes : List WriteOutcome)
    (data : List UInt8)
    (datagram : (engine.sessions id).channel.isSocket = false) :
    Meets (fun result after => Moved id 0 (reported result) 0 0 engine after)
      NoIO (writeDatagram outcomes data id) engine := by
  rcases outcomes with _ | ⟨(_ | count) | exception, later⟩
  · exact .refl engine
  · exact .refl engine
  · rw [writeDatagram]
    apply meets_modify_bind
    cases kind : (engine.sessions id).channel with
    | socket channel =>
        rw [kind] at datagram
        cases datagram
    | datagram channel =>
        apply Moved.transfer
        · rw [kind]
          rfl
        · rw [kind]
          rfl
        · exact fun _ => rfl
        · rw [kind]
          show
            ((channel.sent ++ [data]).map List.length).sum =
              (channel.sent.map List.length).sum + data.length
          simp
  · exact .refl engine

/-- A calm program behind a write, before a return of what was reported. -/
private theorem meets_report {program : Running Unit} {before : Engine}
    {result : Except SocketException Nat}
    (moved : Moved id 0 (reported result) 0 0 before engine)
    (calm : Calm False True program) :
    Meets (fun result after => Moved id 0 (reported result) 0 0 before after)
      NoIO
      (do
        program
        return result)
      engine := by
  apply (meets_still calm fun _ => trivial).bind
  intro _ after still
  exact moved.settled still

/-- `writePendingUDPData` reports the datagram the channel has accepted. -/
private theorem meets_writePendingUDPData (outcomes : List WriteOutcome)
    (datagram : (engine.sessions id).channel.isSocket = false) :
    Meets (fun result after => Moved id 0 (reported result) 0 0 engine after)
      NoIO (writePendingUDPData outcomes id) engine := by
  apply meets_readSession
  split
  · exact meets_report (.refl engine) calm_allWritten
  · next data queued _ =>
    have taken :
        Calm False True
          (updateSession id fun session =>
            { session with sendingDatagrams := queued }) :=
      calm_plain (fun _ => rfl) (fun _ => rfl) fun _ => rfl
    apply (meets_still taken fun _ => trivial).bind
    intro _ polled still
    apply
      (meets_writeDatagram outcomes data
        (still.kind.trans datagram)).bind
    intro result written moved
    have all := still.followed moved
    split
    · exact all
    · have returned :
          Calm False True
            (updateSession id fun session =>
              { session with
                sendingDatagrams := data :: session.sendingDatagrams }) :=
        calm_plain (fun _ => rfl) (fun _ => rfl) fun _ => rfl
      apply (meets_still returned fun _ => trivial).bind
      intro _ requeued unsent
      exact meets_report (all.settled unsent) (calm_subscribeKey .write)
    · split
      · exact meets_report all calm_allWritten
      · exact meets_report all (calm_subscribeKey .write)

/-- `writeUDP` returns what `writePendingUDPData` reports. -/
private theorem meets_writeUDP (outcomes : List WriteOutcome)
    (datagram : (engine.sessions id).channel.isSocket = false) :
    Meets (fun amountBytes after => Moved id 0 amountBytes 0 0 engine after)
      NoIO (writeUDP outcomes id) engine := by
  apply (meets_writePendingUDPData outcomes datagram).bind
  intro result after moved
  rcases result with exception | amountBytes
  · have calm : Calm False True (setAbortingConnection id) :=
      calm_setAbortingConnection
    apply (meets_still calm fun _ => trivial).bind
    intro _ last still
    exact moved.settled still
  · exact moved

end Writing

section Service

open SocketNIODataService

variable {id : Nat} {engine : Engine}

private theorem meets_readChannel (outcomes : List ReadOutcome) :
    Meets (fun bytesRead after => ReadIn id bytesRead 0 engine after)
      NoIO (readChannel outcomes id) engine := by
  apply meets_readObject
  cases kind : (engine.sessions id).channel with
  | socket channel => exact meets_readTCP outcomes kind
  | datagram channel =>
      apply meets_readUDP outcomes
      rw [kind]
      rfl

/-- `read` returns the number of bytes it has read. -/
private theorem meets_read (outcomes : List ReadOutcome) :
    Meets (fun bytesRead after => ReadIn id bytesRead 0 engine after)
      NoIO (read outcomes id) engine := by
  apply (meets_readChannel outcomes).bind
  intro bytesRead after moved
  have resubscribed : Calm True True (resubscribe id) := calm_resubscribe
  have removed : Calm True True (removeAborted id) := calm_removeAborted
  apply (meets_calm resubscribed fun _ => trivial).bind
  rintro _ subscribed ⟨still, -⟩
  apply (meets_calm removed fun _ => trivial).bind
  rintro _ last ⟨quiet, -⟩
  exact moved.settled (still.followed quiet)

/-- `write` returns the number of bytes the channel has accepted, if the
loop of `writePendingData` does not throw behind some of them. -/
private theorem meets_writeUpstream (outcomes : List WriteOutcome) :
    Meets
      (fun amountBytes after =>
        Wrote id
          ((engine.sessions id).channel.failsMidway outcomes
            (engine.sessions id).session.sendingStream = false)
          amountBytes engine after)
      NoIO (writeUpstream outcomes id) engine := by
  have written :
      Meets
        (fun amountBytes after =>
          Wrote id
            ((engine.sessions id).channel.failsMidway outcomes
              (engine.sessions id).session.sendingStream = false)
            amountBytes engine after)
        NoIO (writeChannel outcomes id) engine := by
    apply meets_readObject
    cases kind : (engine.sessions id).channel with
    | socket channel => exact meets_writeTCP outcomes kind
    | datagram channel =>
        apply (meets_writeUDP outcomes ?_).mono
        · exact fun _ _ moved => moved.wrote
        · rw [kind]
          rfl
  apply written.bind
  intro amountBytes after moved
  have removed : Calm True True (removeAborted id) := calm_removeAborted
  apply (meets_still removed fun _ => trivial).bind
  intro _ last still
  exact moved.settled still

/-! ## `SocketNIODataService` -/

/-- `dataIngress` grows by the bytes read. -/
private theorem meets_processSelectorRead (ready : Readiness) :
    Meets (fun _ after => ∃ count : Nat, ReadIn id count count engine after)
      NoIO (processSelectorRead ready id) engine := by
  apply meets_readSession
  split
  · apply (meets_read ready.reads).bind
    intro bytesRead after moved
    apply meets_modify
    refine ⟨bytesRead, ?_, ?_⟩
    · have counted :=
        @Moved.count id after (LANFlow.increaseIngress 1 bytesRead)
          bytesRead 0 (fun _ => rfl) fun _ => (Int.add_zero _).symm
      have both := moved.moved.trans counted
      simp only [Nat.add_zero, Int.zero_add, Int.add_zero] at both
      exact both
    · rw [Engine.updateObject_self]
      exact moved.upload
  · exact ⟨0, .refl engine, rfl⟩

private theorem failsMidway_congr (outcomes : List WriteOutcome)
    (data : List UInt8) {channel other : SelectableChannel}
    (kind : channel.isSocket = other.isSocket) :
    channel.failsMidway outcomes data = other.failsMidway outcomes data := by
  cases channel with
  | datagram channel =>
      cases other with
      | datagram other => rfl
      | socket other => cases kind
  | socket channel =>
      cases other with
      | datagram other => cases kind
      | socket other =>
          obtain ⟨buffer, thrown⟩ :=
            SocketChannelWriter.writeLoop_congr outcomes
              (ByteBuffer.wrap data) channel other
          simp only [SelectableChannel.failsMidway, buffer, thrown]

/-- No loop of `writePendingData` throws behind bytes the channel has
accepted. -/
def WritesWhole (ready : Readiness) (object : SessionObject) : Prop :=
  ready.isWritable = true →
    object.session.isDataForSendingReady = true →
      object.channel.failsMidway ready.writes
        object.session.sendingStream = false

theorem WritesWhole.congr {ready : Readiness} {before after : SessionObject}
    (whole : WritesWhole ready before)
    (upload : after.session.upload = before.session.upload)
    (kind : after.channel.isSocket = before.channel.isSocket) :
    WritesWhole ready after := by
  intro isWritable isReady
  have sameStream :
      after.session.sendingStream = before.session.sendingStream :=
    congrArg Upload.sendingStream upload
  have sameReady :
      after.session.isDataForSendingReady =
        before.session.isDataForSendingReady :=
    congrArg Upload.isDataForSendingReady upload
  rw [sameStream, failsMidway_congr _ _ kind]
  exact whole isWritable (sameReady.symm.trans isReady)

/-- `dataEgress` grows by the bytes the channel has accepted, if the write is
`whole`. -/
private theorem meets_processPendingWrite (ready : Readiness) :
    Meets
      (fun _ after =>
        ∃ sent count : Nat,
          Moved id 0 sent 0 count engine after ∧
            (WritesWhole ready (engine.sessions id) → count = sent))
      NoIO (processPendingWrite ready id) engine := by
  have unsubscribed : Calm True True (unsubscribeKey .write id) :=
    calm_unsubscribeKey .write
  apply meets_readSession
  split
  · exact
      (meets_still unsubscribed fun _ => trivial).mono
        fun _ _ still => ⟨0, 0, still, fun _ => rfl⟩
  · next busy =>
    split
    · next writable =>
      have isReady :
          (engine.sessions id).session.isDataForSendingReady = true := by
        simp only [Bool.or_eq_true, Bool.not_eq_true', not_or,
          Bool.not_eq_false] at busy
        exact busy.2
      have isWritable := (Bool.and_eq_true_iff.mp writable).2
      apply (meets_calm unsubscribed fun _ => trivial).bind
      rintro _ middle ⟨still, -⟩
      have sameReady :
          (middle.sessions id).session.isDataForSendingReady = true :=
        (congrArg Upload.isDataForSendingReady still.upload).trans isReady
      apply (meets_writeUpstream ready.writes).bind
      rintro bytesWritten after ⟨sent, moved, all⟩
      apply meets_modify
      refine ⟨sent, bytesWritten, ?_, ?_⟩
      · have counted :=
          @Moved.count id after (LANFlow.increaseEgress 1 bytesWritten) 0
            bytesWritten (fun _ => (Int.add_zero _).symm) fun _ => rfl
        have both := (still.moved.followed moved).trans counted
        simp only [Nat.add_zero, Int.zero_add] at both
        exact both
      · intro whole
        exact
          all (whole.congr still.upload still.moved.kind isWritable
            sameReady)
    · exact ⟨0, 0, .refl engine, fun _ => rfl⟩

/-- What a step for the key of a session comes to: it counts what it has
read, and if it is `whole` what it has written. -/
def Tallied (id : Nat) (whole : Prop) (before after : Engine) : Prop :=
  ∃ read sent count : Nat,
    Moved id read sent read count before after ∧ (whole → count = sent)

/-- Both counters grow by what has moved. -/
theorem meets_processConnectedSelection (ready : Readiness) :
    Meets
      (fun _ after =>
        Tallied id (WritesWhole ready (engine.sessions id)) engine after)
      NoIO (processConnectedSelection ready id) engine := by
  have unsubscribed : Calm True True (unsubscribeKey .connect id) :=
    calm_unsubscribeKey .connect
  have subscribed : Calm True True (subscribeKey .read id) :=
    calm_subscribeKey .read
  apply (meets_calm unsubscribed fun _ => trivial).bind
  rintro _ connected ⟨first, -⟩
  apply (meets_calm subscribed fun _ => trivial).bind
  rintro _ reading ⟨second, -⟩
  apply (meets_processSelectorRead ready).bind
  rintro _ middle ⟨read, third⟩
  have earlier := (first.followed second).followed third
  apply (meets_processPendingWrite ready).mono
  rintro _ after ⟨sent, count, written, all⟩
  refine ⟨read, sent, count, ?_, ?_⟩
  · have both := earlier.moved.trans written
    simp only [Nat.add_zero, Nat.zero_add, Int.zero_add, Int.add_zero]
      at both
    exact both
  · intro whole
    exact all (whole.congr earlier.upload earlier.moved.kind)

end Service

end NioThread

end LanShield.Vpn
