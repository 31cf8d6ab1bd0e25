import LanShield.Library.Passing
import LanShield.Library.ProgramResults
import LanShield.Vpn.DatagramReplies
import LanShield.Vpn.SessionOpening
import LanShield.Vpn.SessionOrigins

/-!
# The NIO thread serving a datagram session

While it handles the key of a registered datagram session whose last headers
are of its client, the thread throws nothing.  It writes to the client the
replies to what it reads from the channel and nothing else, and hands to the
channel what the client has queued, in order.
-/

namespace LanShield.Library.Program

variable {State Failure Value : Type} {invariant : State → Prop}
  {program : Program State Failure Value} {state : State}

/-- What follows a value starts from the state left with it. -/
theorem final_bind {Result : Type} {value : Value} {after : State}
    {next : Value → Program State Failure Result}
    (returned : program.outcome state = (.ok value, after)) :
    (program >>= next).final state = (next value).final after := by
  rw [final, final, outcome_bind, returned]

theorem final_bind_pure {Result : Type} (result : Result) :
    (program >>= fun _ => pure result).final state = program.final state := by
  rw [final, final, outcome_bind]
  rcases program.outcome state with ⟨failure | value, after⟩
  · rfl
  · rfl

/-- A program that returns with the invariant keeps it. -/
private theorem Ends.keepsAt
    (ends : Ends (fun _ after => invariant after) (fun _ => False) program
      state) :
    KeepsAt invariant (fun _ => False) program state := by
  obtain ⟨value, outcome, holds⟩ := ends.returned
  refine ⟨holds, ?_⟩
  intro failure thrown
  rw [outcome] at thrown
  cases thrown

theorem KeepsAt.returns
    (kept : KeepsAt invariant (fun _ => False) program state) :
    Ends (fun _ after => invariant after) (fun _ => False) program state := by
  obtain ⟨holds, calm⟩ := kept
  rw [final] at holds
  rw [Ends]
  rcases ended : program.outcome state with ⟨failure | value, after⟩
  · rw [ended] at calm
    exact calm failure rfl
  · rw [ended] at holds
    exact holds

end LanShield.Library.Program

namespace LanShield.Vpn

open LanShield.Library LanShield.Java LanShield.Transport Program

/-- The response to a datagram of this length need not fit the link, whatever
options its IP header has. -/
def Oversized (data : List UInt8) : Prop :=
  mtu < 68 + data.length

/-- The packets answer the datagrams in order; over IPv4 they are replies. -/
abbrev Answered (key : SessionKey) :
    List (List UInt8) → List (List UInt8) → Prop :=
  RepliedInOrder (fun data packet => key.IsIPv4 → IsReply key data packet)
    Oversized

/-- The channel takes a datagram or refuses it, but does not throw. -/
def ChannelWorks (outcomes : List WriteOutcome) : Prop :=
  ∀ exception, outcomes.head? ≠ some (.failure exception)

/-- A session the thread has selected, with its client's headers, what the
channel will answer to a write, and the engine as it was then. -/
structure Service where
  id : Nat
  key : SessionKey
  ipHeader : IPHeader
  udpheader : UDPHeader
  complete : ipHeader.Complete
  fromClient : FromClient key ipHeader udpheader
  writes : List WriteOutcome
  start : Engine

/-- The datagrams with the channel, on their way to it, and waiting for it.
-/
def SessionRecord.uploads (recorded : SessionRecord)
    (held : List (List UInt8)) : List (List UInt8) :=
  recorded.sent ++ held ++ recorded.queued

namespace Service

/-- Since the session was selected some datagrams have been received and
their replies written, and the queue of the client has moved on; what is held
has left it and is not with the channel yet. -/
structure Holding (service : Service) (held : List (List UInt8))
    (engine : Engine) : Prop where
  isRegistered : (engine.sessions service.id).isRegistered = true
  isDatagram : (engine.sessions service.id).channel.isSocket = false
  lastIpHeader :
    (engine.sessions service.id).recorded.lastIpHeader =
      some service.ipHeader
  lastUdpHeader :
    (engine.sessions service.id).recorded.lastUdpHeader =
      some service.udpheader
  served :
    ∃ datagrams packets,
      (engine.sessions service.id).recorded.received =
          (service.start.sessions service.id).recorded.received ++
            datagrams ∧
        engine.written = service.start.written ++ packets ∧
          Answered service.key datagrams packets
  nonempty :
    ∀ bytes ∈ held ++ (engine.sessions service.id).recorded.queued,
      bytes ≠ []
  uploads :
    Passed (ChannelWorks service.writes)
      ((service.start.sessions service.id).recorded.uploads [])
      ((engine.sessions service.id).recorded.uploads held)

/-- The same between two writes. -/
abbrev Holds (service : Service) (engine : Engine) : Prop :=
  service.Holding [] engine

/-- The program serves the session and throws nothing. -/
abbrev KeptBy (service : Service) {Value : Type} (program : Running Value) :
    Prop :=
  Keeps service.Holds (fun _ => False) program

section Rules

variable {service : Service} {engine : Engine}
  {held received : List (List UInt8)}

theorem Holding.of_eq {after : Engine}
    (holding : service.Holding held engine)
    (object :
      after.sessions service.id = engine.sessions service.id)
    (written : after.written = engine.written) :
    service.Holding held after := by
  obtain ⟨isRegistered, isDatagram, lastIp, lastUdp, served, nonempty,
    uploads⟩ := holding
  rw [← object] at isRegistered isDatagram lastIp lastUdp served nonempty
  rw [← object] at uploads
  rw [← written] at served
  exact
    ⟨isRegistered, isDatagram, lastIp, lastUdp, served, nonempty, uploads⟩

/-- The datagrams of the queue move on. -/
theorem Holding.move {later sent queued : List (List UInt8)}
    {update : SessionObject → SessionObject}
    (holding : service.Holding held engine)
    (isRegistered :
      (update (engine.sessions service.id)).isRegistered =
        (engine.sessions service.id).isRegistered)
    (isDatagram :
      (update (engine.sessions service.id)).channel.isSocket =
        (engine.sessions service.id).channel.isSocket)
    (recorded :
      (update (engine.sessions service.id)).recorded =
        { (engine.sessions service.id).recorded with
          sent := sent
          queued := queued })
    (nonempty : ∀ bytes ∈ later ++ queued, bytes ≠ [])
    (passed :
      Passed (ChannelWorks service.writes)
        ((engine.sessions service.id).recorded.uploads held)
        (sent ++ later ++ queued)) :
    service.Holding later (engine.updateObject service.id update) := by
  refine ⟨?_, ?_, ?_, ?_, ?_, ?_, ?_⟩
  · rw [Engine.updateObject_self, isRegistered]
    exact holding.isRegistered
  · rw [Engine.updateObject_self, isDatagram]
    exact holding.isDatagram
  · rw [Engine.updateObject_self, recorded]
    exact holding.lastIpHeader
  · rw [Engine.updateObject_self, recorded]
    exact holding.lastUdpHeader
  · rw [Engine.updateObject_self, recorded]
    exact holding.served
  · rw [Engine.updateObject_self, recorded]
    exact nonempty
  · rw [Engine.updateObject_self, recorded]
    exact holding.uploads.trans passed

theorem Holding.update {id : Nat} {update : SessionObject → SessionObject}
    (holding : service.Holding held engine)
    (isRegistered :
      (update (engine.sessions id)).isRegistered =
        (engine.sessions id).isRegistered)
    (isDatagram :
      (update (engine.sessions id)).channel.isSocket =
        (engine.sessions id).channel.isSocket)
    (recorded :
      (update (engine.sessions id)).recorded =
        (engine.sessions id).recorded) :
    service.Holding held (engine.updateObject id update) := by
  by_cases own : service.id = id
  · subst id
    exact
      holding.move isRegistered isDatagram recorded holding.nonempty
        (.refl _)
  · exact holding.of_eq (Engine.updateObject_of_ne own) rfl

theorem Holding.closeChannel (holding : service.Holding held engine)
    (id : Nat) :
    service.Holding held
      (engine.updateObject id SessionObject.closeChannel) := by
  apply holding.update
  · rfl
  · rw [SessionObject.closeChannel]
    cases (engine.sessions id).channel with
    | socket channel => rfl
    | datagram channel => rfl
  · exact SessionObject.recorded_closeChannel _

theorem Holding.settles {program : Running Unit}
    (holds : service.Holds engine) (kept : service.KeptBy program)
    (result : Except SocketException Nat) :
    Ends (fun _ after => service.Holds after) (fun _ => False)
      (program >>= fun _ => pure result) engine :=
  ((kept.bind fun _ => keeps_pure result) engine holds).returns

private theorem keptBy_readSession (id : Nat) : service.KeptBy
    (readSession id) :=
  fun _ holds => ⟨holds, nofun⟩

private theorem keptBy_readObject (id : Nat) : service.KeptBy
    (readObject id) :=
  fun _ holds => ⟨holds, nofun⟩

/-- What is read of the object may be used with the engine it was read in.
-/
private theorem keptBy_object {Value : Type}
    {next : SessionObject → Running Value}
    (right :
      ∀ engine, service.Holds engine →
        service.KeptBy (next (engine.sessions service.id))) :
    service.KeptBy (readObject service.id >>= next) :=
  fun engine holds => right engine holds engine holds

private theorem keptBy_updateSession {id : Nat} {update : Session → Session}
    (same : ∀ session, SameOrigin session (update session)) :
    service.KeptBy (updateSession id update) :=
  keeps_modify fun _ holds =>
    holds.update rfl rfl (same _).recorded

/-- A registered session has a key. -/
private theorem keptBy_updateKey {update : Session → Session}
    (same : ∀ session, SameOrigin session (update session)) :
    service.KeptBy (updateKey service.id update) := by
  apply keptBy_object
  intro engine holds
  rw [if_pos holds.isRegistered]
  exact keptBy_updateSession same

private theorem keptBy_subscribeKey (op : SelectionOp) :
    service.KeptBy (subscribeKey op service.id) :=
  keptBy_updateKey fun _ => ⟨rfl, rfl, rfl, rfl⟩

private theorem keptBy_unsubscribeKey (op : SelectionOp) :
    service.KeptBy (unsubscribeKey op service.id) :=
  keptBy_updateKey fun _ => ⟨rfl, rfl, rfl, rfl⟩

private theorem keptBy_cancelKey : service.KeptBy (cancelKey service.id) :=
  keptBy_updateKey fun _ => ⟨rfl, rfl, rfl, rfl⟩

private theorem keptBy_setAbortingConnection :
    service.KeptBy (setAbortingConnection service.id) :=
  keptBy_updateSession fun _ => ⟨rfl, rfl, rfl, rfl⟩

private theorem keptBy_closeSession (key : SessionKey) :
    service.KeptBy (closeSession key) := by
  apply keeps_modify
  intro engine holds
  rw [Engine.closeSession]
  cases engine.table key with
  | none => exact holds
  | some removed => exact (holds.closeChannel removed).of_eq rfl rfl

private theorem keptBy_closeSessionOf :
    service.KeptBy (closeSessionOf service.id) :=
  (keptBy_readSession _).bind fun _ => keptBy_closeSession _

private theorem ends_getPacketId {Last : Type} {next : Int → Running Last}
    {returns : Last → Engine → Prop} {throws : Engine → Prop}
    (right :
      Ends returns throws (next (engine.packetIds 0))
        { engine with
          packetIds := fun index => engine.packetIds (index + 1) }) :
    Ends returns throws (getPacketId >>= next) engine :=
  right

/-- The response to a datagram is built. -/
private theorem buildUdpResponse_replies
    (lastIp :
      (engine.sessions service.id).session.lastIpHeader =
        some service.ipHeader)
    (lastUdp :
      (engine.sessions service.id).session.lastUdpHeader =
        some service.udpheader)
    (data : List UInt8) :
    Ends
      (fun packet after =>
        after.sessions = engine.sessions ∧
          after.written = engine.written ∧
            packet.length ≤ 68 + data.length ∧
              (service.key.IsIPv4 → IsReply service.key data packet))
      (fun _ => False) (NioThread.buildUdpResponse data service.id)
      engine := by
  unfold NioThread.buildUdpResponse
  apply ends_readSession
  rw [lastIp, lastUdp]
  obtain ⟨packet, created, length, isReply⟩ :=
    createResponsePacket_replies service.complete service.fromClient data
      (engine.packetIds 0)
  apply ends_getPacketId
  rw [created]
  exact ends_pure ⟨rfl, rfl, length, isReply⟩

/-- The response is written, or the datagram may be dropped. -/
private theorem sendUdpResponse_answers
    (lastIp :
      (engine.sessions service.id).session.lastIpHeader =
        some service.ipHeader)
    (lastUdp :
      (engine.sessions service.id).session.lastUdpHeader =
        some service.udpheader)
    (data : List UInt8) :
    Ends
      (fun _ after =>
        after.sessions = engine.sessions ∧
          ∃ packets,
            after.written = engine.written ++ packets ∧
              Answered service.key [data] packets)
      (fun _ => False) (NioThread.sendUdpResponse data service.id)
      engine := by
  apply (buildUdpResponse_replies lastIp lastUdp data).bind
  rintro packet after ⟨sessions, written, length, isReply⟩
  by_cases long : mtu < packet.length
  · rw [if_pos long]
    apply ends_pure
    refine ⟨sessions, [], ?_, .dropped ?_ .nil⟩
    · rw [written, List.append_nil]
    · exact long.trans_le length
  · rw [if_neg long]
    apply ends_modify_bind
    apply ends_pure
    refine ⟨sessions, [packet], ?_, .replied isReply .nil⟩
    show after.written ++ [packet] = engine.written ++ [packet]
    rw [written]

/-- `channel.read` returns a datagram. -/
def receive (data : List UInt8) (object : SessionObject) : SessionObject :=
  { object with
    channel :=
      object.channel.mapDatagram fun channel =>
        { channel with received := channel.received ++ [data] } }

private theorem recorded_receive {data : List UInt8} {object : SessionObject}
    (isDatagram : object.channel.isSocket = false) :
    (receive data object).recorded =
      { object.recorded with
        received := object.recorded.received ++ [data] } := by
  rw [receive, SessionObject.recorded, SessionObject.recorded]
  cases channel_eq : object.channel with
  | socket channel =>
      rw [channel_eq] at isDatagram
      cases isDatagram
  | datagram channel => rfl

private theorem isSocket_receive (data : List UInt8)
    (object : SessionObject) :
    (receive data object).channel.isSocket = object.channel.isSocket := by
  rw [receive]
  cases object.channel with
  | socket channel => rfl
  | datagram channel => rfl

/-- A datagram that has been received is answered. -/
private theorem keptBy_respond (data : List UInt8) :
    service.KeptBy
      (modify (Engine.updateObject service.id (receive data)) >>=
        fun _ => NioThread.sendUdpResponse data service.id) := by
  intro engine holds
  obtain ⟨datagrams, packets, received, written, answered⟩ := holds.served
  have recorded :
      ((engine.updateObject service.id (receive data)).sessions
          service.id).recorded =
        { (engine.sessions service.id).recorded with
          received :=
            (engine.sessions service.id).recorded.received ++ [data] } := by
    rw [Engine.updateObject_self, recorded_receive holds.isDatagram]
  have sent :=
    sendUdpResponse_answers
      ((congrArg SessionRecord.lastIpHeader recorded).trans
        holds.lastIpHeader)
      ((congrArg SessionRecord.lastUdpHeader recorded).trans
        holds.lastUdpHeader)
      data
  apply Ends.keepsAt
  apply ends_modify_bind
  apply sent.mono
  rintro _ after ⟨sessions, replies, after_written, answers⟩
  refine ⟨?_, ?_, ?_, ?_, ?_, ?_, ?_⟩
  · rw [sessions, Engine.updateObject_self]
    exact holds.isRegistered
  · rw [sessions, Engine.updateObject_self, isSocket_receive]
    exact holds.isDatagram
  · rw [sessions, recorded]
    exact holds.lastIpHeader
  · rw [sessions, recorded]
    exact holds.lastUdpHeader
  · refine
      ⟨datagrams ++ [data], packets ++ replies, ?_, ?_,
        answered.append answers⟩
    · rw [sessions, recorded, received, List.append_assoc]
    · rw [after_written, ← List.append_assoc, ← written]
      rfl
  · rw [sessions, recorded]
    exact holds.nonempty
  · rw [sessions, recorded]
    exact holds.uploads

private theorem keptBy_readFailed (logged : SocketException → Bool)
    (exception : SocketException) :
    service.KeptBy
      (NioThread.readFailed logged exception service.id) :=
  .ite (keeps_pure _) keptBy_setAbortingConnection

private theorem keptBy_readUDP (outcomes : List ReadOutcome) :
    service.KeptBy (NioThread.readUDP service.id outcomes) := by
  induction outcomes with
  | nil => exact keeps_pure _
  | cons outcome later inductionHypothesis =>
      unfold NioThread.readUDP
      apply (keptBy_readSession _).bind
      intro session
      apply Keeps.ite
      · exact keeps_pure _
      cases outcome with
      | data chunk =>
          have answered :=
            (keptBy_respond chunk.bytes).bind fun counted =>
              inductionHypothesis.bind fun bytesRead =>
                keeps_pure (counted + bytesRead)
          exact answered
      | nothing => exact keeps_pure _
      | endOfStream => exact keeps_pure _
      | failure exception =>
          apply (keptBy_readFailed _ _).bind
          intro _
          exact keeps_pure _

private theorem keptBy_readChannel (outcomes : List ReadOutcome) :
    service.KeptBy (NioThread.readChannel outcomes service.id) := by
  apply keptBy_object
  intro engine holds
  have isDatagram := holds.isDatagram
  split
  · next socket =>
    rw [socket] at isDatagram
    cases isDatagram
  · exact keptBy_readUDP outcomes

private theorem keptBy_closeIfConnected :
    service.KeptBy (NioThread.closeIfConnected service.id) := by
  apply (keptBy_readObject _).bind
  intro object
  apply Keeps.ite
  · exact keeps_modify fun _ holds => holds.closeChannel _
  · exact keeps_pure _

private theorem keptBy_removeAborted :
    service.KeptBy (NioThread.removeAborted service.id) := by
  apply (keptBy_readSession _).bind
  intro session
  apply Keeps.ite
  · apply keptBy_cancelKey.bind
    intro _
    apply keptBy_closeIfConnected.bind
    intro _
    exact keptBy_closeSessionOf
  · exact keeps_pure _

private theorem keptBy_resubscribe :
    service.KeptBy (NioThread.resubscribe service.id) := by
  apply (keptBy_readObject _).bind
  intro object
  apply Keeps.ite
  · exact keptBy_subscribeKey .read
  · exact keeps_pure _

private theorem keptBy_read (outcomes : List ReadOutcome) :
    service.KeptBy (NioThread.read outcomes service.id) := by
  apply (keptBy_readChannel outcomes).bind
  intro bytesRead
  apply keptBy_resubscribe.bind
  intro _
  apply keptBy_removeAborted.bind
  intro _
  exact keeps_pure _

private theorem keptBy_processSelectorRead
    (ready : SocketNIODataService.Readiness) :
    service.KeptBy (NioThread.processSelectorRead ready service.id) := by
  apply (keptBy_readSession _).bind
  intro session
  apply Keeps.ite
  · apply (keptBy_read ready.reads).bind
    intro bytesRead
    exact keptBy_updateSession fun _ => ⟨rfl, rfl, rfl, rfl⟩
  · exact keeps_pure _

private theorem keptBy_allWritten :
    service.KeptBy (NioThread.allWritten service.id) :=
  Keeps.bind (keptBy_updateSession fun _ => ⟨rfl, rfl, rfl, rfl⟩)
    fun _ => keptBy_unsubscribeKey .write

/-- The queue of the session. -/
def setQueued (queued : List (List UInt8)) (session : Session) : Session :=
  { session with sendingDatagrams := queued }

/-- The datagram at the head leaves the queue. -/
theorem Holding.take {bytes : List UInt8} {later : List (List UInt8)}
    (holds : service.Holds engine)
    (waiting :
      (engine.sessions service.id).session.sendingDatagrams =
        bytes :: later) :
    service.Holding [bytes]
      (engine.updateObject service.id
        (SessionObject.updateSession (setQueued later))) := by
  have queued :
      (engine.sessions service.id).recorded.queued = bytes :: later :=
    waiting
  apply holds.move rfl rfl rfl
  · have nonempty := holds.nonempty
    rw [List.nil_append, queued] at nonempty
    exact nonempty
  · apply Passed.of_eq
    rw [SessionRecord.uploads, queued, List.append_nil, List.append_assoc]
    rfl

/-- It is put back. -/
theorem Holding.putBack {bytes : List UInt8}
    (holding : service.Holding [bytes] engine) :
    service.Holds
      (engine.updateObject service.id
        (SessionObject.updateSession fun session =>
          setQueued (bytes :: session.sendingDatagrams) session)) := by
  apply holding.move rfl rfl rfl
  · exact holding.nonempty
  · apply Passed.of_eq
    rw [SessionRecord.uploads, List.append_nil, List.append_assoc]
    rfl

/-- The channel has taken a datagram. -/
def transmit (bytes : List UInt8) (object : SessionObject) :
    SessionObject :=
  { object with
    channel :=
      object.channel.mapDatagram fun channel =>
        { channel with sent := channel.sent ++ [bytes] } }

private theorem Holding.transmit {bytes : List UInt8}
    (holding : service.Holding [bytes] engine) :
    service.Holds
      (engine.updateObject service.id (Service.transmit bytes)) := by
  have isDatagram := holding.isDatagram
  have uploads :
      (engine.sessions service.id).recorded.uploads [bytes] =
        (engine.sessions service.id).recorded.sent ++ [bytes] ++ [] ++
          (engine.sessions service.id).recorded.queued := by
    rw [SessionRecord.uploads, List.append_nil]
  cases channel_eq : (engine.sessions service.id).channel with
  | socket channel =>
      rw [channel_eq] at isDatagram
      cases isDatagram
  | datagram channel =>
      apply holding.move rfl
      · rw [Service.transmit, channel_eq]
        rfl
      · rw [Service.transmit, SessionObject.recorded,
          SessionObject.recorded, channel_eq]
        rfl
      · intro bytes inside
        exact holding.nonempty bytes (List.mem_append_right _ inside)
      · apply Passed.of_eq
        rw [uploads, SessionObject.recorded, channel_eq]
        rfl

/-- A datagram whose write has failed is lost. -/
theorem Holding.lose (holding : service.Holding held engine)
    (fails : ¬ ChannelWorks service.writes) : service.Holds engine where
  isRegistered := holding.isRegistered
  isDatagram := holding.isDatagram
  lastIpHeader := holding.lastIpHeader
  lastUdpHeader := holding.lastUdpHeader
  served := holding.served
  nonempty bytes inside :=
    holding.nonempty bytes (List.mem_append_right _ inside)
  uploads := by
    refine holding.uploads.trans ⟨?_, fun works => absurd works fails⟩
    rw [SessionRecord.uploads, SessionRecord.uploads, List.append_nil]
    exact
      (List.sublist_append_left _ held).append_right
        (engine.sessions service.id).recorded.queued

/-- The channel takes a datagram, refuses it, or throws. -/
theorem ends_writeDatagram {bytes : List UInt8}
    (holding : service.Holding [bytes] engine) :
    Ends
      (fun result after =>
        (∃ exception,
            result = .error exception ∧ service.Holds after) ∨
          (result = .ok 0 ∧ service.Holding [bytes] after) ∨
            ∃ count, result = .ok (count + 1) ∧ service.Holds after)
      (fun _ => False)
      (NioThread.writeDatagram service.writes bytes service.id) engine := by
  have nonempty := holding.nonempty bytes List.mem_cons_self
  rcases writes : service.writes with
    _ | ⟨(_ | accepted) | exception, later⟩
  · exact ends_pure (.inr (.inl ⟨rfl, holding⟩))
  · exact ends_pure (.inr (.inl ⟨rfl, holding⟩))
  · rw [NioThread.writeDatagram]
    apply ends_modify_bind
    apply ends_pure
    obtain ⟨count, length⟩ :=
      Nat.exists_eq_succ_of_ne_zero
        (List.length_pos_iff.mpr nonempty).ne'
    refine .inr (.inr ⟨count, ?_, holding.transmit⟩)
    rw [length]
  · refine ends_pure (.inl ⟨exception, rfl, holding.lose ?_⟩)
    intro works
    exact works exception (by rw [writes]; rfl)

private theorem keptBy_writePendingUDPData :
    service.KeptBy
      (NioThread.writePendingUDPData service.writes service.id) := by
  intro engine holds
  apply Ends.keepsAt
  rw [NioThread.writePendingUDPData]
  apply ends_readSession
  cases waiting :
      (engine.sessions service.id).session.sendingDatagrams with
  | nil =>
      exact holds.settles keptBy_allWritten _
  | cons bytes later =>
      apply ends_modify_bind
      apply (ends_writeDatagram (holds.take waiting)).bind
      rintro result after
        (⟨exception, rfl, kept⟩ | ⟨rfl, kept⟩ | ⟨count, rfl, kept⟩)
      · exact ends_pure kept
      · apply ends_modify_bind
        exact kept.putBack.settles (keptBy_subscribeKey .write) _
      · have settled :
            Ends (fun _ after => service.Holds after) (fun _ => False)
              (if later.isEmpty then
                NioThread.allWritten service.id >>= fun _ =>
                  (pure (.ok (count + 1)) :
                    Running (Except SocketException Nat))
              else
                subscribeKey .write service.id >>= fun _ =>
                  pure (.ok (count + 1)))
              after := by
          split
          · exact kept.settles keptBy_allWritten _
          · exact kept.settles (keptBy_subscribeKey .write) _
        exact settled

private theorem keptBy_writeUDP :
    service.KeptBy (NioThread.writeUDP service.writes service.id) := by
  apply keptBy_writePendingUDPData.bind
  intro result
  split
  · exact keeps_pure _
  · apply keptBy_setAbortingConnection.bind
    intro _
    exact keeps_pure _

private theorem keptBy_writeUpstream :
    service.KeptBy (NioThread.writeUpstream service.writes service.id) := by
  apply Keeps.bind
  · apply keptBy_object
    intro engine holds
    have isDatagram := holds.isDatagram
    split
    · next socket =>
      rw [socket] at isDatagram
      cases isDatagram
    · exact keptBy_writeUDP
  · intro bytesWritten
    apply keptBy_removeAborted.bind
    intro _
    exact keeps_pure _

private theorem keptBy_processPendingWrite
    {ready : SocketNIODataService.Readiness}
    (writes : ready.writes = service.writes) :
    service.KeptBy (NioThread.processPendingWrite ready service.id) := by
  apply (keptBy_readSession _).bind
  intro session
  apply Keeps.ite
  · exact keptBy_unsubscribeKey .write
  apply Keeps.ite
  · apply (keptBy_unsubscribeKey .write).bind
    intro _
    rw [writes]
    apply keptBy_writeUpstream.bind
    intro bytesWritten
    exact keptBy_updateSession fun _ => ⟨rfl, rfl, rfl, rfl⟩
  · exact keeps_pure _

private theorem keptBy_processConnectable
    (ready : SocketNIODataService.Readiness) :
    service.KeptBy (NioThread.processConnectable ready service.id) := by
  apply keptBy_object
  intro engine holds
  have isDatagram := holds.isDatagram
  split
  · next socket =>
    rw [socket] at isDatagram
    cases isDatagram
  · exact keeps_pure _

private theorem keptBy_processSelectionKey
    {ready : SocketNIODataService.Readiness}
    (writes : ready.writes = service.writes) :
    service.KeptBy (NioThread.processSelectionKey ready service.id) := by
  apply (keptBy_readSession _).bind
  intro session
  apply Keeps.ite
  · apply (keptBy_processConnectable ready).bind
    intro _
    apply (keptBy_readObject _).bind
    intro object
    apply Keeps.ite
    · apply (keptBy_unsubscribeKey .connect).bind
      intro _
      apply (keptBy_subscribeKey .read).bind
      intro _
      apply (keptBy_processSelectorRead ready).bind
      intro _
      exact keptBy_processPendingWrite writes
    · exact keeps_pure _
  · exact keeps_pure _

/-- The thread serves the session and goes on. -/
theorem Holding.runSelectedKey (holds : service.Holds engine)
    {ready : SocketNIODataService.Readiness}
    (writes : ready.writes = service.writes) :
    service.Holds (NioThread.runSelectedKey ready service.id engine) := by
  obtain ⟨served, calm⟩ := keptBy_processSelectionKey writes engine holds
  rw [final] at served
  rw [NioThread.runSelectedKey]
  rcases ended :
      (NioThread.processSelectionKey ready service.id).outcome engine with
    ⟨exception | value, after⟩
  · rw [ended] at calm
    exact (calm exception rfl).elim
  · rw [ended] at served
    exact served

end Rules

end Service

end LanShield.Vpn
