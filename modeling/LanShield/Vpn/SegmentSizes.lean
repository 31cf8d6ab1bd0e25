import LanShield.Transport.OptionWalk
import LanShield.Vpn.NioThread
import LanShield.Vpn.SegmentRules

/-!
# The sizes of the packets for a client

`pumpToClient` cuts the download into segments of sixty bytes less than the
client's maximum segment size, or of 1024 bytes, and puts the headers of the
client's latest packet before each.  `readUDP` looks at the length of the
packet it has built.
-/

namespace LanShield.Vpn

open LanShield.Library LanShield.Java LanShield.Transport
  SocketChannelReader

/-- The client takes the payload, and the link the packet. -/
structure FitsClient (announced : List Nat) (packet : Packet) : Prop where
  payload : ∀ size ∈ announced, 1 ≤ size → packet.data.length ≤ size
  total :
    ∀ packetId bytes,
      packet.getBuffer packetId = .ok bytes → bytes.length ≤ mtu

/-- Behind these headers the link has room for a segment of this size. -/
def HasRoomFor (segMax : Int) (ipHeader : IPHeader) (tcpheader : TCPHeader) :
    Prop :=
  segMax + headersLength ipHeader tcpheader ≤ mtu

instance (segMax : Int) (ipHeader : IPHeader) (tcpheader : TCPHeader) :
    Decidable (HasRoomFor segMax ipHeader tcpheader) :=
  inferInstanceAs (Decidable (_ ≤ _))

section Rule

variable {announced : List Nat} {segMax : Int} {ipHeader : IPHeader}
  {tcpheader : TCPHeader}

/-- A segment of at most `segMax` bytes behind headers that leave room. -/
private theorem fitsClient_segment
    (limit : ∀ size ∈ announced, 1 ≤ size → segMax ≤ size)
    (room : HasRoomFor segMax ipHeader tcpheader) {packetBody : List UInt8}
    (few : (packetBody.length : Int) ≤ segMax) (isPsh : Bool)
    (ackNumber seqNumber timeSender timeReplyto : Int) :
    FitsClient announced
      (TCPPacketFactory.createResponsePacketData ipHeader tcpheader
        packetBody isPsh ackNumber seqNumber timeSender timeReplyto) := by
  constructor
  · intro size known positive
    have within := limit size known positive
    change packetBody.length ≤ size
    omega
  · intro packetId bytes built
    rw [Packet.length_getBuffer built,
      headersLength_createResponsePacketData]
    have total : segMax + headersLength ipHeader tcpheader ≤ mtu := room
    have payload :
        ((TCPPacketFactory.createResponsePacketData ipHeader tcpheader
            packetBody isPsh ackNumber seqNumber timeSender
            timeReplyto).data.length : Int) ≤ segMax := few
    omega

private theorem fitsClient_fin (positive : 1 ≤ segMax)
    (room : HasRoomFor segMax ipHeader tcpheader)
    (ackNumber seqNumber timeSender timeReplyTo : Int) :
    FitsClient announced
      (TCPPacketFactory.createFinData ipHeader tcpheader ackNumber seqNumber
        timeSender timeReplyTo) := by
  constructor
  · intro size _ _
    exact Nat.zero_le size
  · intro packetId bytes built
    have total : segMax + headersLength ipHeader tcpheader ≤ mtu := room
    rw [Packet.length_getBuffer built, headersLength_createFinData]
    change headersLength ipHeader tcpheader + 0 ≤ mtu
    omega

/-- Segments of at most `segMax` bytes, behind headers that leave room for
them. -/
def sizeRule (announced : List Nat) (segMax : Int) (positive : 1 ≤ segMax)
    (limit : ∀ size ∈ announced, 1 ≤ size → segMax ≤ size) :
    SegmentRule where
  segMax := segMax
  allows := FitsClient announced
  room := fun _ => HasRoomFor segMax
  segment := fun room _ few => fitsClient_segment limit room few
  fin := by
    intro window ipHeader tcpheader room ackNumber seqNumber timeSender
      timeReplyTo
    refine ⟨fitsClient_fin positive room _ _ _ _, ?_⟩
    rw [HasRoomFor, headersLength_createFinData]
    exact room

end Rule

private theorem emission_resubscribe (connection : TcpConnection) :
    (resubscribe connection).emission = connection.emission := by
  rw [resubscribe]
  by_cases room : connection.session.receivingStreamSize < stagingCap
  · rw [if_pos room]
    split
    · exact emission_removeAborted _
    · rfl
  · rw [if_neg room]
    split
    · exact emission_removeAborted connection
    · rfl

private theorem emission_nioPart (connection : TcpConnection)
    (part : NioPart) :
    (part.apply connection).emission = connection.emission := by
  cases part with
  | connectFailed => rfl
  | connectAnswered connected => rfl
  | subscribeRead => rfl
  | finishRead bytesRead => exact emission_resubscribe connection
  | processPendingWrite ready =>
      exact emission_processPendingWrite ready connection

private theorem emission_readAnswered (connection : TcpConnection)
    (result : ReadOutcome) :
    (readAnswered connection result).connection.emission =
      connection.emission := by
  cases result with
  | data chunk => rfl
  | nothing => rfl
  | endOfStream => rfl
  | failure exception => exact emission_readFailed exception connection

private theorem obeys_proceed {rule : SegmentRule} {reader : Reader}
    (obeys : Obeys rule reader.connection.emission)
    (outcome : ReadOutcome) :
    Obeys rule (reader.proceed outcome).connection.emission := by
  obtain ⟨connection, point⟩ := reader
  cases point with
  | outside => exact obeys
  | check =>
      rw [Reader.proceed]
      dsimp only
      split
      · exact obeys
      · exact obeys
  | read => exact obeys.of_eq (emission_readAnswered _ _)
  | pump => exact obeys_pumpToClient obeys
  | pumpEnd => exact obeys_pumpToClient obeys

/-- Nothing but packets the link can carry has been written. -/
def WritesWithin (before after : Engine) : Prop :=
  ∃ packets,
    after.written = before.written ++ packets ∧
      ∀ packet ∈ packets, packet.length ≤ mtu

theorem WritesWithin.of_eq {before after : Engine}
    (same : after.written = before.written) :
    WritesWithin before after :=
  ⟨[], same.trans (List.append_nil _).symm, by simp⟩

instance : Std.Refl WritesWithin :=
  ⟨fun _ => .of_eq rfl⟩

instance : IsTrans Engine WritesWithin where
  trans := by
    rintro first second third ⟨earlier, grown, small⟩
      ⟨later, grownAgain, smallAgain⟩
    refine ⟨earlier ++ later, ?_, ?_⟩
    · rw [grownAgain, grown, List.append_assoc]
    · intro packet written
      rcases List.mem_append.mp written with first | last
      · exact small packet first
      · exact smallAgain packet last

section Datagrams

open Program NioThread

variable {id : Nat}

private theorem within_readSession : Respects WritesWithin (readSession id) :=
  respects_get.bind fun _ => respects_pure _

/-- A change of a session object writes nothing. -/
private theorem within_updateObject (update : SessionObject → SessionObject) :
    Respects WritesWithin
      (modify (Engine.updateObject id update) : Running Unit) :=
  respects_modify fun _ => .of_eq rfl

private theorem within_built (bytes : Except JavaException (List UInt8)) :
    Respects WritesWithin (built bytes) := by
  cases bytes with
  | ok data => exact respects_pure _
  | error exception => exact respects_throw _

private theorem within_buildUdpResponse (data : List UInt8) :
    Respects WritesWithin (buildUdpResponse data id) := by
  apply within_readSession.bind
  intro session
  split
  · apply Respects.bind
    · intro engine
      exact .of_eq rfl
    · intro packetId
      exact within_built _
  · exact respects_throw _

/-- Only a packet within the MTU is written. -/
private theorem within_sendUdpResponse (data : List UInt8) :
    Respects WritesWithin (sendUdpResponse data id) := by
  apply (within_buildUdpResponse data).bind
  intro packetData
  split
  · exact respects_pure _
  · next small =>
    apply Respects.bind
    · apply respects_modify
      intro engine
      refine ⟨[packetData], rfl, ?_⟩
      intro packet written
      rw [List.mem_singleton.mp written]
      exact Nat.not_lt.mp small
    · intro _
      exact respects_pure _

private theorem within_readUDP (outcomes : List ReadOutcome) :
    Respects WritesWithin (readUDP id outcomes) := by
  induction outcomes with
  | nil => exact respects_pure _
  | cons outcome later inductionHypothesis =>
      unfold readUDP
      apply within_readSession.bind
      intro session
      apply Respects.ite
      · exact respects_pure _
      · cases outcome with
        | data chunk =>
            apply (within_updateObject _).bind
            intro _
            apply (within_sendUdpResponse chunk.bytes).bind
            intro counted
            apply inductionHypothesis.bind
            intro bytesRead
            exact respects_pure _
        | nothing => exact respects_pure _
        | endOfStream => exact respects_pure _
        | failure exception =>
            apply Respects.bind
            · exact .ite (respects_pure _) (within_updateObject _)
            · intro _
              exact respects_pure _

end Datagrams

/-- What segments are cut to for a maximum segment size: sixty bytes less, or
1024 bytes where that leaves nothing or the size is negative as a `short`. -/
def segmentSize (announced : Int) : Int :=
  if 61 ≤ announced ∧ announced < 2 ^ 15 then announced - 60 else 1024

private theorem segmentSize_pos (announced : Int) :
    1 ≤ segmentSize announced := by
  rw [segmentSize]
  split
  · omega
  · norm_num

/-- Every size that the bytes of a SYN announce has room for the segments of
the download. -/
def SizesUsable (tcp : List UInt8) : Prop :=
  ∀ size ∈ announcedSizes (optionArea tcp),
    1 ≤ size → segmentSize (walkedSize tcp) ≤ size

instance : DecidablePred SizesUsable :=
  fun _ => inferInstanceAs (Decidable (∀ _ ∈ _, _ → _))

/-- Behind the headers of each segment that reaches the session there is room
for the segments of the download. -/
def HeadersLeaveRoom (segMax : Int) (reader : Reader) : ReaderEvent → Prop
  | .handleTCPPacket segment _ =>
      SessionHandler.Reaches reader.connection segment →
        HasRoomFor segMax segment.ipHeader segment.tcpheader
  | .nio _ => True
  | .readTCP => True
  | .proceed _ => True

instance (segMax : Int) (reader : Reader) :
    DecidablePred (HeadersLeaveRoom segMax reader)
  | .handleTCPPacket _ _ => inferInstanceAs (Decidable (_ → _))
  | .nio _ => inferInstanceAs (Decidable True)
  | .readTCP => inferInstanceAs (Decidable True)
  | .proceed _ => inferInstanceAs (Decidable True)

/-- The size of the segments, for the option the walk ends with. -/
private theorem maxSegment_eq_segmentSize {session : Session} {size : Nat}
    (small : size < 65536)
    (stored : session.maxSegmentSize = signed16 size) :
    maxSegment session = segmentSize size := by
  rw [maxSegment, segmentSize, stored, signed16]
  split_ifs <;> omega

/-- With a single option the size is usable when it is zero or larger than
what the code takes off it. -/
theorem segmentSize_le_iff {announced : Nat} :
    (1 ≤ announced → segmentSize announced ≤ announced) ↔
      announced = 0 ∨ 61 ≤ announced := by
  rw [segmentSize]
  split
  · omega
  · omega

/-- A segment that neither the window nor the buffer cuts short fits exactly
for usable sizes and headers with room. -/
theorem full_segment_fits_iff {tcp : List UInt8} {ipHeader : IPHeader}
    {tcpheader : TCPHeader} (ipComplete : ipHeader.Complete)
    (tcpComplete : tcpheader.Complete) {packetBody : List UInt8}
    (full : (packetBody.length : Int) = segmentSize (walkedSize tcp))
    (isPsh : Bool) (ackNumber seqNumber timeSender timeReplyto : Int) :
    FitsClient (announcedSizes (optionArea tcp))
        (TCPPacketFactory.createResponsePacketData ipHeader tcpheader
          packetBody isPsh ackNumber seqNumber timeSender timeReplyto) ↔
      SizesUsable tcp ∧
        HasRoomFor (segmentSize (walkedSize tcp)) ipHeader tcpheader := by
  constructor
  · intro fitting
    constructor
    · intro size announced positive
      rw [← full]
      exact Int.ofNat_le.mpr (fitting.payload size announced positive)
    · have short : packetBody.length < 2 ^ 15 - 60 := by
        rw [segmentSize] at full
        split at full
        · omega
        · omega
      obtain ⟨bytes, built⟩ :=
        TCPPacketFactory.createResponsePacketData_built ipComplete
          tcpComplete short isPsh ackNumber seqNumber timeSender timeReplyto
          0
      have total := fitting.total 0 bytes built
      rw [Packet.length_getBuffer built,
        headersLength_createResponsePacketData] at total
      have payload :
          (TCPPacketFactory.createResponsePacketData ipHeader tcpheader
            packetBody isPsh ackNumber seqNumber timeSender
            timeReplyto).data = packetBody := rfl
      rw [payload] at total
      rw [HasRoomFor]
      omega
  · rintro ⟨limit, room⟩
    exact
      fitsClient_segment limit room (le_of_eq full) isPsh ackNumber
        seqNumber timeSender timeReplyto

section Run

variable {rule : SegmentRule}

/-- The rule has room for what a segment of the run brings. -/
def EventAdmitted (rule : SegmentRule) (reader : Reader) :
    ReaderEvent → Prop
  | .handleTCPPacket segment _ => rule.Admits reader.connection segment
  | .nio _ => True
  | .readTCP => True
  | .proceed _ => True

private theorem obeys_readerStep (reader : Reader) (event : ReaderEvent)
    (admitted : EventAdmitted rule reader event)
    (obeys : Obeys rule reader.connection.emission) :
    Obeys rule (readerStep reader event).connection.emission := by
  cases event with
  | handleTCPPacket segment currentTime =>
      exact obeys_handleTCPPacket admitted obeys currentTime
  | nio part =>
      rw [readerStep]
      split
      · exact obeys.of_eq (emission_nioPart reader.connection part)
      · exact obeys
  | readTCP =>
      rw [readerStep]
      split
      · exact obeys
      · exact obeys
  | proceed outcome => exact obeys_proceed obeys outcome

private theorem obeys_run {events : List ReaderEvent} {reader : Reader}
    (meets : StepsMeet readerStep (EventAdmitted rule) reader events)
    (obeys : Obeys rule reader.connection.emission) :
    Obeys rule (run readerStep reader events).connection.emission :=
  @run_guarded_invariant Reader ReaderEvent readerStep (EventAdmitted rule)
    (fun reader => Obeys rule reader.connection.emission) obeys_readerStep
    events reader obeys meets

end Run

/-- The rule for a client whose SYN has these bytes. -/
def clientRule (tcp : List UInt8) (usable : SizesUsable tcp) : SegmentRule :=
  sizeRule (announcedSizes (optionArea tcp)) (segmentSize (walkedSize tcp))
    (segmentSize_pos _) usable

theorem HeadersLeaveRoom.admitted {tcp : List UInt8}
    (usable : SizesUsable tcp) {reader : Reader} {event : ReaderEvent}
    (leaves :
      HeadersLeaveRoom (segmentSize (walkedSize tcp)) reader event) :
    EventAdmitted (clientRule tcp usable) reader event := by
  cases event with
  | handleTCPPacket segment currentTime => exact leaves
  | nio part => trivial
  | readTCP => trivial
  | proceed outcome => trivial

private theorem obeys_opened {stream after : ByteBuffer} {syn : ClientSegment}
    (parsed :
      TCPPacketFactory.createTCPHeader stream = .ok (syn.tcpheader, after))
    (opening : SessionHandler.Opening) (usable : SizesUsable stream.unread)
    (room :
      HasRoomFor (segmentSize (walkedSize stream.unread)) syn.ipHeader
        syn.tcpheader) :
    Obeys (clientRule stream.unread usable)
      (SessionHandler.replySynAck syn opening).emission := by
  have walked := TCPPacketFactory.maxSegmentSize_walk parsed
  have stored :
      (SessionHandler.replySynAck syn opening).session.maxSegmentSize =
        syn.tcpheader.maxSegmentSize := rfl
  rw [← stored] at walked
  have limit :=
    maxSegment_eq_segmentSize (walkedSize_lt stream.unread) walked
  exact obeys_replySynAck limit room

/-- From a SYN with usable sizes on, while the headers of the client leave
room, all that `pumpToClient` writes fits the client and the link.  All that
`readUDP` writes fits the link. -/
theorem segments_fit_client {stream after : ByteBuffer}
    {syn : ClientSegment}
    (parsed :
      TCPPacketFactory.createTCPHeader stream = .ok (syn.tcpheader, after))
    (opening : SessionHandler.Opening) (usable : SizesUsable stream.unread)
    (room :
      HasRoomFor (segmentSize (walkedSize stream.unread)) syn.ipHeader
        syn.tcpheader)
    {events : List ReaderEvent}
    (meets :
      StepsMeet readerStep
        (HeadersLeaveRoom (segmentSize (walkedSize stream.unread)))
        ⟨SessionHandler.replySynAck syn opening, .outside⟩ events) :
    (∀ visited, visited <+: events →
        ∀ entry ∈
          (run readerStep
            ⟨SessionHandler.replySynAck syn opening, .outside⟩
            visited).connection.written,
          entry.sender = .pumpToClient →
            FitsClient (announcedSizes (optionArea stream.unread))
              entry.packet) ∧
      ∀ id outcomes engine,
        WritesWithin engine
          ((NioThread.readUDP id outcomes).final engine) := by
  refine ⟨?_, fun id outcomes engine => within_readUDP outcomes engine⟩
  intro visited isPrefix entry written sender
  have admitted :=
    (meets.of_isPrefix isPrefix).imp fun _ _ leaves =>
      HeadersLeaveRoom.admitted usable leaves
  have obeys :=
    obeys_run admitted (obeys_opened parsed opening usable room)
  exact obeys.allows written (Or.inl sender)

/-- A SYN with the maximum segment size of these two bytes. -/
def announcingBytes (high low : UInt8) : List UInt8 :=
  [4, 0, 0, 80, 0, 0, 0, 7, 0, 0, 0, 0, 0x60, 0x02, 3, 232, 0, 0, 0, 0,
    2, 4, high, low]

def announcingSyn (high low : UInt8) : ClientSegment :=
  { ClientSegment.plain 0x02 7 0 1000 [] with
    tcpheader :=
      { (ClientSegment.plain 0x02 7 0 1000 []).tcpheader with
        dataOffset := 6
        maxSegmentSize := signed16 (high.toNat * 256 + low.toNat) }
    data := (ByteBuffer.wrap (announcingBytes high low)).advance 24
    dataOffset_le := Nat.le_add_left 6 9
    sequenceNumber_ge := neg_le_signed32 7
    sequenceNumber_lt := signed32_lt 7
    ackNumber_ge := neg_le_signed32 0
    ackNumber_lt := signed32_lt 0 }

/-- The server sends two bytes and the client acknowledges them. -/
def twoBytesDownloaded : List ReaderEvent :=
  [.readTCP, .proceed .nothing,
    .proceed (.data ⟨[72, 105], by decide, by decide⟩),
    .proceed .nothing,
    .handleTCPPacket (ClientSegment.plain 0x10 8 103 1000 []) 0]

def openedAtOnce : SessionHandler.Opening where
  random := 100
  currentTime := 0
  connected := true

theorem segments_fit_client_ethernet :
    (∃ entry ∈
        (run readerStep
          ⟨SessionHandler.replySynAck (announcingSyn 5 180) openedAtOnce,
            .outside⟩
          twoBytesDownloaded).connection.written,
        entry.sender = .pumpToClient ∧ entry.packet.data = [72, 105]) ∧
      ∀ entry ∈
        (run readerStep
          ⟨SessionHandler.replySynAck (announcingSyn 5 180) openedAtOnce,
            .outside⟩
          twoBytesDownloaded).connection.written,
        entry.sender = .pumpToClient →
          FitsClient [1460] entry.packet := by
  refine ⟨by decide, ?_⟩
  exact
    (@segments_fit_client (ByteBuffer.wrap (announcingBytes 5 180))
      ((ByteBuffer.wrap (announcingBytes 5 180)).advance 24)
      (announcingSyn 5 180) (by decide +kernel) openedAtOnce (by decide)
      (by decide) twoBytesDownloaded (by decide)).1
      twoBytesDownloaded List.prefix_rfl

/-- A client that announces one byte is sent both in one segment. -/
theorem one_byte_announced :
    TCPPacketFactory.createTCPHeader
        (ByteBuffer.wrap (announcingBytes 0 1)) =
      .ok
        ((announcingSyn 0 1).tcpheader,
          (ByteBuffer.wrap (announcingBytes 0 1)).advance 24) ∧
      announcedSizes (optionArea (announcingBytes 0 1)) = [1] ∧
      ∃ entry ∈
        (run readerStep
          ⟨SessionHandler.replySynAck (announcingSyn 0 1) openedAtOnce,
            .outside⟩
          twoBytesDownloaded).connection.written,
        entry.sender = .pumpToClient ∧ ¬ FitsClient [1] entry.packet := by
  refine ⟨by decide +kernel, by decide, ?_⟩
  have sent :
      ∃ entry ∈
        (run readerStep
          ⟨SessionHandler.replySynAck (announcingSyn 0 1) openedAtOnce,
            .outside⟩
          twoBytesDownloaded).connection.written,
        entry.sender = .pumpToClient ∧ entry.packet.data.length = 2 := by
    decide
  obtain ⟨entry, written, sender, length⟩ := sent
  refine ⟨entry, written, sender, ?_⟩
  intro fitting
  have payload :=
    fitting.payload 1 (List.mem_singleton.mpr rfl) (Nat.le_refl 1)
  omega

end LanShield.Vpn
