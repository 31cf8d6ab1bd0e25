import LanShield.Transport.TCPPacketFactory
import LanShield.Transport.UDPPacketFactory

/-!
# What the parsers read

For each parser, where in the buffer the fields of a header it returns come
from, and where it leaves the position.
-/

namespace LanShield.Transport

open LanShield.Library LanShield.Java

/-- The fixed fields at the position of a buffer. -/
def IPv4Header.fixedHeader (stream : ByteBuffer) : IPv4Header :=
  let field (offset count : Nat) : Nat :=
    bigEndian (slice stream.array (stream.position + offset) count)
  { ipVersion := signed8 (field 0 1) / 16
    internetHeaderLength := field 0 1 % 16
    dscpOrTypeOfService := signed8 (field 1 1) / 4
    ecn := signed8 (field 1 1) % 4
    payloadLength := signed16 (field 2 2) % 65536 - (field 0 1 % 16 : Nat)
    identification := signed16 (field 4 2)
    flag := 0
    mayFragment := bitSet (signed16 (field 6 2)) 14
    lastFragment := bitSet (signed16 (field 6 2)) 13
    fragmentOffset := signed16 (field 6 2) % 8192
    timeToLive := signed8 (field 8 1)
    ipv4Protocol := signed8 (field 9 1)
    protocol := protocolOf (signed8 (field 9 1))
    headerChecksum := signed16 (field 10 2)
    sourceIP := ⟨slice stream.array (stream.position + 12) 4⟩
    destinationIP := ⟨slice stream.array (stream.position + 16) 4⟩ }

theorem IPv4Header.ofStream_header {stream after : ByteBuffer}
    {header : IPv4Header}
    (parsed : IPv4Header.ofStream stream = .ok (header, after)) :
    signed8 (bigEndian (slice stream.array stream.position 1)) / 16 = 4 ∧
      header = fixedHeader stream ∧
      20 + 4 * (header.internetHeaderLength - 5) ≤ stream.remaining ∧
      after =
        stream.advance (20 + 4 * (header.internetHeaderLength - 5)) := by
  rw [IPv4Header.ofStream] at parsed
  rw [Reading.get_bind] at parsed
  split at parsed
  · simp at parsed
  · next enough =>
    rw [Reading.bind_eq_ok] at parsed
    obtain ⟨first, _, read, parsed⟩ := parsed
    obtain ⟨_, rfl, rfl⟩ := Reading.getByte_eq_ok.mp read
    dsimp only at parsed
    split at parsed
    · simp at parsed
    · next version =>
      split at parsed
      · simp at parsed
      · simp only [Reading.bind_eq_ok, Reading.getByte_eq_ok,
          Reading.getShort_eq_ok, IPAddress.ofStream,
          Reading.getBytes_eq_ok, Reading.pure_eq_ok, and_assoc,
          exists_and_left, exists_eq_left,
          ByteBuffer.advance_advance, ByteBuffer.array_advance,
          ByteBuffer.remaining_advance, Nat.reduceAdd] at parsed
        obtain ⟨-, -, -, -, -, -, -, -, -, options, rfl, rfl⟩ := parsed
        have length_eq :
            (signed8 (bigEndian (slice stream.array stream.position 1)) %
                16).toNat =
              bigEndian (slice stream.array stream.position 1) % 16 := by
          rw [signed8]
          omega
        have position_eq {count : Nat} (fits : count ≤ 20) :
            (stream.advance count).position = stream.position + count :=
          ByteBuffer.position_advance (fits.trans (Nat.not_lt.mp enough))
        rw [length_eq] at options
        have total :
            20 + 4 *
                (bigEndian (slice stream.array stream.position 1) % 16 -
                  5) ≤
              stream.remaining := by
          omega
        refine ⟨not_not.mp version, ?_, ?_, ?_⟩
        · rw [length_eq, position_eq (by decide : 1 ≤ 20),
            position_eq (by decide : 2 ≤ 20),
            position_eq (by decide : 4 ≤ 20),
            position_eq (by decide : 6 ≤ 20),
            position_eq (by decide : 8 ≤ 20),
            position_eq (by decide : 9 ≤ 20),
            position_eq (by decide : 10 ≤ 20),
            position_eq (by decide : 12 ≤ 20),
            position_eq (by decide : 16 ≤ 20)]
          rfl
        · dsimp only
          rw [length_eq]
          exact total
        · dsimp only
          rw [length_eq]
          exact congrArg stream.advance (by omega)

theorem IPv4Header.ofStream_fields {stream after : ByteBuffer}
    {header : IPv4Header}
    (parsed : IPv4Header.ofStream stream = .ok (header, after)) :
    signed8 (bigEndian (slice stream.array stream.position 1)) / 16 = 4 ∧
      header.internetHeaderLength =
        bigEndian (slice stream.array stream.position 1) % 16 ∧
      header.protocol =
        protocolOf
          (signed8
            (bigEndian (slice stream.array (stream.position + 9) 1))) ∧
      header.sourceIP = ⟨slice stream.array (stream.position + 12) 4⟩ ∧
      header.destinationIP =
        ⟨slice stream.array (stream.position + 16) 4⟩ ∧
      20 + 4 * (header.internetHeaderLength - 5) ≤ stream.remaining ∧
      after = stream.advance (20 + 4 * (header.internetHeaderLength - 5)) := by
  obtain ⟨version, header_eq, room, after_eq⟩ := ofStream_header parsed
  rw [header_eq] at room after_eq ⊢
  have protocol :
      (fixedHeader stream).protocol =
        protocolOf
          (signed8
            (bigEndian (slice stream.array (stream.position + 9) 1))) := by
    rw [fixedHeader]
  exact ⟨version, rfl, protocol, rfl, rfl, room, after_eq⟩

/-- The same for IPv6. -/
def IPv6Header.fixedHeader (stream : ByteBuffer) : IPv6Header :=
  let field (offset count : Nat) : Nat :=
    bigEndian (slice stream.array (stream.position + offset) count)
  { ipVersion := signed8 (field 0 1) / 16
    trafficClass :=
      signed8 (signed8 (field 0 1) % 16 * 16 + signed8 (field 1 1) / 16)
    flowLabel := signed8 (field 1 1) * 65536 + signed16 (field 2 2)
    payloadLength := signed16 (field 4 2)
    nextHeader := signed8 (field 6 1)
    protocol := protocolOf (signed8 (field 6 1))
    hopLimit := signed8 (field 7 1)
    sourceIP := ⟨slice stream.array (stream.position + 8) 16⟩
    destinationIP := ⟨slice stream.array (stream.position + 24) 16⟩ }

theorem IPv6Header.ofStream_header {stream after : ByteBuffer}
    {header : IPv6Header}
    (parsed : IPv6Header.ofStream stream = .ok (header, after)) :
    signed8 (bigEndian (slice stream.array stream.position 1)) / 16 = 6 ∧
      header = fixedHeader stream ∧
      40 ≤ stream.remaining ∧ after = stream.advance 40 := by
  rw [IPv6Header.ofStream] at parsed
  rw [Reading.get_bind] at parsed
  split at parsed
  · simp at parsed
  · next enough =>
    rw [Reading.bind_eq_ok] at parsed
    obtain ⟨first, _, read, parsed⟩ := parsed
    obtain ⟨_, rfl, rfl⟩ := Reading.getByte_eq_ok.mp read
    split at parsed
    · simp at parsed
    · next version =>
      simp only [Reading.bind_eq_ok, Reading.getByte_eq_ok,
        Reading.getShort_eq_ok, IPAddress.ofStream,
        Reading.getBytes_eq_ok, Reading.pure_eq_ok, and_assoc,
        exists_and_left, exists_eq_left,
        ByteBuffer.advance_advance, ByteBuffer.array_advance,
        ByteBuffer.remaining_advance, Nat.reduceAdd] at parsed
      obtain ⟨-, -, -, -, -, -, -, rfl, rfl⟩ := parsed
      have position_eq {count : Nat} (fits : count ≤ 40) :
          (stream.advance count).position = stream.position + count :=
        ByteBuffer.position_advance (fits.trans (Nat.not_lt.mp enough))
      refine ⟨not_not.mp version, ?_, Nat.not_lt.mp enough, rfl⟩
      rw [position_eq (by decide : 1 ≤ 40),
        position_eq (by decide : 2 ≤ 40),
        position_eq (by decide : 4 ≤ 40),
        position_eq (by decide : 6 ≤ 40),
        position_eq (by decide : 7 ≤ 40),
        position_eq (by decide : 8 ≤ 40),
        position_eq (by decide : 24 ≤ 40)]
      rfl

theorem IPv6Header.ofStream_fields {stream after : ByteBuffer}
    {header : IPv6Header}
    (parsed : IPv6Header.ofStream stream = .ok (header, after)) :
    signed8 (bigEndian (slice stream.array stream.position 1)) / 16 = 6 ∧
      header.protocol =
        protocolOf
          (signed8
            (bigEndian (slice stream.array (stream.position + 6) 1))) ∧
      header.sourceIP = ⟨slice stream.array (stream.position + 8) 16⟩ ∧
      header.destinationIP =
        ⟨slice stream.array (stream.position + 24) 16⟩ ∧
      40 ≤ stream.remaining ∧
      after = stream.advance 40 := by
  obtain ⟨version, header_eq, room, after_eq⟩ := ofStream_header parsed
  rw [header_eq]
  have protocol :
      (fixedHeader stream).protocol =
        protocolOf
          (signed8
            (bigEndian (slice stream.array (stream.position + 6) 1))) := by
    rw [fixedHeader]
  exact ⟨version, protocol, rfl, rfl, room, after_eq⟩

namespace TCPPacketFactory

/-- Two headers that agree on everything but what options set. -/
def SameFixedFields (first second : TCPHeader) : Prop :=
  first =
    { second with
      maxSegmentSize := first.maxSegmentSize
      windowScale := first.windowScale
      isSelectiveAckPermitted := first.isSelectiveAckPermitted
      timeStampSender := first.timeStampSender
      timeStampReplyTo := first.timeStampReplyTo }

theorem SameFixedFields.refl (header : TCPHeader) :
    SameFixedFields header header :=
  rfl

theorem SameFixedFields.trans {first second third : TCPHeader}
    (left : SameFixedFields first second)
    (right : SameFixedFields second third) :
    SameFixedFields first third := by
  rw [SameFixedFields] at *
  rw [left, right]

/-- A property of headers that no option takes away.  A maximum segment
size is read as a `short`. -/
structure KeptByOptions (holds : TCPHeader → Prop) : Prop where
  maxSegmentSize :
    ∀ header value, -2 ^ 15 ≤ value → value < 2 ^ 15 → holds header →
      holds { header with maxSegmentSize := value }
  windowScale :
    ∀ header value, holds header → holds { header with windowScale := value }
  selectiveAck :
    ∀ header, holds header →
      holds { header with isSelectiveAckPermitted := true }
  timeStamps :
    ∀ header sender replyTo, holds header →
      holds
        { header with
          timeStampSender := sender
          timeStampReplyTo := replyTo }

/-- The option loop keeps such a property, and reads the same array. -/
theorem handleTcpOptions_keeps {holds : TCPHeader → Prop}
    (kept : KeptByOptions holds) {optionsSize : Int} {rounds : Nat} :
    ∀ {index : Int} {header result : TCPHeader}
      {stream after : ByteBuffer},
      holds header →
        handleTcpOptions optionsSize rounds index header stream =
            .ok (result, after) →
          holds result ∧
            after.array = stream.array ∧ after.limit = stream.limit := by
  induction rounds with
  | zero =>
      intro index header result stream after start parsed
      rw [handleTcpOptions] at parsed
      split at parsed
      · cases parsed
      · rw [Reading.pure_eq_ok] at parsed
        obtain ⟨rfl, rfl⟩ := parsed
        exact ⟨start, rfl, rfl⟩
  | succ rounds inductionHypothesis =>
      intro index header result stream after start parsed
      rw [handleTcpOptions] at parsed
      split at parsed
      · simp only [Reading.bind_eq_ok, Reading.getByte_eq_ok,
          and_assoc, exists_and_left, exists_eq_left] at parsed
        obtain ⟨-, parsed⟩ := parsed
        split at parsed
        · have later := inductionHypothesis start parsed
          exact later
        · simp only [skipRemainingOptions, Reading.bind_eq_ok,
            Reading.getByte_eq_ok, and_assoc, exists_and_left,
            exists_eq_left] at parsed
          obtain ⟨-, parsed⟩ := parsed
          split_ifs at parsed
          · simp only [Reading.bind_eq_ok, Reading.getShort_eq_ok,
              and_assoc, exists_and_left, exists_eq_left] at parsed
            have later :=
              inductionHypothesis
                (kept.maxSegmentSize header _ (neg_le_signed16 _)
                  (signed16_lt _) start)
                parsed.2
            exact later
          · simp only [Reading.bind_eq_ok, Reading.getByte_eq_ok,
              and_assoc, exists_and_left, exists_eq_left] at parsed
            have later :=
              inductionHypothesis (kept.windowScale header _ start)
                parsed.2
            exact later
          · have later :=
              inductionHypothesis (kept.selectiveAck header start) parsed
            exact later
          · simp only [Reading.bind_eq_ok, Reading.getInt_eq_ok,
              and_assoc, exists_and_left, exists_eq_left] at parsed
            have later :=
              inductionHypothesis (kept.timeStamps header _ _ start)
                parsed.2.2
            exact later
          · simp only [Reading.bind_eq_ok, Reading.getBytes_eq_ok,
              Reading.pure_eq_ok, and_assoc, exists_and_left,
              exists_eq_left] at parsed
            obtain ⟨-, -, _, parsed⟩ := parsed
            have later := inductionHypothesis start parsed
            rw [ByteBuffer.array_advance, ByteBuffer.array_advance,
              ByteBuffer.array_advance, ByteBuffer.limit_advance,
              ByteBuffer.limit_advance, ByteBuffer.limit_advance] at later
            exact later
      · rw [Reading.pure_eq_ok] at parsed
        obtain ⟨rfl, rfl⟩ := parsed
        exact ⟨start, rfl, rfl⟩

/-- The option loop sets option fields only. -/
private theorem handleTcpOptions_fields {optionsSize : Int} {rounds : Nat}
    {index : Int} {header result : TCPHeader} {stream after : ByteBuffer}
    (parsed :
      handleTcpOptions optionsSize rounds index header stream =
        .ok (result, after)) :
    SameFixedFields result header ∧
      after.array = stream.array ∧ after.limit = stream.limit := by
  have kept :
      KeptByOptions fun current => SameFixedFields current header := by
    refine ⟨?_, ?_, ?_, ?_⟩
    · intro current value _ _ same
      exact @SameFixedFields.trans _ current header rfl same
    · intro current value same
      exact @SameFixedFields.trans _ current header rfl same
    · intro current same
      exact @SameFixedFields.trans _ current header rfl same
    · intro current sender replyTo same
      exact @SameFixedFields.trans _ current header rfl same
  exact handleTcpOptions_keeps kept (SameFixedFields.refl header) parsed

/-- The header `createTCPHeader` reads from the twenty fixed bytes. -/
def fixedHeader (stream : ByteBuffer) : TCPHeader :=
  let field (offset count : Nat) : Nat :=
    bigEndian (slice stream.array (stream.position + offset) count)
  TCPHeader.create (field 0 2) (field 2 2)
    (signed32 (field 4 4)) (signed32 (field 8 4))
    (signed8 (field 12 1) % 256 / 16).toNat
    (bitSet (signed8 (field 12 1)) 0)
    (byteOf (signed8 (field 13 1))) (signed16 (field 14 2))
    (signed16 (field 16 2)) (signed16 (field 18 2))

theorem signed16_bigEndian_mod (array : List UInt8) (start : Nat) :
    (signed16 (bigEndian (slice array start 2)) % 65536).toNat =
      bigEndian (slice array start 2) := by
  have bound := bigEndian_slice_lt array start 2
  rw [signed16]
  omega

theorem createTCPHeader_fields {stream after : ByteBuffer}
    {header : TCPHeader}
    (parsed : createTCPHeader stream = .ok (header, after)) :
    20 ≤ stream.remaining ∧
      SameFixedFields header (fixedHeader stream) ∧
      after.array = stream.array ∧ after.limit = stream.limit := by
  rw [createTCPHeader] at parsed
  rw [Reading.get_bind] at parsed
  split at parsed
  · simp at parsed
  · next enough =>
    have position_eq {count : Nat} (fits : count ≤ 20) :
        (stream.advance count).position = stream.position + count :=
      ByteBuffer.position_advance (fits.trans (Nat.not_lt.mp enough))
    rw [Reading.bind_eq_ok] at parsed
    obtain ⟨sourcePort, afterSource, readSource, parsed⟩ := parsed
    rw [Reading.bind_eq_ok] at parsed
    obtain ⟨destPort, afterDest, readDest, parsed⟩ := parsed
    rw [Reading.bind_eq_ok] at parsed
    obtain ⟨sequenceNumber, afterSequence, readSequence, parsed⟩ := parsed
    rw [Reading.bind_eq_ok] at parsed
    obtain ⟨ackNumber, afterAck, readAck, parsed⟩ := parsed
    rw [Reading.bind_eq_ok] at parsed
    obtain ⟨dataOffsetAndNs, afterOffset, readOffset, parsed⟩ := parsed
    rw [Reading.get_bind] at parsed
    dsimp only at parsed
    split at parsed
    · simp at parsed
    · obtain ⟨-, valueSource, restSource⟩ :=
        Reading.getShort_eq_ok.mp readSource
      subst restSource
      obtain ⟨-, valueDest, restDest⟩ :=
        Reading.getShort_eq_ok.mp readDest
      subst restDest
      obtain ⟨-, valueSequence, restSequence⟩ :=
        Reading.getInt_eq_ok.mp readSequence
      subst restSequence
      obtain ⟨-, valueAck, restAck⟩ :=
        Reading.getInt_eq_ok.mp readAck
      subst restAck
      obtain ⟨-, valueOffset, restOffset⟩ :=
        Reading.getByte_eq_ok.mp readOffset
      subst restOffset
      simp only [valueSource, valueDest, valueSequence, valueAck,
        valueOffset, Reading.bind_eq_ok, Reading.getByte_eq_ok,
        Reading.getShort_eq_ok, and_assoc, exists_and_left,
        exists_eq_left, ByteBuffer.advance_advance,
        ByteBuffer.array_advance, ByteBuffer.remaining_advance,
        Nat.reduceAdd] at parsed
      obtain ⟨-, -, -, -, parsed⟩ := parsed
      rw [position_eq (by decide : 2 ≤ 20),
        position_eq (by decide : 4 ≤ 20),
        position_eq (by decide : 8 ≤ 20),
        position_eq (by decide : 12 ≤ 20),
        position_eq (by decide : 13 ≤ 20),
        position_eq (by decide : 14 ≤ 20),
        position_eq (by decide : 16 ≤ 20),
        position_eq (by decide : 18 ≤ 20),
        signed16_bigEndian_mod, signed16_bigEndian_mod] at parsed
      split at parsed
      · have later := handleTcpOptions_fields parsed
        exact ⟨Nat.not_lt.mp enough, later⟩
      · rw [Reading.pure_eq_ok] at parsed
        obtain ⟨rfl, rfl⟩ := parsed
        exact
          ⟨Nat.not_lt.mp enough, SameFixedFields.refl _, rfl, rfl⟩

end TCPPacketFactory

theorem UDPPacketFactory.createUDPHeader_fields
    {stream after : ByteBuffer} {header : UDPHeader}
    (parsed : createUDPHeader stream = .ok (header, after)) :
    8 ≤ stream.remaining ∧
      header.sourcePort =
        bigEndian (slice stream.array stream.position 2) ∧
      header.destinationPort =
        bigEndian (slice stream.array (stream.position + 2) 2) ∧
      after = stream.advance 8 := by
  rw [createUDPHeader] at parsed
  rw [Reading.get_bind] at parsed
  split at parsed
  · simp at parsed
  · next enough =>
    simp only [Reading.bind_eq_ok, Reading.getShort_eq_ok,
      Reading.pure_eq_ok, and_assoc, exists_and_left,
      exists_eq_left, ByteBuffer.advance_advance,
      ByteBuffer.array_advance, ByteBuffer.remaining_advance,
      Nat.reduceAdd] at parsed
    obtain ⟨-, -, -, -, rfl, rfl⟩ := parsed
    have position_eq :
        (stream.advance 2).position = stream.position + 2 :=
      ByteBuffer.position_advance (by omega)
    rw [position_eq, TCPPacketFactory.signed16_bigEndian_mod,
      TCPPacketFactory.signed16_bigEndian_mod]
    exact ⟨Nat.not_lt.mp enough, rfl, rfl, rfl⟩

end LanShield.Transport
