import LanShield.Transport.ResponsePackets

/-!
# The flags of a reply

The builders copy the flag byte of the client's header and assign some of
its bits; the other bits, the NS bit and the urgent pointer are sent back as
they came.
-/

namespace LanShield.Transport

open LanShield.Library LanShield.Java

namespace TCPHeader

/-- The flag bits of a header and its urgent pointer. -/
structure Control where
  isNS : Bool
  tcpFlags : UInt8
  urgentPointer : Int
  deriving DecidableEq, Repr

def control (header : TCPHeader) : Control where
  isNS := header.isNS
  tcpFlags := header.tcpFlags
  urgentPointer := header.urgentPointer

/-- Two headers that agree on the NS bit, on the urgent pointer and on the
flags of a mask. -/
structure SameUnder (mask : UInt8) (first second : TCPHeader) : Prop where
  isNS : first.isNS = second.isNS
  tcpFlags : first.tcpFlags &&& mask = second.tcpFlags &&& mask
  urgentPointer : first.urgentPointer = second.urgentPointer

/-- Under a mask two assigned bytes agree exactly when they agreed on its
other bits. -/
private theorem assignFlag_and_eq_iff (mask bit first second : UInt8)
    (value : Bool) :
    assignFlag first bit value &&& mask =
        assignFlag second bit value &&& mask ↔
      first &&& (mask &&& ~~~bit) = second &&& (mask &&& ~~~bit) := by
  rw [← UInt8.toBitVec_inj, ← UInt8.toBitVec_inj]
  simp only [BitVec.eq_of_getElem_eq_iff]
  refine forall_congr' fun index => forall_congr' fun inside => ?_
  rw [assignFlag, assignFlag]
  cases value with
  | true =>
      simp only [if_true, UInt8.toBitVec_and, UInt8.toBitVec_or,
        UInt8.toBitVec_not, BitVec.getElem_and, BitVec.getElem_or,
        BitVec.getElem_not]
      cases bit.toBitVec[index] <;> simp
  | false =>
      simp only [Bool.false_eq_true, if_false, UInt8.toBitVec_and,
        UInt8.toBitVec_not, BitVec.getElem_and, BitVec.getElem_not]
      cases bit.toBitVec[index] <;> simp

/-- The four flags most builders assign. -/
def assignFlags (isACK isSYN isPSH isFIN : Bool) (flags : UInt8) : UInt8 :=
  assignFlag
    (assignFlag (assignFlag (assignFlag flags 0x10 isACK) 0x02 isSYN) 0x08
      isPSH)
    0x01 isFIN

/-- The two flags of a SYN-ACK. -/
def assignSynAck (flags : UInt8) : UInt8 :=
  assignFlag (assignFlag flags 0x10 true) 0x02 true

private theorem assignFlags_eq_iff (isACK isSYN isPSH isFIN : Bool)
    (first second : UInt8) :
    assignFlags isACK isSYN isPSH isFIN first =
        assignFlags isACK isSYN isPSH isFIN second ↔
      first &&& 0xE4 = second &&& 0xE4 := by
  have whole (byte : UInt8) : byte &&& 0xFF = byte := UInt8.and_neg_one
  have rest :
      ((((0xFF : UInt8) &&& ~~~0x01) &&& ~~~0x08) &&& ~~~0x02) &&& ~~~0x10 =
        0xE4 := by
    decide
  rw [assignFlags, assignFlags, ← rest,
    ← assignFlag_and_eq_iff _ 0x10 first second isACK,
    ← assignFlag_and_eq_iff _ 0x02 _ _ isSYN,
    ← assignFlag_and_eq_iff _ 0x08 _ _ isPSH,
    ← assignFlag_and_eq_iff _ 0x01 _ _ isFIN, whole, whole]

private theorem assignSynAck_eq_iff (first second : UInt8) :
    assignSynAck first = assignSynAck second ↔
      first &&& 0xED = second &&& 0xED := by
  have whole (byte : UInt8) : byte &&& 0xFF = byte := UInt8.and_neg_one
  have rest :
      (((0xFF : UInt8) &&& ~~~0x02) &&& ~~~0x10) = 0xED := by
    decide
  rw [assignSynAck, assignSynAck, ← rest,
    ← assignFlag_and_eq_iff _ 0x10 first second true,
    ← assignFlag_and_eq_iff _ 0x02 _ _ true, whole, whole]

end TCPHeader

namespace TCPPacketFactory

/-- What a receiver reads of the flags and the urgent pointer. -/
def controlOf (tcp : List UInt8) : TCPHeader.Control where
  isNS := tcp.getD 12 0 &&& 1 != 0
  tcpFlags := tcp.getD 13 0
  urgentPointer := signed16 (bigEndian (slice tcp 18 2))

/-- The packet can be built, and its array carries this. -/
def Sends (packet : Packet) (control : TCPHeader.Control) : Prop :=
  ∃ packetId bytes,
    packet.getBuffer packetId = .ok bytes ∧
      controlOf (packet.tcpBytes bytes) = control

private theorem offsetByte_isNS (dataOffset : Nat) (isNS : Bool) :
    ((byteOf (dataOffset * 16) ||| (if isNS then 1 else 0)) &&& 1 != 0) =
      isNS := by
  have even : byteOf (dataOffset * 16) &&& 1 = 0 := by
    apply UInt8.toNat_inj.mp
    rw [UInt8.toNat_and]
    change (byteOf (dataOffset * 16)).toNat &&& 2 ^ 1 - 1 = 0
    rw [Nat.and_two_pow_sub_one_eq_mod, byteOf, UInt8.toNat_ofNat']
    omega
  cases isNS with
  | true =>
      exact TCPHeader.assignFlag_and (by decide) _ true
  | false =>
      rw [if_neg Bool.false_ne_true, UInt8.or_zero, even]
      decide

/-- A header without options is written with its flags and its urgent
pointer. -/
private theorem controlOf_tcpBytes {packet : Packet} {packetId : Int}
    {bytes : List UInt8} (plain : packet.transportHeader.options = none)
    (least : -2 ^ 15 ≤ packet.transportHeader.urgentPointer)
    (short : packet.transportHeader.urgentPointer < 2 ^ 15)
    (built : packet.getBuffer packetId = .ok bytes) :
    controlOf (packet.tcpBytes bytes) = packet.transportHeader.control := by
  obtain ⟨ipBuffer, tcpBuffer, ipBuilt, tcpBuilt, slices⟩ :=
    createPacketData_slice built
  have long := createTCPHeaderData_long tcpBuilt
  have tcp_length := length_createTCPHeaderData tcpBuilt
  have tcp_words :
      packet.transportHeader.getTCPHeaderLength =
        packet.transportHeader.dataOffset * 4 :=
    rfl
  have tcp_eq := createTCPHeaderData_plain plain tcpBuilt
  have tcpBytes_eq : packet.tcpBytes bytes = bytes.drop ipBuffer.length := by
    rw [Packet.tcpBytes, ipBuilt]
  have field (start count : Nat) (inside : start + count ≤ 20)
      (apart : start + count ≤ 16 ∨ 18 ≤ start) :
      slice (bytes.drop ipBuffer.length) start count =
        slice (fixedFields packet.transportHeader) start count := by
    rw [slice_drop, slices start count (by omega) apart, tcp_eq]
    apply slice_append_left
    rw [length_fixedFields]
    exact inside
  have offset_eq :=
    getD_of_slice (field 12 1 (by decide) (Or.inl (by decide)))
  have flags_eq :=
    getD_of_slice (field 13 1 (by decide) (Or.inl (by decide)))
  have urgent_eq := field 18 2 (by decide) (Or.inr (by decide))
  have urgent :
      slice (fixedFields packet.transportHeader) 18 2 =
        toBigEndian 2 packet.transportHeader.urgentPointer :=
    rfl
  rw [controlOf, tcpBytes_eq, offset_eq, flags_eq, urgent_eq, urgent,
    signed16_field, offsetByte_isNS, signed16_eq_self least short]
  rfl

/-- A parsed urgent pointer is a `short`. -/
private theorem createTCPHeader_urgentPointer {stream after : ByteBuffer}
    {header : TCPHeader}
    (parsed : createTCPHeader stream = .ok (header, after)) :
    -2 ^ 15 ≤ header.urgentPointer ∧ header.urgentPointer < 2 ^ 15 := by
  obtain ⟨-, same, -⟩ := createTCPHeader_fields parsed
  rw [SameFixedFields] at same
  rw [same]
  exact ⟨neg_le_signed16 _, signed16_lt _⟩

/-- What is sent for two client headers agrees exactly when they agree
under the mask. -/
def LeaksUnder (mask : UInt8) (first second : TCPHeader)
    (build : TCPHeader → Packet) : Prop :=
  ∀ sent other,
    Sends (build first) sent → Sends (build second) other →
      (sent = other ↔ first.SameUnder mask second)

/-- A builder that keeps the urgent pointer and the NS bit, and assigns the
flags outside the mask. -/
private theorem leaksUnder_of_control {mask : UInt8}
    {first second : TCPHeader}
    {build : TCPHeader → Packet} {assign : UInt8 → UInt8}
    (assigns :
      assign first.tcpFlags = assign second.tcpFlags ↔
        first.tcpFlags &&& mask = second.tcpFlags &&& mask)
    (control :
      ∀ header,
        (build header).transportHeader.control =
          { header.control with tcpFlags := assign header.tcpFlags })
    (plain : ∀ header, (build header).transportHeader.options = none)
    (firstShort :
      -2 ^ 15 ≤ first.urgentPointer ∧ first.urgentPointer < 2 ^ 15)
    (secondShort :
      -2 ^ 15 ≤ second.urgentPointer ∧ second.urgentPointer < 2 ^ 15) :
    LeaksUnder mask first second build := by
  have carried {header : TCPHeader} {sent : TCPHeader.Control}
      (short :
        -2 ^ 15 ≤ header.urgentPointer ∧ header.urgentPointer < 2 ^ 15)
      (sends : Sends (build header) sent) :
      sent =
        { header.control with tcpFlags := assign header.tcpFlags } := by
    obtain ⟨packetId, bytes, built, rfl⟩ := sends
    have urgent :
        (build header).transportHeader.urgentPointer =
          header.urgentPointer :=
      congrArg TCPHeader.Control.urgentPointer (control header)
    rw [← urgent] at short
    rw [controlOf_tcpBytes (plain header) short.1 short.2 built]
    exact control header
  intro sent other firstSends secondSends
  rw [carried firstShort firstSends, carried secondShort secondSends,
    TCPHeader.Control.mk.injEq, assigns]
  constructor
  · rintro ⟨isNS, tcpFlags, urgentPointer⟩
    exact ⟨isNS, tcpFlags, urgentPointer⟩
  · rintro ⟨isNS, tcpFlags, urgentPointer⟩
    exact ⟨isNS, tcpFlags, urgentPointer⟩

/-- Two replies carry the same flags and urgent pointer exactly when the
client's headers agree on the NS bit, the urgent pointer and the flags the
builder does not assign: CWR, ECE, URG and RST, and for a SYN-ACK also PSH
and FIN. -/
theorem replies_carry_control_iff
    {stream after otherStream otherAfter : ByteBuffer}
    {first second : TCPHeader}
    (parsed : createTCPHeader stream = .ok (first, after))
    (otherParsed :
      createTCPHeader otherStream = .ok (second, otherAfter))
    (ip : IPHeader) :
    (∀ packetData isPsh ackNumber seqNumber timeSender timeReplyto,
        LeaksUnder 0xE4 first second fun tcp =>
          createResponsePacketData ip tcp packetData isPsh ackNumber
            seqNumber timeSender timeReplyto) ∧
      (∀ ackToClient currentTime,
        LeaksUnder 0xE4 first second fun tcp =>
          createResponseAckData ip tcp ackToClient currentTime) ∧
      (∀ ackToClient seqToClient isFin isAck currentTime,
        LeaksUnder 0xE4 first second fun tcp =>
          createFinAckData ip tcp ackToClient seqToClient isFin isAck
            currentTime) ∧
      ∀ random currentTime,
        LeaksUnder 0xED first second fun tcp =>
          createSynAckPacketData ip tcp random currentTime := by
  have short := createTCPHeader_urgentPointer parsed
  have otherShort := createTCPHeader_urgentPointer otherParsed
  refine ⟨?_, ?_, ?_, ?_⟩
  · intro packetData isPsh ackNumber seqNumber timeSender timeReplyto
    exact
      leaksUnder_of_control
        (TCPHeader.assignFlags_eq_iff true false isPsh false _ _)
        (fun _ => rfl) (fun _ => rfl) short otherShort
  · intro ackToClient currentTime
    exact
      leaksUnder_of_control
        (TCPHeader.assignFlags_eq_iff true false false false _ _)
        (fun _ => rfl) (fun _ => rfl) short otherShort
  · intro ackToClient seqToClient isFin isAck currentTime
    exact
      leaksUnder_of_control
        (TCPHeader.assignFlags_eq_iff isAck false false isFin _ _)
        (fun _ => rfl) (fun _ => rfl) short otherShort
  · intro random currentTime
    exact
      leaksUnder_of_control (TCPHeader.assignSynAck_eq_iff _ _)
        (fun _ => rfl) (fun _ => rfl) short otherShort

/-- An ACK with these flags. -/
def ackBytes (flags : UInt8) : List UInt8 :=
  [4, 0, 0, 80, 0, 0, 0, 7, 0, 0, 0, 101, 0x50, flags, 3, 232, 0, 0, 0, 0]

def ackHeader (flags : UInt8) : TCPHeader :=
  TCPHeader.create 1024 80 7 101 5 false flags 1000 0 0

/-- PSH is assigned, so it makes no difference. -/
theorem replies_carry_control_iff_push :
    LeaksUnder 0xE4 (ackHeader 0x10) (ackHeader 0x18)
        (fun tcp => createResponseAckData (.v4 request4) tcp 8 0) ∧
      ∀ sent other,
        Sends (createResponseAckData (.v4 request4) (ackHeader 0x10) 8 0)
            sent →
          Sends
              (createResponseAckData (.v4 request4) (ackHeader 0x18) 8 0)
              other →
            sent = other := by
  have leaks :=
    (@replies_carry_control_iff (ByteBuffer.wrap (ackBytes 0x10))
      ((ByteBuffer.wrap (ackBytes 0x10)).advance 20)
      (ByteBuffer.wrap (ackBytes 0x18))
      ((ByteBuffer.wrap (ackBytes 0x18)).advance 20) (ackHeader 0x10)
      (ackHeader 0x18) (by decide +kernel) (by decide +kernel)
      (.v4 request4)).2.1 8 0
  refine ⟨leaks, ?_⟩
  intro sent other first second
  exact (leaks sent other first second).mpr ⟨rfl, by decide, rfl⟩

/-- The acknowledgment of a segment with URG carries URG. -/
theorem urgentFlag_leaks :
    createTCPHeader (ByteBuffer.wrap (ackBytes 0x10)) =
        .ok
          (ackHeader 0x10,
            (ByteBuffer.wrap (ackBytes 0x10)).advance 20) ∧
      createTCPHeader (ByteBuffer.wrap (ackBytes 0x30)) =
        .ok
          (ackHeader 0x30,
            (ByteBuffer.wrap (ackBytes 0x30)).advance 20) ∧
      Sends (createResponseAckData (.v4 request4) (ackHeader 0x10) 8 0)
        ⟨false, 0x10, 0⟩ ∧
      Sends (createResponseAckData (.v4 request4) (ackHeader 0x30) 8 0)
        ⟨false, 0x30, 0⟩ := by
  refine ⟨by decide +kernel, by decide +kernel, ?_, ?_⟩
  · exact
      ⟨0,
        [70, 0, 0, 44, 0, 0, 64, 0, 64, 6, 37, 202, 10, 0, 0, 2, 10, 0, 0, 1,
          0, 0, 0, 0, 0, 80, 4, 0, 0, 0, 0, 101, 0, 0, 0, 8, 80, 16, 3, 232,
          147, 45, 0, 0],
        by decide +kernel, by decide +kernel⟩
  · exact
      ⟨0,
        [70, 0, 0, 44, 0, 0, 64, 0, 64, 6, 37, 202, 10, 0, 0, 2, 10, 0, 0, 1,
          0, 0, 0, 0, 0, 80, 4, 0, 0, 0, 0, 101, 0, 0, 0, 8, 80, 48, 3, 232,
          147, 13, 0, 0],
        by decide +kernel, by decide +kernel⟩

end TCPPacketFactory

end LanShield.Transport
