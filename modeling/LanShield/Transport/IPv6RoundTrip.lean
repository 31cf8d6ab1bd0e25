import LanShield.Transport.IPv4RoundTrip

/-!
# Serialising a parsed IPv6 header

`headerData` on a header that was parsed from forty bytes, and on its clone.
It writes the whole traffic class into the low half of the first byte, and
the low instead of the high bits of the flow label into the second one; the
parser adds the sign of the second byte to the traffic class.  All bytes
behind these two return unchanged.
-/

namespace LanShield.Transport.IPv6Header

open LanShield.Library LanShield.Java

/-- A header of version 6, with any other fields. -/
structure PlainHeader (bytes : List UInt8) : Prop where
  length_eq : bytes.length = 40
  version : bigEndian (slice bytes 0 1) / 16 = 6

def trafficClassOf (bytes : List UInt8) : Nat :=
  bigEndian (slice bytes 0 2) / 16 % 256

def flowLabelOf (bytes : List UInt8) : Nat :=
  bigEndian (slice bytes 1 3) % 2 ^ 20

/-- The halves of the traffic class are one even number up to six, and the
highest four bits of the flow label are its lowest. -/
def Mirrored (bytes : List UInt8) : Prop :=
  trafficClassOf bytes ∈ [0, 0x22, 0x44, 0x66] ∧
    flowLabelOf bytes / 2 ^ 16 = flowLabelOf bytes % 16

instance : DecidablePred Mirrored :=
  fun _ => inferInstanceAs (Decidable (_ ∧ _))

/-- The first byte, for the halves of the traffic class; `high` is the half
it belongs to. -/
theorem firstByte (high low : Fin 16) :
    byteOf (6 * 16) |||
          byteOf
            (signed8
              ((high.val : Int) * 16 +
                signed8 ((low.val : Int) * 16) / 16)) =
        byteOf ((6 * 16 + high.val : Nat) : Int) ↔
      high = low ∧ high.val ∈ [0, 2, 4, 6] := by
  revert high low
  decide +kernel

/-- The second byte, for the low half of the traffic class. -/
private theorem secondByte (low label : Fin 16) :
    byteOf ((low.val : Int) * 16) ||| byteOf (label.val : Int) =
      byteOf ((low.val * 16 + label.val : Nat) : Int) := by
  revert low label
  decide +kernel

/-- The fields of a header, byte by byte; the first two bytes in halves. -/
structure PlainFields where
  classHigh : Fin 16
  classLow : Fin 16
  labelHigh : Fin 16
  label : UInt8 × UInt8
  payloadLength : UInt8 × UInt8
  nextHeader : UInt8
  hopLimit : UInt8
  source : List UInt8
  destination : List UInt8
  source_length : source.length = 16
  destination_length : destination.length = 16

namespace PlainFields

def first (fields : PlainFields) : UInt8 :=
  byteOf ((6 * 16 + fields.classHigh.val : Nat) : Int)

def second (fields : PlainFields) : UInt8 :=
  byteOf ((fields.classLow.val * 16 + fields.labelHigh.val : Nat) : Int)

def front (fields : PlainFields) : List UInt8 :=
  [fields.first, fields.second, fields.label.1, fields.label.2,
    fields.payloadLength.1, fields.payloadLength.2, fields.nextHeader,
    fields.hopLimit]

def bytes (fields : PlainFields) : List UInt8 :=
  fields.front ++ (fields.source ++ fields.destination)

theorem length_bytes (fields : PlainFields) : fields.bytes.length = 40 := by
  simp [bytes, front, fields.source_length, fields.destination_length]

private theorem toNat_first (fields : PlainFields) :
    fields.first.toNat = 6 * 16 + fields.classHigh.val := by
  have small := fields.classHigh.isLt
  rw [first, byteOf, UInt8.toNat_ofNat']
  omega

private theorem toNat_second (fields : PlainFields) :
    fields.second.toNat =
      fields.classLow.val * 16 + fields.labelHigh.val := by
  have small := fields.classLow.isLt
  have labelSmall := fields.labelHigh.isLt
  rw [second, byteOf, UInt8.toNat_ofNat']
  omega

/-- The header that is parsed from the bytes. -/
def header (fields : PlainFields) : IPv6Header where
  ipVersion := 6
  trafficClass :=
    signed8
      ((fields.classHigh.val : Int) * 16 +
        signed8 ((fields.classLow.val : Int) * 16) / 16)
  flowLabel :=
    signed8 (bigEndian [fields.second]) * 65536 +
      signed16 (bigEndian [fields.label.1, fields.label.2])
  payloadLength :=
    signed16 (bigEndian [fields.payloadLength.1, fields.payloadLength.2])
  nextHeader := signed8 (bigEndian [fields.nextHeader])
  protocol := protocolOf (signed8 (bigEndian [fields.nextHeader]))
  hopLimit := signed8 (bigEndian [fields.hopLimit])
  sourceIP := ⟨fields.source⟩
  destinationIP := ⟨fields.destination⟩

theorem slice_source (fields : PlainFields) :
    slice fields.bytes 8 16 = fields.source :=
  slice_behind rfl fields.source_length fields.destination

theorem slice_destination (fields : PlainFields) :
    slice fields.bytes 24 16 = fields.destination := by
  rw [bytes, ← List.append_assoc]
  conv_lhs => rw [← List.append_nil fields.destination]
  apply slice_behind _ fields.destination_length
  rw [List.length_append, fields.source_length]
  rfl

theorem fixedHeader_bytes (fields : PlainFields) :
    fixedHeader (ByteBuffer.wrap fields.bytes) = fields.header := by
  have field (start count : Nat) :
      slice (ByteBuffer.wrap fields.bytes).array
          ((ByteBuffer.wrap fields.bytes).position + start) count =
        slice fields.bytes start count :=
    congrArg (slice fields.bytes · count) (Nat.zero_add start)
  have first_eq : slice fields.bytes 0 1 = [fields.first] := rfl
  have second_eq : slice fields.bytes 1 1 = [fields.second] := rfl
  have label_eq :
      slice fields.bytes 2 2 = [fields.label.1, fields.label.2] := rfl
  have length_eq :
      slice fields.bytes 4 2 =
        [fields.payloadLength.1, fields.payloadLength.2] := rfl
  have next_eq : slice fields.bytes 6 1 = [fields.nextHeader] := rfl
  have hop_eq : slice fields.bytes 7 1 = [fields.hopLimit] := rfl
  have highSmall := fields.classHigh.isLt
  have lowSmall := fields.classLow.isLt
  have labelSmall := fields.labelHigh.isLt
  have version : signed8 (bigEndian [fields.first]) / 16 = 6 := by
    rw [bigEndian_singleton, fields.toNat_first, signed8]
    omega
  have high :
      signed8 (bigEndian [fields.first]) % 16 = fields.classHigh.val := by
    rw [bigEndian_singleton, fields.toNat_first, signed8]
    omega
  have low :
      signed8 (bigEndian [fields.second]) / 16 =
        signed8 ((fields.classLow.val : Int) * 16) / 16 := by
    rw [bigEndian_singleton, fields.toNat_second, signed8, signed8]
    omega
  rw [fixedHeader, header]
  simp only [field, first_eq, second_eq, label_eq, length_eq, next_eq,
    hop_eq, fields.slice_source, fields.slice_destination, version, high,
    low]

theorem ofStream_bytes (fields : PlainFields) :
    ∃ after,
      ofStream (ByteBuffer.wrap fields.bytes) =
        .ok (fields.header, after) := by
  have remaining : (ByteBuffer.wrap fields.bytes).remaining = 40 := by
    rw [ByteBuffer.remaining_wrap, fields.length_bytes]
  have first :
      slice (ByteBuffer.wrap fields.bytes).array
        (ByteBuffer.wrap fields.bytes).position 1 = [fields.first] :=
    rfl
  have version : signed8 (bigEndian [fields.first]) / 16 = 6 := by
    have highSmall := fields.classHigh.isLt
    rw [bigEndian_singleton, fields.toNat_first, signed8]
    omega
  obtain ⟨header, after, parsed⟩ :=
    @ofStream_accepts (ByteBuffer.wrap fields.bytes)
      (by rw [first]; exact version) (by rw [remaining])
  obtain ⟨-, header_eq, -, -⟩ := ofStream_header parsed
  rw [header_eq, fields.fixedHeader_bytes] at parsed
  exact ⟨after, parsed⟩

private theorem byteOf_congr {value other : Int}
    (same : value % 256 = other % 256) :
    byteOf value = byteOf other := by
  rw [byteOf, byteOf, same]

/-- The first two bytes of `headerData`. -/
def writtenFirst (fields : PlainFields) : UInt8 :=
  byteOf (6 * 16) |||
    byteOf
      (signed8
        ((fields.classHigh.val : Int) * 16 +
          signed8 ((fields.classLow.val : Int) * 16) / 16))

def writtenSecond (fields : PlainFields) : UInt8 :=
  byteOf ((fields.classLow.val : Int) * 16) |||
    byteOf ((fields.label.2.toNat % 16 : Nat) : Int)

def written (fields : PlainFields) : List UInt8 :=
  [fields.writtenFirst, fields.writtenSecond, fields.label.1,
      fields.label.2, fields.payloadLength.1, fields.payloadLength.2,
      fields.nextHeader, fields.hopLimit] ++
    (fields.source ++ fields.destination)

/-- The bytes of the flow label's `short`, and its lowest four bits. -/
private theorem flowLabelBytes (fields : PlainFields) :
    byteOf (fields.header.flowLabel / 256) = fields.label.1 ∧
      byteOf fields.header.flowLabel = fields.label.2 ∧
      fields.header.flowLabel % 16 =
        ((fields.label.2.toNat % 16 : Nat) : Int) := by
  obtain ⟨high, low⟩ :=
    IPv4Header.shortBytes fields.label.1 fields.label.2
  have flowLabel :
      fields.header.flowLabel =
        signed8 (bigEndian [fields.second]) * 65536 +
          signed16 (bigEndian [fields.label.1, fields.label.2]) :=
    rfl
  refine ⟨?_, ?_, ?_⟩
  · rw [← high, flowLabel]
    apply byteOf_congr
    omega
  · conv_rhs => rw [← low]
    rw [flowLabel]
    apply byteOf_congr
    omega
  · have spelled :
        bigEndian [fields.label.1, fields.label.2] =
          fields.label.1.toNat * 256 + fields.label.2.toNat := by
      simp [bigEndian_cons]
    rw [flowLabel, spelled, signed16]
    omega

theorem headerData_header (fields : PlainFields) :
    fields.header.headerData = fields.written := by
  obtain ⟨labelHigh, labelLow, labelHalf⟩ := fields.flowLabelBytes
  obtain ⟨lengthHigh, lengthLow⟩ :=
    IPv4Header.shortBytes fields.payloadLength.1 fields.payloadLength.2
  have classHalf :
      fields.header.trafficClass % 16 = fields.classLow.val := by
    have lowSmall := fields.classLow.isLt
    have trafficClass :
        fields.header.trafficClass =
          signed8
            ((fields.classHigh.val : Int) * 16 +
              signed8 ((fields.classLow.val : Int) * 16) / 16) :=
      rfl
    rw [trafficClass, signed8, signed8]
    omega
  have source_all : fields.source.take 16 = fields.source :=
    List.take_of_length_le fields.source_length.le
  have destination_all : fields.destination.take 16 = fields.destination :=
    List.take_of_length_le fields.destination_length.le
  have nextHeader_eq :
      byteOf fields.header.nextHeader = fields.nextHeader :=
    TCPPacketFactory.byteOf_signed8 _
  have hopLimit_eq : byteOf fields.header.hopLimit = fields.hopLimit :=
    TCPPacketFactory.byteOf_signed8 _
  have lengthHigh_eq :
      byteOf (fields.header.payloadLength / 256) = fields.payloadLength.1 :=
    lengthHigh
  have lengthLow_eq :
      byteOf fields.header.payloadLength = fields.payloadLength.2 :=
    lengthLow
  have source_eq :
      fields.header.sourceIP.getBytes.take 16 = fields.source :=
    source_all
  have destination_eq :
      fields.header.destinationIP.getBytes.take 16 = fields.destination :=
    destination_all
  rw [headerData, labelHigh, labelLow, labelHalf, classHalf, nextHeader_eq,
    hopLimit_eq, lengthHigh_eq, lengthLow_eq, source_eq, destination_eq,
    written, writtenFirst, writtenSecond, List.append_assoc]
  rfl

/-- The clone has the same fields, and is written alike. -/
theorem headerData_clone (fields : PlainFields) :
    fields.header.clone.headerData = fields.written :=
  fields.headerData_header

private theorem mirrored_bytes_iff (fields : PlainFields) :
    Mirrored fields.bytes ↔
      (fields.classHigh = fields.classLow ∧
          fields.classHigh.val ∈ [0, 2, 4, 6]) ∧
        fields.labelHigh.val = fields.label.2.toNat % 16 := by
  have highSmall := fields.classHigh.isLt
  have lowSmall := fields.classLow.isLt
  have labelSmall := fields.labelHigh.isLt
  have firstSmall := fields.label.1.toNat_lt
  have secondSmall := fields.label.2.toNat_lt
  have trafficClass :
      trafficClassOf fields.bytes =
        fields.classHigh.val * 16 + fields.classLow.val := by
    have sliced :
        slice fields.bytes 0 2 = [fields.first, fields.second] :=
      rfl
    rw [trafficClassOf, sliced, bigEndian_cons, bigEndian_singleton,
      fields.toNat_first, fields.toNat_second, List.length_singleton]
    omega
  have flowLabel :
      flowLabelOf fields.bytes =
        fields.labelHigh.val * 65536 + fields.label.1.toNat * 256 +
          fields.label.2.toNat := by
    have sliced :
        slice fields.bytes 1 3 =
          [fields.second, fields.label.1, fields.label.2] :=
      rfl
    rw [flowLabelOf, sliced, bigEndian_cons, bigEndian_cons,
      bigEndian_singleton, fields.toNat_second, List.length_cons,
      List.length_singleton]
    omega
  have labelHigh :
      flowLabelOf fields.bytes / 2 ^ 16 = fields.labelHigh.val := by
    rw [flowLabel]
    omega
  have labelLow :
      flowLabelOf fields.bytes % 16 = fields.label.2.toNat % 16 := by
    rw [flowLabel]
    omega
  rw [Mirrored, labelHigh, labelLow, trafficClass, Fin.ext_iff]
  simp only [List.mem_cons, List.not_mem_nil, or_false]
  omega

/-- Only the first two bytes can be written wrong. -/
private theorem written_eq_iff (fields : PlainFields) :
    fields.written = fields.bytes ↔ Mirrored fields.bytes := by
  have halfSmall : fields.label.2.toNat % 16 < 16 :=
    Nat.mod_lt _ (by decide)
  have bytes_eq :
      fields.written = fields.bytes ↔
        fields.writtenFirst = fields.first ∧
          fields.writtenSecond = fields.second := by
    rw [written, bytes, front, List.append_cancel_right_eq]
    simp
  have first_eq : fields.writtenFirst = fields.first ↔ _ :=
    firstByte fields.classHigh fields.classLow
  have second_eq :
      fields.writtenSecond = fields.second ↔
        fields.labelHigh.val = fields.label.2.toNat % 16 := by
    have residue :
        fields.writtenSecond =
          byteOf
            ((fields.classLow.val * 16 + fields.label.2.toNat % 16 : Nat) :
              Int) :=
      secondByte fields.classLow ⟨_, halfSmall⟩
    have lowSmall := fields.classLow.isLt
    have labelSmall := fields.labelHigh.isLt
    rw [residue, ← UInt8.toNat_inj, fields.toNat_second, byteOf,
      UInt8.toNat_ofNat']
    omega
  rw [bytes_eq, first_eq, second_eq, fields.mirrored_bytes_iff]

end PlainFields

theorem PlainHeader.fields {bytes : List UInt8}
    (plain : PlainHeader bytes) :
    ∃ fields : PlainFields, bytes = fields.bytes := by
  obtain ⟨length_eq, version⟩ := plain
  match bytes, length_eq with
  | first :: second :: label₁ :: label₂ :: length₁ :: length₂ ::
      nextHeader :: hopLimit :: addresses, length_eq =>
    have addresses_length : addresses.length = 32 := by
      simpa using length_eq
    have firstSmall := first.toNat_lt
    have secondSmall := second.toNat_lt
    have version_six : first.toNat / 16 = 6 := by
      have sliced :
          slice (first :: second :: label₁ :: label₂ :: length₁ ::
            length₂ :: nextHeader :: hopLimit :: addresses) 0 1 =
              [first] :=
        rfl
      rwa [sliced, bigEndian_singleton] at version
    refine
      ⟨{ classHigh := ⟨first.toNat % 16, Nat.mod_lt _ (by decide)⟩
         classLow := ⟨second.toNat / 16, by omega⟩
         labelHigh := ⟨second.toNat % 16, Nat.mod_lt _ (by decide)⟩
         label := (label₁, label₂)
         payloadLength := (length₁, length₂)
         nextHeader
         hopLimit
         source := addresses.take 16
         destination := addresses.drop 16
         source_length := ?_
         destination_length := ?_ }, ?_⟩
    · rw [List.length_take, addresses_length]
      rfl
    · rw [List.length_drop, addresses_length]
    · have first_eq :
          first = byteOf ((6 * 16 + first.toNat % 16 : Nat) : Int) := by
        apply UInt8.toNat_inj.mp
        rw [byteOf, UInt8.toNat_ofNat']
        omega
      have second_eq :
          second =
            byteOf
              ((second.toNat / 16 * 16 + second.toNat % 16 : Nat) :
                Int) := by
        apply UInt8.toNat_inj.mp
        rw [byteOf, UInt8.toNat_ofNat']
        omega
      rw [PlainFields.bytes, List.take_append_drop, PlainFields.front,
        PlainFields.first, PlainFields.second, ← first_eq, ← second_eq]
      rfl

/-- A parsed header, and its clone, are written as they were exactly when
the two bytes' halves mirror each other. -/
theorem headerData_reproduces_iff {bytes : List UInt8}
    (plain : PlainHeader bytes) :
    ∃ header after,
      ofStream (ByteBuffer.wrap bytes) = .ok (header, after) ∧
        (header.headerData = bytes ↔ Mirrored bytes) ∧
        (header.clone.headerData = bytes ↔ Mirrored bytes) := by
  obtain ⟨fields, rfl⟩ := plain.fields
  obtain ⟨after, parsed⟩ := fields.ofStream_bytes
  refine ⟨fields.header, after, parsed, ?_, ?_⟩
  · rw [fields.headerData_header]
    exact fields.written_eq_iff
  · rw [fields.headerData_clone]
    exact fields.written_eq_iff

/-- The header of an empty TCP packet of traffic class 0x10, to and from the
unspecified address. -/
def lowDelayFields : PlainFields where
  classHigh := 1
  classLow := 0
  labelHigh := 0
  label := (0, 0)
  payloadLength := (0, 20)
  nextHeader := 6
  hopLimit := 64
  source := List.replicate 16 0
  destination := List.replicate 16 0
  source_length := rfl
  destination_length := rfl

private theorem lowDelayFields_plain : PlainHeader lowDelayFields.bytes :=
  ⟨rfl, by decide⟩

/-- It is written with version 7. -/
theorem lowDelay_not_reproduced :
    PlainHeader lowDelayFields.bytes ∧
      lowDelayFields.bytes.take 8 = [0x61, 0, 0, 0, 0, 20, 6, 64] ∧
      ∃ header after,
        ofStream (ByteBuffer.wrap lowDelayFields.bytes) =
            .ok (header, after) ∧
          header.headerData.take 8 = [0x70, 0, 0, 0, 0, 20, 6, 64] ∧
          header.headerData ≠ lowDelayFields.bytes ∧
          header.clone.headerData ≠ lowDelayFields.bytes := by
  obtain ⟨after, parsed⟩ := lowDelayFields.ofStream_bytes
  have written_ne : lowDelayFields.written ≠ lowDelayFields.bytes := by
    decide
  refine ⟨lowDelayFields_plain, by decide, _, after, parsed, ?_, ?_, ?_⟩
  · rw [lowDelayFields.headerData_header]
    decide
  · rwa [lowDelayFields.headerData_header]
  · rwa [lowDelayFields.headerData_clone]

theorem headerData_reproduces_iff_lowDelay :
    ∃ header after,
      ofStream (ByteBuffer.wrap lowDelayFields.bytes) =
          .ok (header, after) ∧
        (header.headerData = lowDelayFields.bytes ↔
          Mirrored lowDelayFields.bytes) ∧
        (header.clone.headerData = lowDelayFields.bytes ↔
          Mirrored lowDelayFields.bytes) :=
  headerData_reproduces_iff lowDelayFields_plain

end LanShield.Transport.IPv6Header
