import LanShield.Transport.PacketReparse

/-!
# Serialising a parsed IPv4 header

`headerData` on a header that was parsed from twenty bytes, and on its
clone.  The parser counts the header in words where `getTotalLength` counts
it in bytes, so the total length that is written is never the one that was
read.  `headerData` joins DSCP and ECN by an `and`, and the parser leaves
the flag bits to `clone`; all other fields return unchanged.
-/

namespace LanShield.Transport.IPv4Header

open LanShield.Library LanShield.Java

/-- A header without options, whose reserved flag bit is zero. -/
structure PlainHeader (bytes : List UInt8) : Prop where
  length_eq : bytes.length = 20
  version : slice bytes 0 1 = [0x45]
  reserved : bigEndian (slice bytes 6 1) < 128

/-- The two bytes of a field that was read as a `short`. -/
theorem shortBytes (high low : UInt8) :
    byteOf (signed16 (bigEndian [high, low]) / 256) = high ∧
      byteOf (signed16 (bigEndian [high, low])) = low := by
  have highSmall := high.toNat_lt
  have lowSmall := low.toNat_lt
  have spelled :
      bigEndian [high, low] = high.toNat * 256 + low.toNat := by
    simp [bigEndian_cons]
  have highResidue :
      (signed16 (bigEndian [high, low]) / 256 % 256).toNat =
        high.toNat := by
    rw [spelled]
    rw [signed16]
    omega
  have lowResidue :
      (signed16 (bigEndian [high, low]) % 256).toNat = low.toNat := by
    rw [spelled]
    rw [signed16]
    omega
  unfold byteOf
  rw [highResidue, lowResidue, UInt8.ofNat_toNat, UInt8.ofNat_toNat]
  exact ⟨rfl, rfl⟩

/-- The shifted DSCP and the ECN have no bit in common. -/
private theorem dscp_and_ecn (typeOfService : UInt8) :
    byteOf (signed8 (bigEndian [typeOfService]) / 4 * 4) &&&
        byteOf (signed8 (bigEndian [typeOfService]) % 4) =
      0 := by
  obtain ⟨value, rfl⟩ : ∃ value : Fin 256, UInt8.ofFin value = typeOfService :=
    ⟨typeOfService.toFin, rfl⟩
  revert value
  decide +kernel

/-- The low bits of the fragment field, and its two flags. -/
private theorem fragmentField (high low : UInt8) :
    byteOf (signed16 (bigEndian [high, low]) % 8192 / 256) &&& 0x1F =
        high &&& 0x1F ∧
      byteOf (signed16 (bigEndian [high, low]) % 8192) = low ∧
      bitSet (signed16 (bigEndian [high, low])) 14 =
        decide (high.toNat / 64 % 2 = 1) ∧
      bitSet (signed16 (bigEndian [high, low])) 13 =
        decide (high.toNat / 32 % 2 = 1) := by
  have highSmall := high.toNat_lt
  have lowSmall := low.toNat_lt
  have spelled :
      bigEndian [high, low] = high.toNat * 256 + low.toNat := by
    simp [bigEndian_cons]
  rw [spelled]
  refine ⟨?_, ?_, ?_, ?_⟩
  · have residue :
        (signed16 (high.toNat * 256 + low.toNat : Nat) % 8192 / 256 %
            256).toNat =
          high.toNat % 32 := by
      rw [signed16]
      omega
    apply UInt8.toNat_inj.mp
    rw [byteOf]
    rw [residue, UInt8.toNat_and, UInt8.toNat_and,
      UInt8.toNat_ofNat_of_lt' (by simp only [UInt8.size]; omega)]
    change high.toNat % 2 ^ 5 &&& 2 ^ 5 - 1 = high.toNat &&& 2 ^ 5 - 1
    rw [Nat.and_two_pow_sub_one_eq_mod, Nat.and_two_pow_sub_one_eq_mod,
      Nat.mod_mod]
  · have residue :
        (signed16 (high.toNat * 256 + low.toNat : Nat) % 8192 %
            256).toNat =
          low.toNat := by
      rw [signed16]
      omega
    rw [byteOf]
    rw [residue, UInt8.ofNat_toNat]
  · rw [bitSet, signed16]
    apply decide_eq_decide.mpr
    omega
  · rw [bitSet, signed16]
    apply decide_eq_decide.mpr
    omega

/-- The byte the flags and the fragment offset are written to, with the
flag bits `clone` rebuilds. -/
private theorem flagByte (high : UInt8) (reserved : high.toNat < 128) :
    high &&& 0x1F |||
        ((if decide (high.toNat / 64 % 2 = 1) then 0x40 else 0) |||
          (if decide (high.toNat / 32 % 2 = 1) then 0x20 else 0)) =
      high := by
  obtain ⟨value, rfl⟩ : ∃ value : Fin 256, UInt8.ofFin value = high :=
    ⟨high.toFin, rfl⟩
  revert value
  decide +kernel

/-- The fields of a plain header, byte by byte. -/
structure PlainFields where
  typeOfService : UInt8
  total : UInt8 × UInt8
  identification : UInt8 × UInt8
  fragment : UInt8 × UInt8
  timeToLive : UInt8
  protocol : UInt8
  checksum : UInt8 × UInt8
  source : List UInt8
  destination : List UInt8
  reserved : fragment.1.toNat < 128
  source_length : source.length = 4
  destination_length : destination.length = 4

namespace PlainFields

def front (fields : PlainFields) : List UInt8 :=
  [0x45, fields.typeOfService, fields.total.1, fields.total.2,
    fields.identification.1, fields.identification.2, fields.fragment.1,
    fields.fragment.2, fields.timeToLive, fields.protocol,
    fields.checksum.1, fields.checksum.2]

def bytes (fields : PlainFields) : List UInt8 :=
  fields.front ++ (fields.source ++ fields.destination)

theorem length_bytes (fields : PlainFields) : fields.bytes.length = 20 := by
  rw [bytes]
  rw [List.length_append, List.length_append, fields.source_length,
    fields.destination_length]
  rfl

theorem slice_source (fields : PlainFields) :
    slice fields.bytes 12 4 = fields.source :=
  slice_behind rfl fields.source_length fields.destination

theorem slice_destination (fields : PlainFields) :
    slice fields.bytes 16 4 = fields.destination := by
  rw [bytes]
  rw [← List.append_assoc]
  conv_lhs => rw [← List.append_nil fields.destination]
  apply slice_behind _ fields.destination_length
  rw [List.length_append, fields.source_length]
  rfl

/-- The header that is parsed from the bytes. -/
def header (fields : PlainFields) : IPv4Header where
  ipVersion := 4
  internetHeaderLength := 5
  dscpOrTypeOfService := signed8 (bigEndian [fields.typeOfService]) / 4
  ecn := signed8 (bigEndian [fields.typeOfService]) % 4
  payloadLength :=
    signed16 (bigEndian [fields.total.1, fields.total.2]) % 65536 - 5
  identification :=
    signed16
      (bigEndian [fields.identification.1, fields.identification.2])
  flag := 0
  mayFragment :=
    bitSet
      (signed16 (bigEndian [fields.fragment.1, fields.fragment.2])) 14
  lastFragment :=
    bitSet
      (signed16 (bigEndian [fields.fragment.1, fields.fragment.2])) 13
  fragmentOffset :=
    signed16 (bigEndian [fields.fragment.1, fields.fragment.2]) % 8192
  timeToLive := signed8 (bigEndian [fields.timeToLive])
  ipv4Protocol := signed8 (bigEndian [fields.protocol])
  protocol := protocolOf (signed8 (bigEndian [fields.protocol]))
  headerChecksum :=
    signed16 (bigEndian [fields.checksum.1, fields.checksum.2])
  sourceIP := ⟨fields.source⟩
  destinationIP := ⟨fields.destination⟩

theorem fixedHeader_bytes (fields : PlainFields) :
    fixedHeader (ByteBuffer.wrap fields.bytes) = fields.header := by
  have field (start count : Nat) :
      slice (ByteBuffer.wrap fields.bytes).array
          ((ByteBuffer.wrap fields.bytes).position + start) count =
        slice fields.bytes start count :=
    congrArg (slice fields.bytes · count) (Nat.zero_add start)
  have version_eq : slice fields.bytes 0 1 = [0x45] := rfl
  have service_eq :
      slice fields.bytes 1 1 = [fields.typeOfService] := rfl
  have total_eq :
      slice fields.bytes 2 2 = [fields.total.1, fields.total.2] := rfl
  have identification_eq :
      slice fields.bytes 4 2 =
        [fields.identification.1, fields.identification.2] := rfl
  have fragment_eq :
      slice fields.bytes 6 2 =
        [fields.fragment.1, fields.fragment.2] := rfl
  have timeToLive_eq :
      slice fields.bytes 8 1 = [fields.timeToLive] := rfl
  have protocol_eq : slice fields.bytes 9 1 = [fields.protocol] := rfl
  have checksum_eq :
      slice fields.bytes 10 2 =
        [fields.checksum.1, fields.checksum.2] := rfl
  have version : signed8 (bigEndian [0x45]) / 16 = 4 := by decide
  have words : bigEndian [0x45] % 16 = 5 := by decide
  rw [fixedHeader]
  simp only [field, version_eq, service_eq, total_eq, identification_eq,
    fragment_eq, timeToLive_eq, protocol_eq, checksum_eq,
    fields.slice_source, fields.slice_destination, version, words]
  rfl

theorem ofStream_bytes (fields : PlainFields) :
    ∃ after,
      ofStream (ByteBuffer.wrap fields.bytes) =
        .ok (fields.header, after) := by
  have remaining : (ByteBuffer.wrap fields.bytes).remaining = 20 := by
    rw [ByteBuffer.remaining_wrap, fields.length_bytes]
  have first :
      slice (ByteBuffer.wrap fields.bytes).array
        (ByteBuffer.wrap fields.bytes).position 1 = [0x45] :=
    rfl
  obtain ⟨header, after, parsed⟩ :=
    @ofStream_accepts (ByteBuffer.wrap fields.bytes)
      (by rw [first]; decide) (by rw [first]; decide)
      (by rw [first, remaining]; decide)
  obtain ⟨-, header_eq, -, -⟩ := ofStream_header parsed
  rw [header_eq, fields.fixedHeader_bytes] at parsed
  exact ⟨after, parsed⟩

end PlainFields

theorem PlainHeader.fields {bytes : List UInt8}
    (plain : PlainHeader bytes) :
    ∃ fields : PlainFields, bytes = fields.bytes := by
  obtain ⟨length_eq, version, reserved⟩ := plain
  match bytes, length_eq with
  | first :: typeOfService :: total₁ :: total₂ :: id₁ :: id₂ :: flags ::
      offset :: timeToLive :: protocol :: checksum₁ :: checksum₂ ::
      addresses, length_eq =>
    have addresses_length : addresses.length = 8 := by
      simpa using length_eq
    have first_eq : first = 0x45 := List.head_eq_of_cons_eq version
    have unset : flags.toNat < 128 := by
      change bigEndian [flags] < 128 at reserved
      simpa [bigEndian_cons] using reserved
    refine
      ⟨{ typeOfService
         total := (total₁, total₂)
         identification := (id₁, id₂)
         fragment := (flags, offset)
         timeToLive
         protocol
         checksum := (checksum₁, checksum₂)
         source := addresses.take 4
         destination := addresses.drop 4
         reserved := unset
         source_length := ?_
         destination_length := ?_ }, ?_⟩
    · rw [List.length_take, addresses_length]
      rfl
    · rw [List.length_drop, addresses_length]
    · rw [PlainFields.bytes]
      rw [List.take_append_drop, first_eq]
      rfl

/-- A header with other flag bits. -/
def withFlag (flag : UInt8) (header : IPv4Header) : IPv4Header :=
  { header with flag }

private theorem withFlag_eq_self {header : IPv4Header} {flag : UInt8}
    (same : header.flag = flag) : header.withFlag flag = header := by
  rw [← same]
  rfl

/-- A clone has the protocol of its number, and the flag bits of its two
flags. -/
private theorem clone_eq_withFlag {header : IPv4Header}
    (named : header.protocol = protocolOf header.ipv4Protocol) :
    header.clone =
      header.withFlag
        ((if header.mayFragment then 0x40 else 0) |||
          (if header.lastFragment then 0x20 else 0)) := by
  rw [clone, withFlag]
  rw [← named]

/-- The bytes of a plain header with another type of service, total length
and flag byte. -/
def PlainFields.written (fields : PlainFields) (flags : UInt8) :
    List UInt8 :=
  [0x45, 0] ++
    toBigEndian 2
      (bigEndian [fields.total.1, fields.total.2] + 15 : Nat) ++
    [fields.identification.1, fields.identification.2, flags,
      fields.fragment.2, fields.timeToLive, fields.protocol,
      fields.checksum.1, fields.checksum.2] ++
    (fields.source ++ fields.destination)

/-- The total length counts the header's words as bytes. -/
private theorem PlainFields.getTotalLength_header (fields : PlainFields)
    (flag : UInt8) :
    (fields.header.withFlag flag).getTotalLength =
      (bigEndian [fields.total.1, fields.total.2] + 15 : Nat) := by
  have small := bigEndian_lt [fields.total.1, fields.total.2]
  simp only [List.length_cons, List.length_nil, Nat.reduceAdd,
    Nat.reducePow] at small
  rw [getTotalLength, getIPHeaderLength, withFlag, header, signed16]
  dsimp only
  omega

theorem PlainFields.headerData_header (fields : PlainFields)
    (flag : UInt8) :
    (fields.header.withFlag flag).headerData =
      .ok (fields.written (fields.fragment.1 &&& 0x1F ||| flag)) := by
  have total_eq := fields.getTotalLength_header flag
  have service_eq := dscp_and_ecn fields.typeOfService
  have fragment_eq :=
    fragmentField fields.fragment.1 fields.fragment.2
  have identification_eq :=
    shortBytes fields.identification.1 fields.identification.2
  have checksum_eq := shortBytes fields.checksum.1 fields.checksum.2
  have source_all : fields.source.take 4 = fields.source :=
    List.take_of_length_le fields.source_length.le
  have destination_all : fields.destination.take 4 = fields.destination :=
    List.take_of_length_le fields.destination_length.le
  rw [headerData]
  have enough : ¬ (fields.header.withFlag flag).internetHeaderLength < 5 :=
    Nat.lt_irrefl 5
  rw [total_eq, if_neg enough]
  rw [withFlag, header, written]
  simp only [service_eq, fragment_eq.1, fragment_eq.2.1,
    identification_eq.1, identification_eq.2, checksum_eq.1,
    checksum_eq.2, TCPPacketFactory.byteOf_signed8, IPAddress.getBytes, source_all,
    destination_all]
  have version_eq : byteOf (5 : Nat) &&& 0xF ||| 0x40 = 0x45 := by decide
  rw [version_eq, Nat.sub_self, Nat.mul_zero, List.replicate_zero,
    List.append_nil, List.append_assoc]
  rfl

/-- A parsed header has no flag bits. -/
private theorem PlainFields.headerData_parsed (fields : PlainFields) :
    fields.header.headerData =
      .ok (fields.written (fields.fragment.1 &&& 0x1F)) := by
  have built := fields.headerData_header 0
  have unset : fields.header.flag = 0 := rfl
  rw [withFlag_eq_self unset, UInt8.or_zero] at built
  exact built

/-- Its clone has those of the packet again. -/
theorem PlainFields.headerData_clone (fields : PlainFields) :
    fields.header.clone.headerData =
      .ok (fields.written fields.fragment.1) := by
  obtain ⟨-, -, dontFragment, moreFragments⟩ :=
    fragmentField fields.fragment.1 fields.fragment.2
  have flags :
      (fields.fragment.1 &&& 0x1F |||
          ((if fields.header.mayFragment then 0x40 else 0) |||
            (if fields.header.lastFragment then 0x20 else 0))) =
        fields.fragment.1 := by
    have mayFragment_eq :
        fields.header.mayFragment =
          decide (fields.fragment.1.toNat / 64 % 2 = 1) := by
      rw [header, dontFragment]
    have lastFragment_eq :
        fields.header.lastFragment =
          decide (fields.fragment.1.toNat / 32 % 2 = 1) := by
      rw [header, moreFragments]
    simp only [mayFragment_eq, lastFragment_eq]
    exact flagByte fields.fragment.1 fields.reserved
  have named :
      fields.header.protocol = protocolOf fields.header.ipv4Protocol := by
    unfold header
    rfl
  rw [clone_eq_withFlag named, fields.headerData_header, flags]

/-- The total length is never the one that was parsed. -/
theorem PlainFields.written_ne (fields : PlainFields) (flags : UInt8) :
    fields.written flags ≠ fields.bytes := by
  intro same
  have written_total :
      slice (fields.written flags) 2 2 =
        toBigEndian 2
          (bigEndian [fields.total.1, fields.total.2] + 15 : Nat) :=
    rfl
  have parsed_total :
      slice fields.bytes 2 2 = [fields.total.1, fields.total.2] :=
    rfl
  have residue :=
    bigEndian_toBigEndian 2
      (bigEndian [fields.total.1, fields.total.2] + 15 : Nat)
  rw [← written_total, same, parsed_total] at residue
  omega

/-- Neither a parsed header nor its clone is ever written as it was. -/
theorem headerData_never_reproduces {bytes : List UInt8}
    (plain : PlainHeader bytes) :
    ∃ header after,
      ofStream (ByteBuffer.wrap bytes) = .ok (header, after) ∧
        header.headerData ≠ .ok bytes ∧
        header.clone.headerData ≠ .ok bytes := by
  obtain ⟨fields, rfl⟩ := plain.fields
  obtain ⟨after, parsed⟩ := fields.ofStream_bytes
  refine ⟨fields.header, after, parsed, ?_, ?_⟩
  · rw [fields.headerData_parsed]
    exact fun same => fields.written_ne _ (Except.ok.inj same)
  · rw [fields.headerData_clone]
    exact fun same => fields.written_ne _ (Except.ok.inj same)

/-- The header of a packet of 40 bytes with DF. -/
def plainFields : PlainFields where
  typeOfService := 0
  total := (0, 40)
  identification := (0, 1)
  fragment := (0x40, 0)
  timeToLive := 64
  protocol := 6
  checksum := (0, 0)
  source := [10, 0, 0, 1]
  destination := [10, 0, 0, 2]
  reserved := by decide
  source_length := rfl
  destination_length := rfl

private theorem plainFields_plain : PlainHeader plainFields.bytes :=
  ⟨rfl, rfl, by decide⟩

theorem plainHeader_not_reproduced :
    PlainHeader plainFields.bytes ∧
      ∃ header after,
        ofStream (ByteBuffer.wrap plainFields.bytes) =
            .ok (header, after) ∧
          header.headerData =
            .ok
              [0x45, 0, 0, 55, 0, 1, 0, 0, 64, 6, 0, 0, 10, 0, 0, 1, 10, 0,
                0, 2] ∧
          header.clone.headerData =
            .ok
              [0x45, 0, 0, 55, 0, 1, 0x40, 0, 64, 6, 0, 0, 10, 0, 0, 1, 10,
                0, 0, 2] ∧
          plainFields.bytes =
            [0x45, 0, 0, 40, 0, 1, 0x40, 0, 64, 6, 0, 0, 10, 0, 0, 1, 10, 0,
              0, 2] := by
  obtain ⟨after, parsed⟩ := plainFields.ofStream_bytes
  refine ⟨plainFields_plain, _, after, parsed, ?_, ?_, rfl⟩
  · rw [plainFields.headerData_parsed]
    exact congrArg Except.ok (by decide)
  · rw [plainFields.headerData_clone]
    exact congrArg Except.ok (by decide)

theorem headerData_never_reproduces_plainFields :
    ∃ header after,
      ofStream (ByteBuffer.wrap plainFields.bytes) = .ok (header, after) ∧
        header.headerData ≠ .ok plainFields.bytes ∧
        header.clone.headerData ≠ .ok plainFields.bytes :=
  headerData_never_reproduces plainFields_plain

end LanShield.Transport.IPv4Header
