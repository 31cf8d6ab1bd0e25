import LanShield.VpnService.ParserAgreement
import LanShield.Transport.PacketReparse

/-!
# The lengths traffic is counted with

A blocked packet is counted with the `size` of the firewall's header, a new
flow starts with the `getTotalLength` of the forwarder's.
-/

namespace LanShield.VpnService

open LanShield.Library LanShield.Java LanShield.Transport

/-- The length in the IP header: IPv4 states the whole packet, IPv6 what
follows the fixed header. -/
def statedLength (packet : ByteBuffer) : Nat :=
  if version packet = 4 then
    bigEndian (slice packet.array 2 2)
  else
    40 + bigEndian (slice packet.array 4 2)

def ipHeaderLength (packet : ByteBuffer) : Nat :=
  if version packet = 4 then
    headerWords packet * 4
  else
    40

/-- The data offset behind the IP header, in bytes. -/
def tcpHeaderLength (packet : ByteBuffer) : Nat :=
  bigEndian (slice packet.array (ipHeaderLength packet + 12) 1) / 16 * 4

/-- Both lengths are the stated one, and a TCP packet has payload when it is
longer than its headers. -/
structure LengthsReal
    (packet : ByteBuffer) (judged : IPHeader)
    (ipHeader : Transport.IPHeader) : Prop where
  size : judged.size = statedLength packet
  totalLength : ipHeader.getTotalLength = statedLength packet
  payload :
    judged.protocol = 6 →
      (judged.hasPayloadForDpi = true ↔
        ipHeaderLength packet + tcpHeaderLength packet <
          statedLength packet)

/-- The length field is not negative as a `short`, and an IPv4 header
announces no words at all. -/
def LengthsReadable (packet : ByteBuffer) : Prop :=
  version packet = 4 ∧ headerWords packet = 0 ∧
      bigEndian (slice packet.array 2 2) < 32768 ∨
    version packet = 6 ∧ bigEndian (slice packet.array 4 2) < 32768

instance (packet : ByteBuffer) : Decidable (LengthsReadable packet) :=
  inferInstanceAs (Decidable (_ ∨ _))

/-- What `parseIPHeader` makes of the bytes a packet states its lengths
in. -/
structure JudgedLengths
    (packet : ByteBuffer) (judged : IPHeader) (number : Nat) : Prop where
  size :
    judged.size =
      if number = 4 then
        signed16 (bigEndian (slice packet.array 2 2))
      else
        bigEndian (slice packet.array 4 2) + 40
  payload :
    judged.protocol = 6 →
      let headerLength := if number = 4 then headerWords packet * 4 else 40
      judged.hasPayloadForDpi =
        decide
          ((headerLength +
              bigEndian (slice packet.array (headerLength + 12) 1) /
                16 * 4 : Nat) <
            judged.size)

/-- The ports are read at another position, but from the same bytes. -/
private theorem parsePorts_array
    {protocol portsOffset : Nat} {buffer after : ByteBuffer}
    {ports : Nat × Nat}
    (parsed :
      IPHeader.parsePorts protocol portsOffset buffer = .ok (ports, after)) :
    after.array = buffer.array := by
  rw [IPHeader.parsePorts] at parsed
  split at parsed
  · rw [Reading.bind_eq_ok] at parsed
    obtain ⟨_, placed, moved, parsed⟩ := parsed
    obtain ⟨-, array_eq, -, -⟩ := Reading.setPosition_eq_ok moved
    simp only [Reading.bind_eq_ok, Reading.getShort_eq_ok,
      Reading.pure_eq_ok, and_assoc, exists_and_left,
      exists_eq_left] at parsed
    obtain ⟨-, -, -, rfl⟩ := parsed
    simp [array_eq]
  · obtain ⟨-, rfl⟩ := Reading.pure_eq_ok.mp parsed
    rfl

/-- The end of `parseCanDoDpi`, behind an IP header of known length. -/
def payloadBehind (size : Int) (headerLength : Nat) : Reading Bool := do
  let rawPacket ← get
  if rawPacket.limit < headerLength + 13 then
    Reading.throw (.illegalArgument "Truncated TCP packet")
  else
    let dataOffsetAndNs ← Reading.absolute (·.getAt (headerLength + 12))
    let tcpHeaderLength := dataOffsetAndNs.toNat / 16 * 4
    return decide (((headerLength + tcpHeaderLength : Nat) : Int) < size)

theorem parseCanDoDpi_tcp (number : Nat) (size : Int) :
    IPHeader.parseCanDoDpi 6 number size =
      if number = 4 then do
        let first ← Reading.absolute (·.getAt 0)
        payloadBehind size (first.toNat % 16 * 4)
      else
        payloadBehind size 40 := by
  rw [IPHeader.parseCanDoDpi, if_pos rfl]
  by_cases four : number = 4
  · rw [if_pos four, if_pos four]
    simp only [pure_bind]
    rfl
  · rw [if_neg four, if_neg four, pure_bind]
    rfl

private theorem payloadBehind_eq_ok
    {headerLength : Nat} {size : Int} {buffer after : ByteBuffer}
    {result : Bool}
    (parsed : payloadBehind size headerLength buffer = .ok (result, after)) :
    result =
      decide
        ((headerLength +
            bigEndian (slice buffer.array (headerLength + 12) 1) /
              16 * 4 : Nat) <
          size) := by
  rw [payloadBehind, Reading.get_bind] at parsed
  split at parsed
  · simp at parsed
  · rw [Reading.bind_eq_ok] at parsed
    obtain ⟨offset, _, readOffset, parsed⟩ := parsed
    obtain ⟨read, rfl⟩ := Reading.absolute_eq_ok.mp readOffset
    obtain ⟨rfl, -⟩ := Reading.pure_eq_ok.mp parsed
    rw [(ByteBuffer.getAt_eq_ok read).2]

private theorem parseCanDoDpi_eq_ok
    {number : Nat} {size : Int} {buffer after : ByteBuffer} {result : Bool}
    (parsed :
      IPHeader.parseCanDoDpi 6 number size buffer = .ok (result, after)) :
    let headerLength := if number = 4 then headerWords buffer * 4 else 40
    result =
      decide
        ((headerLength +
            bigEndian (slice buffer.array (headerLength + 12) 1) /
              16 * 4 : Nat) <
          size) := by
  rw [parseCanDoDpi_tcp] at parsed
  by_cases four : number = 4
  · rw [if_pos four, Reading.bind_eq_ok] at parsed
    obtain ⟨first, _, readFirst, parsed⟩ := parsed
    obtain ⟨read, rfl⟩ := Reading.absolute_eq_ok.mp readFirst
    rw [(ByteBuffer.getAt_eq_ok read).2] at parsed
    rw [if_pos four]
    exact payloadBehind_eq_ok parsed
  · rw [if_neg four] at parsed
    rw [if_neg four]
    exact payloadBehind_eq_ok parsed

private theorem parseIPHeader_lengths
    {addressSize sourceOffset protocolOffset portsOffset number : Nat}
    {packet after : ByteBuffer} {judged : IPHeader}
    (parsed :
      IPHeader.parseIPHeader addressSize sourceOffset protocolOffset
          portsOffset number packet =
        .ok (judged, after)) :
    JudgedLengths packet judged number := by
  obtain ⟨length, afterLength, afterPorts, array_eq, -, -, -, read,
    size_eq, readPorts, readDpi⟩ := parseIPHeader_reads parsed
  have length_eq := ByteBuffer.getShortAt_eq_ok read
  rw [array_eq] at length_eq
  have ports_array := parsePorts_array readPorts
  rw [array_eq] at ports_array
  refine ⟨?_, fun tcp => ?_⟩
  · have bound := bigEndian_slice_lt packet.array 4 2
    rw [size_eq, length_eq]
    by_cases four : number = 4
    · rw [if_pos four, if_pos four, if_pos four]
    · rw [if_neg four, if_neg four, if_neg four, signed16]
      omega
  · rw [tcp] at readDpi
    have dpi_eq := parseCanDoDpi_eq_ok readDpi
    rw [headerWords, ports_array] at dpi_eq
    exact dpi_eq

/-- The firewall takes an IPv4 total length as a signed number. -/
theorem ofPacket_lengths {packet after : ByteBuffer} {judged : IPHeader}
    (parsed : IPHeader.ofPacket packet = .ok (judged, after)) :
    version packet = 4 ∧ JudgedLengths packet judged 4 ∨
      version packet = 6 ∧ JudgedLengths packet judged 6 := by
  rcases ofPacket_cases parsed with ⟨four, parsed⟩ | ⟨six, parsed⟩
  · exact Or.inl ⟨four, parseIPHeader_lengths parsed⟩
  · exact Or.inr ⟨six, parseIPHeader_lengths parsed⟩

/-- The forwarder counts the words of an IPv4 header once as words and once
as bytes, and takes an IPv6 payload length as a signed number. -/
private theorem createIPHeader_lengths
    {packet after : ByteBuffer} {ipHeader : Transport.IPHeader}
    (parsed : createIPHeader packet.rewind = .ok (ipHeader, after)) :
    version packet = 4 ∧
        ipHeader.getTotalLength =
          (bigEndian (slice packet.array 2 2) +
            3 * headerWords packet : Nat) ∨
      version packet = 6 ∧
        ipHeader.getTotalLength =
          40 + signed16 (bigEndian (slice packet.array 4 2)) := by
  have some_bytes : 1 ≤ packet.rewind.remaining := by
    rw [createIPHeader, Reading.bind_eq_ok] at parsed
    obtain ⟨_, _, read, -⟩ := parsed
    exact (Reading.getByte_eq_ok.mp read).1
  rw [createIPHeader_eq rfl some_bytes] at parsed
  split at parsed
  · rw [← bind_pure_comp, Reading.bind_eq_ok] at parsed
    obtain ⟨header, _, read, parsed⟩ := parsed
    obtain ⟨rfl, -⟩ := Reading.pure_eq_ok.mp parsed
    obtain ⟨four, rfl, -, -⟩ := IPv4Header.ofStream_header read
    refine Or.inl ⟨version_of_signed8 four, ?_⟩
    have bound := bigEndian_slice_lt packet.array 2 2
    simp only [IPHeader.getTotalLength, IPv4Header.getTotalLength,
      IPv4Header.getIPHeaderLength, IPv4Header.fixedHeader, headerWords,
      ByteBuffer.array_rewind, ByteBuffer.position_rewind, Nat.zero_add,
      signed16]
    omega
  · rw [← bind_pure_comp, Reading.bind_eq_ok] at parsed
    obtain ⟨header, _, read, parsed⟩ := parsed
    obtain ⟨rfl, -⟩ := Reading.pure_eq_ok.mp parsed
    obtain ⟨six, rfl, -, -⟩ := IPv6Header.ofStream_header read
    refine Or.inr ⟨version_of_signed8 six, ?_⟩
    simp only [IPHeader.getTotalLength, IPv6Header.getTotalLength,
      IPv6Header.fixedHeader, ByteBuffer.array_rewind,
      ByteBuffer.position_rewind, Nat.zero_add]

private theorem signed16_eq_iff {value : Nat} (small : value < 65536) :
    signed16 value = value ↔ value < 32768 := by
  rw [signed16]
  omega

/-- With the stated length as size, `canDoDpi` is what it should be. -/
private theorem JudgedLengths.payload_iff
    {packet : ByteBuffer} {judged : IPHeader} {number : Nat}
    (lengths : JudgedLengths packet judged number)
    (named : version packet = number)
    (size_eq : judged.size = statedLength packet)
    (tcp : judged.protocol = 6) :
    judged.hasPayloadForDpi = true ↔
      ipHeaderLength packet + tcpHeaderLength packet <
        statedLength packet := by
  have payload := lengths.payload tcp
  rw [payload, size_eq, decide_eq_true_eq, Int.ofNat_lt, tcpHeaderLength,
    ipHeaderLength, named]

/-- The lengths of a packet both parsers accept are the stated ones exactly
when its length field is below `2 ^ 15` and an IPv4 header is announced with
no words. -/
theorem lengths_real_iff
    {packet afterJudged afterForwarded : ByteBuffer} {judged : IPHeader}
    {ipHeader : Transport.IPHeader}
    (judges : IPHeader.ofPacket packet = .ok (judged, afterJudged))
    (forwards :
      createIPHeader packet.rewind = .ok (ipHeader, afterForwarded)) :
    LengthsReal packet judged ipHeader ↔ LengthsReadable packet := by
  rcases ofPacket_lengths judges with ⟨four, lengths⟩ | ⟨six, lengths⟩
  · have total_eq :
        ipHeader.getTotalLength =
          (bigEndian (slice packet.array 2 2) +
            3 * headerWords packet : Nat) := by
      rcases createIPHeader_lengths forwards with ⟨-, total⟩ | ⟨six, -⟩
      · exact total
      · rw [four] at six
        cases six
    have stated : statedLength packet = bigEndian (slice packet.array 2 2) :=
      if_pos four
    have size_eq := lengths.size
    rw [if_pos rfl] at size_eq
    have small := bigEndian_slice_lt packet.array 2 2
    constructor
    · intro real
      have size := real.size
      have total := real.totalLength
      rw [size_eq, stated, signed16_eq_iff small] at size
      rw [total_eq, stated] at total
      exact Or.inl ⟨four, by omega, size⟩
    · rintro (⟨-, wordless, positive⟩ | ⟨six, -⟩)
      · have size : judged.size = statedLength packet := by
          rw [size_eq, stated, (signed16_eq_iff small).mpr positive]
        refine ⟨size, ?_, lengths.payload_iff four size⟩
        rw [total_eq, stated, wordless, Nat.mul_zero, Nat.add_zero]
      · rw [four] at six
        cases six
  · have total_eq :
        ipHeader.getTotalLength =
          40 + signed16 (bigEndian (slice packet.array 4 2)) := by
      rcases createIPHeader_lengths forwards with ⟨four, -⟩ | ⟨-, total⟩
      · rw [six] at four
        cases four
      · exact total
    have stated :
        statedLength packet = 40 + bigEndian (slice packet.array 4 2) := by
      rw [statedLength, six]
      rfl
    have size : judged.size = statedLength packet := by
      rw [lengths.size, stated, Nat.add_comm]
      rfl
    have small := bigEndian_slice_lt packet.array 4 2
    constructor
    · intro real
      have total := real.totalLength
      rw [total_eq, stated, Nat.cast_add, Nat.cast_ofNat, add_right_inj,
        signed16_eq_iff small] at total
      exact Or.inr ⟨six, total⟩
    · rintro (⟨four, -⟩ | ⟨-, positive⟩)
      · rw [six] at four
        cases four
      · refine ⟨size, ?_, lengths.payload_iff six size⟩
        rw [total_eq, stated, (signed16_eq_iff small).mpr positive]
        rfl

/-- An empty TCP segment of 40 bytes, which is counted as 55. -/
def emptySegment : ByteBuffer :=
  ByteBuffer.wrap
    [0x45, 0, 0, 40, 0, 1, 0, 0, 64, 6, 0, 0, 10, 0, 0, 1, 10, 0, 0, 2,
      4, 0, 0, 80, 0, 0, 0, 1, 0, 0, 0, 1, 0x50, 0x10, 1, 0, 0, 0, 0, 0]

/-- The same segment over IPv6. -/
def emptySegment6 : ByteBuffer :=
  ByteBuffer.wrap
    ([0x60, 0, 0, 0, 0, 20, 6, 64] ++
      [0xfd, 0, 0, 0, 0, 0, 0, 0, 0, 0, 0, 0, 0, 0, 0, 1] ++
      [0xfd, 0, 0, 0, 0, 0, 0, 0, 0, 0, 0, 0, 0, 0, 0, 2] ++
      [4, 0, 0, 80, 0, 0, 0, 1, 0, 0, 0, 1, 0x50, 0x10, 1, 0, 0, 0, 0, 0])

theorem emptySegment_counted_longer :
    ∃ judged ipHeader afterJudged afterForwarded,
      IPHeader.ofPacket emptySegment = .ok (judged, afterJudged) ∧
        createIPHeader emptySegment.rewind =
          .ok (ipHeader, afterForwarded) ∧
        statedLength emptySegment = 40 ∧ judged.size = 40 ∧
        ipHeader.getTotalLength = 55 ∧
        ¬ LengthsReal emptySegment judged ipHeader := by
  refine ⟨_, _, _, _, rfl, rfl, by decide, by decide, by decide, ?_⟩
  intro real
  exact absurd real.totalLength (by decide)

theorem lengths_real_of_emptySegment6 :
    ∃ judged ipHeader afterJudged afterForwarded,
      IPHeader.ofPacket emptySegment6 = .ok (judged, afterJudged) ∧
        createIPHeader emptySegment6.rewind =
          .ok (ipHeader, afterForwarded) ∧
        (LengthsReal emptySegment6 judged ipHeader ↔
          LengthsReadable emptySegment6) ∧
        LengthsReadable emptySegment6 := by
  exact
    ⟨_, _, _, _, rfl, rfl, lengths_real_iff rfl rfl, by decide⟩

end LanShield.VpnService
