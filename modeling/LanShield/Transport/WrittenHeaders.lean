import LanShield.Transport.Checksums
import LanShield.Transport.TCPPacketFactory
import Mathlib.Tactic.IntervalCases

/-!
# The headers of a serialised packet

What `createPacketData` leaves behind the IP header, and the options a
receiver finds there.
-/

namespace LanShield.Transport

open LanShield.Library

theorem IPv4Header.length_headerData {header : IPv4Header}
    {bytes : List UInt8} (built : header.headerData = .ok bytes) :
    12 ≤ bytes.length ∧ bytes.length ≤ header.getIPHeaderLength := by
  rw [headerData] at built
  split at built
  · cases built
  · cases built
    simp only [List.length_append, List.length_cons, List.length_nil,
      List.length_take, List.length_replicate]
    rw [getIPHeaderLength]
    omega

theorem IPv6Header.length_headerData (header : IPv6Header) :
    header.headerData.length ≤ 40 := by
  rw [headerData]
  simp only [List.length_append, List.length_cons, List.length_nil,
    List.length_take]
  omega

/-- The header leaves room for the payload it announces. -/
private theorem IPHeader.headerData_fits {header : IPHeader}
    {bytes : List UInt8}
    {payloadLength : Int} {packetId : Int}
    (built :
      ((header.setPayloadLength payloadLength).setIdentification
        packetId).headerData = .ok bytes) :
    (bytes.length : Int) + payloadLength ≤
      ((header.setPayloadLength payloadLength).setIdentification
        packetId).getTotalLength := by
  cases header with
  | v4 header =>
      have bounded := (IPv4Header.length_headerData built).2
      change
        (bytes.length : Int) + payloadLength ≤
          header.getIPHeaderLength + payloadLength
      exact Int.add_le_add_right (Int.ofNat_le.mpr bounded) _
  | v6 header =>
      cases built
      have bounded :=
        IPv6Header.length_headerData { header with payloadLength }
      change _ + payloadLength ≤ 40 + payloadLength
      exact Int.add_le_add_right (Int.ofNat_le.mpr bounded) _

/-- The length of the header does not depend on the numbers a packet gets.
-/
private theorem IPHeader.length_headerData_congr
    {header : IPHeader} {bytes : List UInt8}
    {payloadLength : Int} {packetId : Int}
    (built :
      ((header.setPayloadLength payloadLength).setIdentification
        packetId).headerData = .ok bytes) :
    ∃ plain, header.headerData = .ok plain ∧
      plain.length = bytes.length := by
  cases header with
  | v4 header =>
      change
        IPv4Header.headerData
          { header with payloadLength, identification := packetId } =
            .ok bytes at built
      rw [IPv4Header.headerData] at built
      split at built
      · cases built
      · next long =>
        refine ⟨_, if_neg long, ?_⟩
        cases built
        simp only [List.length_append, List.length_cons]
  | v6 header =>
      cases built
      exact ⟨_, rfl, rfl⟩

namespace PacketUtil

/-- The IP checksum stands inside the IP header. -/
theorem slice_calculateIpChecksum
    {header : IPHeader} {ipBuffer buffer : List UInt8}
    (built : header.headerData = .ok ipBuffer)
    (fits : ipBuffer.length ≤ buffer.length) {start : Nat}
    (behind : ipBuffer.length ≤ start) (count : Nat) :
    (calculateIpChecksum header buffer).length = buffer.length ∧
      slice (calculateIpChecksum header buffer) start count =
        slice buffer start count := by
  cases header with
  | v4 header =>
      have long := (IPv4Header.length_headerData built).1
      have zeroed_length :
          (overwrite buffer 10 [0, 0]).length = buffer.length :=
        length_overwrite (by simp; omega)
      unfold calculateIpChecksum
      dsimp only
      constructor
      · rw [length_overwrite, zeroed_length]
        rw [length_calculateChecksum, zeroed_length]
        omega
      · rw [slice_overwrite_outside, slice_overwrite_outside]
        · simp
          omega
        · right
          simp
          omega
        · rw [length_calculateChecksum, zeroed_length]
          omega
        · right
          rw [length_calculateChecksum]
          omega
  | v6 header => exact ⟨rfl, rfl⟩

end PacketUtil

private theorem PacketUtil.length_calculateTCPHeaderChecksum
    {data checksum : List UInt8} {offset tcpLength : Nat}
    {ipHeader : IPHeader}
    (summed :
      calculateTCPHeaderChecksum data offset tcpLength ipHeader =
        .ok checksum) :
    checksum.length = 2 := by
  rw [calculateTCPHeaderChecksum] at summed
  cases pseudo : ipHeader.getTcpPseudoHeader (signed16 tcpLength) with
  | error exception =>
      rw [pseudo] at summed
      cases summed
  | ok pseudoTcpHeader =>
      rw [pseudo] at summed
      cases summed
      exact length_calculateChecksum _ _ _

namespace TCPPacketFactory

theorem createTCPHeaderData_long {header : TCPHeader}
    {bytes : List UInt8} (built : createTCPHeaderData header = .ok bytes) :
    5 ≤ header.dataOffset := by
  rw [createTCPHeaderData] at built
  split at built
  · cases built
  · next long => exact Nat.not_lt.mp long

theorem length_createTCPHeaderData {header : TCPHeader}
    {bytes : List UInt8} (built : createTCPHeaderData header = .ok bytes) :
    bytes.length = header.getTCPHeaderLength := by
  rw [createTCPHeaderData] at built
  split at built
  · cases built
  · next long =>
    split at built
    · cases built
      simp only [List.length_append, length_fixedFields,
        List.length_replicate]
      rw [TCPHeader.getTCPHeaderLength]
      omega
    · next options _ =>
      cases stamped :
          stampOptions header.timeStampSender header.timeStampReplyTo
            (options.length + 1) 0 options with
      | error exception =>
          rw [stamped] at built
          cases built
      | ok options =>
          rw [stamped] at built
          dsimp only [bind, Except.bind] at built
          split at built
          · cases built
          · next fits =>
            cases built
            simp only [List.length_append, length_fixedFields,
              List.length_replicate]
            omega

/-- The copying of `createPacketData` between its two checksums. -/
def layOut (totalLength : Nat) (ipBuffer tcpBuffer data : List UInt8) :
    List UInt8 :=
  PacketUtil.overwrite
    (PacketUtil.overwrite
      (PacketUtil.overwrite (List.replicate totalLength 0) 0 ipBuffer)
      ipBuffer.length tcpBuffer)
    (ipBuffer.length + tcpBuffer.length) data

private theorem layOut_slice
    {totalLength : Nat} {ipBuffer tcpBuffer data : List UInt8}
    (fits :
      ipBuffer.length + tcpBuffer.length + data.length ≤ totalLength)
    {start count : Nat} (within : start + count ≤ tcpBuffer.length) :
    let laid := layOut totalLength ipBuffer tcpBuffer data
    laid.length = totalLength ∧
      slice laid (ipBuffer.length + start) count =
        slice tcpBuffer start count := by
  have first :
      (PacketUtil.overwrite (List.replicate totalLength 0) 0
        ipBuffer).length = totalLength := by
    rw [PacketUtil.length_overwrite, List.length_replicate]
    rw [List.length_replicate]
    omega
  have second :
      (PacketUtil.overwrite
        (PacketUtil.overwrite (List.replicate totalLength 0) 0 ipBuffer)
        ipBuffer.length tcpBuffer).length = totalLength := by
    rw [PacketUtil.length_overwrite, first]
    rw [first]
    omega
  rw [layOut]
  constructor
  · rw [PacketUtil.length_overwrite, second]
    rw [second]
    omega
  · rw [PacketUtil.slice_overwrite_outside,
      PacketUtil.slice_overwrite_inside]
    · rw [first]
      omega
    · exact within
    · rw [second]
      omega
    · omega

/-- The two checksums leave the rest of the TCP header alone. -/
private theorem sealed_slice
    {header : IPHeader} {totalLength : Nat}
    {ipBuffer tcpBuffer data checksum : List UInt8}
    (built : header.headerData = .ok ipBuffer)
    (fits :
      ipBuffer.length + tcpBuffer.length + data.length ≤ totalLength)
    (long : 20 ≤ tcpBuffer.length) (checksum_length : checksum.length = 2)
    {start count : Nat} (within : start + count ≤ tcpBuffer.length)
    (notChecksum : start + count ≤ 16 ∨ 18 ≤ start) :
    slice
        (PacketUtil.overwrite
          (PacketUtil.overwrite
            (PacketUtil.calculateIpChecksum header
              (layOut totalLength ipBuffer tcpBuffer data))
            (ipBuffer.length + 16) [0, 0])
          (ipBuffer.length + 16) checksum)
        (ipBuffer.length + start) count =
      slice tcpBuffer start count := by
  obtain ⟨laid_length, laid_slice⟩ := layOut_slice fits within
  obtain ⟨summed_length, summed_slice⟩ :=
    @PacketUtil.slice_calculateIpChecksum header ipBuffer
      (layOut totalLength ipBuffer tcpBuffer data) built (by omega)
      (ipBuffer.length + start) (Nat.le_add_right _ _) count
  have summed_long :
      ipBuffer.length + 16 + 2 ≤
        (PacketUtil.calculateIpChecksum header
          (layOut totalLength ipBuffer tcpBuffer data)).length := by
    omega
  rw [PacketUtil.slice_overwrite_outside,
    PacketUtil.slice_overwrite_outside, summed_slice, laid_slice]
  · exact summed_long
  · rw [List.length_cons, List.length_singleton]
    omega
  · rw [PacketUtil.length_overwrite summed_long, checksum_length]
    exact summed_long
  · omega

/-- What a packet is made of: the two headers and the payload are laid out,
then the checksums are written. -/
private theorem createPacketData_parts
    {packetId : Int} {ipHeader numbered : IPHeader} {tcpheader : TCPHeader}
    {data bytes : List UInt8}
    (numbered_eq :
      (ipHeader.setPayloadLength
        (tcpheader.getTCPHeaderLength + data.length)).setIdentification
          packetId = numbered)
    (built : createPacketData packetId ipHeader tcpheader data = .ok bytes) :
    ∃ ipBuffer tcpBuffer checksum,
      numbered.headerData = .ok ipBuffer ∧
        createTCPHeaderData tcpheader = .ok tcpBuffer ∧
        checksum.length = 2 ∧
        bytes =
          PacketUtil.overwrite
            (PacketUtil.overwrite
              (PacketUtil.calculateIpChecksum numbered
                (layOut numbered.getTotalLength.toNat ipBuffer tcpBuffer
                  data))
              (ipBuffer.length + 16) [0, 0])
            (ipBuffer.length + 16) checksum := by
  rw [createPacketData] at built
  rw [numbered_eq] at built
  dsimp only at built
  cases ipBuilt : numbered.headerData with
  | error exception =>
      rw [ipBuilt] at built
      cases built
  | ok ipBuffer =>
      rw [ipBuilt] at built
      cases tcpBuilt : createTCPHeaderData tcpheader with
      | error exception =>
          rw [tcpBuilt] at built
          cases built
      | ok tcpBuffer =>
          rw [tcpBuilt] at built
          dsimp only [bind, Except.bind] at built
          split at built
          · cases built
          · next checksum summed =>
            cases built
            exact
              ⟨ipBuffer, tcpBuffer, checksum, rfl, rfl,
                PacketUtil.length_calculateTCPHeaderChecksum summed, rfl⟩

/-- Both headers and the payload fit into the packet. -/
private theorem createPacketData_fits
    {packetId : Int} {ipHeader : IPHeader} {tcpheader : TCPHeader}
    {data ipBuffer tcpBuffer : List UInt8}
    (ipBuilt :
      ((ipHeader.setPayloadLength
        (tcpheader.getTCPHeaderLength + data.length)).setIdentification
          packetId).headerData = .ok ipBuffer)
    (tcpBuilt : createTCPHeaderData tcpheader = .ok tcpBuffer) :
    20 ≤ tcpBuffer.length ∧
      ipBuffer.length + tcpBuffer.length + data.length ≤
        ((ipHeader.setPayloadLength
          (tcpheader.getTCPHeaderLength + data.length)).setIdentification
            packetId).getTotalLength.toNat := by
  have tcp_length := length_createTCPHeaderData tcpBuilt
  have tcp_long := createTCPHeaderData_long tcpBuilt
  have fits := IPHeader.headerData_fits ipBuilt
  have tcp_words :
      tcpheader.getTCPHeaderLength = tcpheader.dataOffset * 4 :=
    rfl
  omega

/-- Behind its IP header a packet holds its TCP header, but for the
checksum. -/
theorem createPacketData_slice
    {packetId : Int} {ipHeader : IPHeader} {tcpheader : TCPHeader}
    {data bytes : List UInt8}
    (built : createPacketData packetId ipHeader tcpheader data = .ok bytes) :
    ∃ ipBuffer tcpBuffer,
      ipHeader.headerData = .ok ipBuffer ∧
        createTCPHeaderData tcpheader = .ok tcpBuffer ∧
        ∀ start count,
          start + count ≤ tcpBuffer.length →
            start + count ≤ 16 ∨ 18 ≤ start →
              slice bytes (ipBuffer.length + start) count =
                slice tcpBuffer start count := by
  obtain ⟨ipBuffer, tcpBuffer, checksum, ipBuilt, tcpBuilt, checksum_length,
    rfl⟩ := createPacketData_parts rfl built
  obtain ⟨plain, plainBuilt, plain_length⟩ :=
    IPHeader.length_headerData_congr ipBuilt
  obtain ⟨long, fits⟩ := createPacketData_fits ipBuilt tcpBuilt
  refine ⟨plain, tcpBuffer, plainBuilt, tcpBuilt, ?_⟩
  intro start count within notChecksum
  rw [plain_length]
  exact sealed_slice ipBuilt fits long checksum_length within notChecksum

/-- A packet is as long as its IP header says. -/
theorem length_createPacketData
    {packetId : Int} {ipHeader : IPHeader} {tcpheader : TCPHeader}
    {data bytes : List UInt8}
    (built : createPacketData packetId ipHeader tcpheader data = .ok bytes) :
    bytes.length =
      ((ipHeader.setPayloadLength
        (tcpheader.getTCPHeaderLength + data.length)).setIdentification
          packetId).getTotalLength.toNat := by
  obtain ⟨ipBuffer, tcpBuffer, checksum, ipBuilt, tcpBuilt, checksum_length,
    rfl⟩ := createPacketData_parts rfl built
  obtain ⟨long, fits⟩ := createPacketData_fits ipBuilt tcpBuilt
  obtain ⟨laid_length, -⟩ := @layOut_slice _ _ _ _ fits 0 0 (Nat.zero_le _)
  obtain ⟨summed_length, -⟩ :=
    PacketUtil.slice_calculateIpChecksum ipBuilt
      (le_trans (by omega) laid_length.ge) (le_refl ipBuffer.length) 0
  rw [laid_length] at summed_length
  have zeroed_length := @PacketUtil.length_overwrite
    (PacketUtil.calculateIpChecksum _ (layOut _ ipBuffer tcpBuffer data))
    (ipBuffer.length + 16) [0, 0]
    (by rw [summed_length, List.length_cons, List.length_singleton]; omega)
  rw [PacketUtil.length_overwrite, zeroed_length, summed_length]
  rw [zeroed_length, summed_length, checksum_length]
  omega

end TCPPacketFactory

/-- The option bytes of the TCP header `tcp` starts with. -/
def optionArea (tcp : List UInt8) : List UInt8 :=
  slice tcp 20 ((tcp.getD 12 0).toNat / 16 * 4 - 20)

/-- The shift count of the first window-scale option, read option by option:
zero ends the list, one is padding, any other kind is followed by the length
of the option.  Every round consumes at least one byte. -/
def windowScaleFrom : (rounds : Nat) → List UInt8 → Option Nat
  | 0, _ => none
  | _ + 1, [] => none
  | rounds + 1, kind :: rest =>
      if kind = 0 then
        none
      else if kind = 1 then
        windowScaleFrom rounds rest
      else
        match rest with
        | [] => none
        | length :: body =>
            if length < 2 then
              none
            else if kind = 3 ∧ length = 3 then
              body.head?.map UInt8.toNat
            else
              windowScaleFrom rounds (body.drop (length.toNat - 2))

def windowScaleOption (options : List UInt8) : Option Nat :=
  windowScaleFrom options.length options

private theorem windowScaleOption_zeros (count : Nat) :
    windowScaleOption (List.replicate count 0) = none := by
  rw [windowScaleOption]
  cases count with
  | zero => rfl
  | succ count => rfl

/-- The bytes of a serialised packet behind its IP header. -/
def Packet.tcpBytes (packet : Packet) (bytes : List UInt8) : List UInt8 :=
  match packet.ipHeader.headerData with
  | .ok ipBuffer => bytes.drop ipBuffer.length
  | .error _ => []

theorem slice_drop (items : List UInt8) (skipped start count : Nat) :
    slice (items.drop skipped) start count =
      slice items (skipped + start) count := by
  unfold slice
  rw [List.drop_drop]

theorem getD_of_slice {items : List UInt8} {index : Nat} {item : UInt8}
    (single : slice items index 1 = [item]) :
    items.getD index 0 = item := by
  have head := congrArg List.head? single
  rw [slice] at head
  rw [List.head?_take, if_neg Nat.one_ne_zero, List.head?_drop] at head
  rw [List.getD_eq_getElem?_getD, head]
  rfl

/-- The high half of the offset byte is the data offset. -/
private theorem offsetByte_div (dataOffset : Nat) (long : 5 ≤ dataOffset)
    (short : dataOffset ≤ 15) (isNS : Bool) :
    (byteOf (dataOffset * 16) ||| (if isNS then 1 else 0)).toNat / 16 =
      dataOffset := by
  interval_cases dataOffset <;> cases isNS <;> rfl

theorem TCPPacketFactory.createTCPHeaderData_plain {header : TCPHeader}
    {bytes : List UInt8} (plain : header.options = none)
    (built : createTCPHeaderData header = .ok bytes) :
    bytes =
      fixedFields header ++
        List.replicate (header.getTCPHeaderLength - 20) 0 := by
  have long := createTCPHeaderData_long built
  rw [createTCPHeaderData] at built
  rw [if_neg (Nat.not_lt.mpr long), plain] at built
  cases built
  rfl

/-- A packet whose header holds no options is written with none. -/
theorem windowScaleOption_getBuffer
    {packetId : Int} {packet : Packet} {bytes : List UInt8}
    (plain : packet.transportHeader.options = none)
    (short : packet.transportHeader.dataOffset ≤ 15)
    (built : packet.getBuffer packetId = .ok bytes) :
    windowScaleOption (optionArea (packet.tcpBytes bytes)) = none := by
  obtain ⟨ipBuffer, tcpBuffer, ipBuilt, tcpBuilt, slices⟩ :=
    TCPPacketFactory.createPacketData_slice built
  have long := TCPPacketFactory.createTCPHeaderData_long tcpBuilt
  have tcp_length := TCPPacketFactory.length_createTCPHeaderData tcpBuilt
  have tcp_words :
      packet.transportHeader.getTCPHeaderLength =
        packet.transportHeader.dataOffset * 4 :=
    rfl
  have tcp_eq := TCPPacketFactory.createTCPHeaderData_plain plain tcpBuilt
  have tcpBytes_eq : packet.tcpBytes bytes = bytes.drop ipBuffer.length := by
    rw [Packet.tcpBytes]
    rw [ipBuilt]
  have offset_slice := slices 12 1 (by omega) (Or.inl (by omega))
  have options_slice :=
    slices 20 (packet.transportHeader.dataOffset * 4 - 20) (by omega)
      (Or.inr (by omega))
  rw [tcp_eq, ← slice_drop] at offset_slice options_slice
  have offset_eq := getD_of_slice offset_slice
  rw [optionArea]
  rw [tcpBytes_eq, offset_eq, offsetByte_div _ long short, options_slice]
  have zeros :
      slice
          (TCPPacketFactory.fixedFields packet.transportHeader ++
            List.replicate
              (packet.transportHeader.getTCPHeaderLength - 20) 0)
          20 (packet.transportHeader.dataOffset * 4 - 20) =
        List.replicate
          (packet.transportHeader.getTCPHeaderLength - 20) 0 := by
    rw [slice]
    rw [List.drop_left' (TCPPacketFactory.length_fixedFields _),
      ← tcp_words, List.take_of_length_le]
    rw [List.length_replicate]
  rw [zeros]
  exact windowScaleOption_zeros _

end LanShield.Transport
