import LanShield.Transport.BuiltPackets

/-!
# Where a packet holds its endpoints

The addresses in the IP header and the fixed fields in the TCP header, for
both versions of IP.
-/

namespace LanShield.Transport

open LanShield.Library LanShield.Java

namespace IPHeader

def addressOffset : IPHeader → Nat
  | .v4 _ => 12
  | .v6 _ => 8

def addressSize : IPHeader → Nat
  | .v4 _ => 4
  | .v6 _ => 16

/-- The addresses in the bytes of a header, also behind its checksum. -/
private theorem headerData_addresses {header : IPHeader}
    (complete : header.Complete) {ipBuffer : List UInt8}
    (built : header.headerData = .ok ipBuffer) :
    let ipBytes := PacketUtil.calculateIpChecksum header ipBuffer
    ipBytes.length = header.headerLength ∧
      header.addressOffset + 2 * header.addressSize ≤
        header.headerLength ∧
      slice ipBytes header.addressOffset header.addressSize =
        header.getSourceIP.address ∧
      slice ipBytes (header.addressOffset + header.addressSize)
          header.addressSize =
        header.getDestinationIP.address := by
  cases header with
  | v4 header =>
      have long := complete.long
      obtain ⟨bytes, written, layout⟩ :=
        IPv4Header.headerData_layout complete
      have same : header.headerData = .ok ipBuffer := built
      rw [written] at same
      cases same
      have length_eq := layout.length_eq
      rw [IPv4Header.getIPHeaderLength] at length_eq
      have laid := layout.sealed (by omega)
      rw [PacketUtil.calculateIpChecksum_v4 layout.length_eq]
      refine ⟨laid.length_eq, ?_, laid.source, laid.destination⟩
      change 12 + 2 * 4 ≤ header.internetHeaderLength * 4
      omega
  | v6 header =>
      obtain ⟨length_eq, -, addresses⟩ :=
        IPv6Header.headerData_layout complete
      cases built
      have source_length :
          (slice header.headerData 8 16).length =
            header.sourceIP.address.length := by
        rw [complete.source_length]
        exact length_slice_of_le (by omega)
      rw [slice_add _ 8 16 16] at addresses
      obtain ⟨source, destination⟩ :=
        List.append_inj addresses source_length
      exact ⟨length_eq, le_rfl, source, destination⟩

end IPHeader

namespace TCPPacketFactory

/-- A packet with its endpoints and the fields of its TCP header in their
places. -/
structure Laid (ipHeader : IPHeader) (tcpheader : TCPHeader)
    (bytes : List UInt8) : Prop where
  source :
    slice bytes ipHeader.addressOffset ipHeader.addressSize =
      ipHeader.getSourceIP.address
  destination :
    slice bytes (ipHeader.addressOffset + ipHeader.addressSize)
        ipHeader.addressSize =
      ipHeader.getDestinationIP.address
  fields :
    ∀ start count,
      start + count ≤ 16 →
        slice bytes (ipHeader.headerLength + start) count =
          slice (fixedFields tcpheader) start count

theorem createPacketData_laid {packetId : Int} {ipHeader : IPHeader}
    {tcpheader : TCPHeader} {data bytes : List UInt8}
    (ipComplete : ipHeader.Complete) (tcpComplete : tcpheader.Complete)
    (short : tcpheader.getTCPHeaderLength + data.length < 2 ^ 15)
    (built :
      createPacketData packetId ipHeader tcpheader data = .ok bytes) :
    Laid ipHeader tcpheader bytes := by
  have numberedComplete :=
    ipComplete.numbered (tcpheader.getTCPHeaderLength + data.length)
      packetId
  generalize numbered_eq :
    (ipHeader.setPayloadLength
      (tcpheader.getTCPHeaderLength + data.length)).setIdentification
        packetId = numbered at numberedComplete
  obtain ⟨ipBuffer, ipBuilt, whole⟩ :=
    IPHeader.length_headerData numberedComplete
  have segment_length := length_segmentBytes tcpComplete data
  rw [← segment_length] at short
  obtain ⟨pseudoTcpHeader, pseudo⟩ :=
    numberedComplete.getTcpPseudoHeader short
  have total :
      numbered.getTotalLength =
        numbered.headerLength +
          (tcpheader.getTCPHeaderLength + data.length) := by
    rw [← numbered_eq]
    cases ipHeader with
    | v4 header => rfl
    | v6 header => rfl
  have same :
      numbered.headerLength = ipHeader.headerLength ∧
        numbered.addressOffset = ipHeader.addressOffset ∧
        numbered.addressSize = ipHeader.addressSize ∧
        numbered.getSourceIP = ipHeader.getSourceIP ∧
        numbered.getDestinationIP = ipHeader.getDestinationIP := by
    rw [← numbered_eq]
    cases ipHeader with
    | v4 header => exact ⟨rfl, rfl, rfl, rfl, rfl⟩
    | v6 header => exact ⟨rfl, rfl, rfl, rfl, rfl⟩
  obtain ⟨sameLength, sameOffset, sameSize, sameSource, sameDestination⟩ :=
    same
  obtain ⟨ipLength, inside, source, destination⟩ :=
    IPHeader.headerData_addresses numberedComplete ipBuilt
  have packet_eq :=
    createPacketData_eq tcpComplete numbered_eq numberedComplete ipBuilt
      whole total pseudo
  rw [built, Except.ok.injEq] at packet_eq
  rw [sameLength] at ipLength inside
  rw [sameOffset, sameSize] at inside source destination
  rw [sameSource] at source
  rw [sameDestination] at destination
  rw [packet_eq]
  constructor
  · rw [slice_append_left (by omega), source]
  · rw [slice_append_left (by omega), destination]
  · intro start count within
    have long := tcpComplete.long
    rw [TCPHeader.getTCPHeaderLength] at segment_length
    have checksum_length (segment : List UInt8) :
        (PacketUtil.segmentChecksum pseudoTcpHeader segment).length = 2 :=
      PacketUtil.length_calculateChecksum _ _ _
    rw [← ipLength, slice_append_right,
      PacketUtil.slice_overwrite_outside _ (Or.inl within), segmentBytes,
      List.append_assoc, slice_append_left]
    · rw [length_fixedFields]
      omega
    · rw [checksum_length]
      omega

end TCPPacketFactory

end LanShield.Transport
