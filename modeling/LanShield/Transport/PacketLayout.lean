import LanShield.Transport.WrittenHeaders

/-!
# The layout of a serialised packet

A header whose fields have the sizes the format gives them is serialised to
exactly the length it announces, so a packet is its IP header, its transport
header and its payload, one behind the other.
-/

namespace LanShield.Transport

open LanShield.Library LanShield.Java

/-- The header length is in the range of its field, and the addresses have
four bytes. -/
structure IPv4Header.Complete (header : IPv4Header) : Prop where
  long : 5 ≤ header.internetHeaderLength
  short : header.internetHeaderLength ≤ 15
  source_length : header.sourceIP.address.length = 4
  destination_length : header.destinationIP.address.length = 4

/-- The addresses have sixteen bytes. -/
structure IPv6Header.Complete (header : IPv6Header) : Prop where
  source_length : header.sourceIP.address.length = 16
  destination_length : header.destinationIP.address.length = 16

def IPHeader.Complete : IPHeader → Prop
  | .v4 header => header.Complete
  | .v6 header => header.Complete

/-- The bytes the IP header takes up. -/
def IPHeader.headerLength : IPHeader → Nat
  | .v4 header => header.getIPHeaderLength
  | .v6 _ => 40

/-- A header without stored options, as every parsed one is, and with a data
offset in the range of its field. -/
structure TCPHeader.Complete (header : TCPHeader) : Prop where
  long : 5 ≤ header.dataOffset
  short : header.dataOffset ≤ 15
  plain : header.options = none

theorem IPv4Header.Complete.twenty_le {header : IPv4Header}
    (complete : header.Complete) : 20 ≤ header.getIPHeaderLength :=
  Nat.mul_le_mul_right 4 complete.long

theorem TCPHeader.Complete.twenty_le {header : TCPHeader}
    (complete : header.Complete) : 20 ≤ header.getTCPHeaderLength :=
  Nat.mul_le_mul_right 4 complete.long

/-- Where a serialised IPv4 header holds which field. -/
structure IPv4Header.Layout (header : IPv4Header)
    (bytes : List UInt8) : Prop where
  length_eq : bytes.length = header.getIPHeaderLength
  version : slice bytes 0 1 =
    [byteOf header.internetHeaderLength &&& 0xF ||| 0x40]
  total : slice bytes 2 2 = toBigEndian 2 header.getTotalLength
  source : slice bytes 12 4 = header.sourceIP.address
  destination : slice bytes 16 4 = header.destinationIP.address

/-- Fields of fixed sizes behind each other. -/
theorem slice_behind {front field : List UInt8} {start count : Nat}
    (behind : front.length = start) (size : field.length = count)
    (back : List UInt8) :
    slice (front ++ (field ++ back)) start count = field := by
  rw [← behind, ← Nat.add_zero front.length, slice_append_right,
    slice_append_left (by omega), slice_all size]

theorem IPv4Header.headerData_layout {header : IPv4Header}
    (complete : header.Complete) :
    ∃ bytes, header.headerData = .ok bytes ∧ header.Layout bytes := by
  obtain ⟨long, -, source_length, destination_length⟩ := complete
  have source_all :
      header.sourceIP.getBytes.take 4 = header.sourceIP.address :=
    List.take_of_length_le source_length.le
  have destination_all :
      header.destinationIP.getBytes.take 4 = header.destinationIP.address :=
    List.take_of_length_le destination_length.le
  refine ⟨_, if_neg (Nat.not_lt.mpr long), ?_⟩
  rw [source_all, destination_all]
  constructor
  · simp only [List.length_append, List.length_cons, List.length_nil,
      List.length_replicate, source_length, destination_length]
    rw [getIPHeaderLength]
    omega
  · rfl
  · rfl
  · rw [List.append_assoc, List.append_assoc]
    exact slice_behind rfl source_length _
  · rw [List.append_assoc]
    apply slice_behind _ destination_length
    rw [List.length_append, source_length]
    rfl

/-- The checksum of the header is none of those fields. -/
theorem IPv4Header.Layout.sealed {header : IPv4Header}
    {bytes : List UInt8} (layout : header.Layout bytes)
    (long : 12 ≤ bytes.length) :
    header.Layout (PacketUtil.sealAt 10 bytes) where
  length_eq := (PacketUtil.length_sealAt long).trans layout.length_eq
  version :=
    (PacketUtil.slice_sealAt long (Or.inl (by decide))).trans layout.version
  total :=
    (PacketUtil.slice_sealAt long (Or.inl (by decide))).trans layout.total
  source :=
    (PacketUtil.slice_sealAt long (Or.inr (by decide))).trans layout.source
  destination :=
    (PacketUtil.slice_sealAt long (Or.inr (by decide))).trans
      layout.destination

theorem IPHeader.length_headerData {header : IPHeader}
    (complete : header.Complete) :
    ∃ bytes, header.headerData = .ok bytes ∧
      bytes.length = header.headerLength := by
  cases header with
  | v4 header =>
      obtain ⟨bytes, built, layout⟩ := IPv4Header.headerData_layout complete
      exact ⟨bytes, built, layout.length_eq⟩
  | v6 header =>
      obtain ⟨source_length, destination_length⟩ := complete
      refine ⟨_, rfl, ?_⟩
      simp only [IPv6Header.headerData, IPAddress.getBytes,
        List.length_append, List.length_cons, List.length_nil,
        List.length_take, source_length, destination_length]
      rfl

theorem IPHeader.Complete.numbered {header : IPHeader}
    (complete : header.Complete) (payloadLength packetId : Int) :
    ((header.setPayloadLength payloadLength).setIdentification
      packetId).Complete := by
  cases header with
  | v4 header =>
      obtain ⟨long, short, source_length, destination_length⟩ := complete
      exact ⟨long, short, source_length, destination_length⟩
  | v6 header =>
      obtain ⟨source_length, destination_length⟩ := complete
      exact ⟨source_length, destination_length⟩

namespace PacketUtil

theorem calculateIpChecksum_v4 {header : IPv4Header}
    {ipBuffer : List UInt8}
    (whole : ipBuffer.length = header.getIPHeaderLength) :
    calculateIpChecksum (.v4 header) ipBuffer = sealAt 10 ipBuffer := by
  rw [calculateIpChecksum, sealAt]
  rw [whole]

/-- The checksum of the IP header reads and writes the header only. -/
private theorem calculateIpChecksum_append {header : IPHeader}
    (complete : header.Complete) {ipBuffer : List UInt8}
    (whole : ipBuffer.length = header.headerLength) (back : List UInt8) :
    calculateIpChecksum header (ipBuffer ++ back) =
      calculateIpChecksum header ipBuffer ++ back := by
  cases header with
  | v4 header =>
      have long := complete.long
      have length_eq : ipBuffer.length = header.internetHeaderLength * 4 :=
        whole
      have zeroed_length :
          (overwrite ipBuffer 10 [0, 0]).length = ipBuffer.length :=
        length_overwrite
          (by simp only [List.length_cons, List.length_nil]; omega)
      have zeroed_append :
          overwrite (ipBuffer ++ back) 10 [0, 0] =
            overwrite ipBuffer 10 [0, 0] ++ back :=
        overwrite_append_left
          (by simp only [List.length_cons, List.length_nil]; omega) back
      have summed :
          calculateChecksum (overwrite ipBuffer 10 [0, 0] ++ back) 0
              header.getIPHeaderLength =
            calculateChecksum (overwrite ipBuffer 10 [0, 0]) 0
              header.getIPHeaderLength := by
        have ends : header.getIPHeaderLength =
            (overwrite ipBuffer 10 [0, 0]).length :=
          whole.symm.trans zeroed_length.symm
        rw [ends, calculateChecksum_append (by omega)]
      unfold calculateIpChecksum
      dsimp only
      rw [zeroed_append, summed, overwrite_append_left]
      rw [length_calculateChecksum, zeroed_length]
      omega
  | v6 header => rfl

/-- What `calculateTCPHeaderChecksum` computes from the pseudo-header and
the segment. -/
def segmentChecksum (pseudoTcpHeader segment : List UInt8) : List UInt8 :=
  let buffer := pseudoTcpHeader ++ segment
  let padded :=
    if buffer.length % 2 ≠ 0 then buffer ++ [0] else buffer
  calculateChecksum padded 0 padded.length

private theorem calculateTCPHeaderChecksum_append {ipHeader : IPHeader}
    (front segment : List UInt8) {pseudoTcpHeader : List UInt8}
    (pseudo :
      ipHeader.getTcpPseudoHeader (signed16 segment.length) =
        .ok pseudoTcpHeader) :
    calculateTCPHeaderChecksum (front ++ segment) front.length
        segment.length ipHeader =
      .ok (segmentChecksum pseudoTcpHeader segment) := by
  have behind :
      slice (front ++ segment) front.length segment.length = segment := by
    have whole :=
      slice_append_right front segment 0 segment.length
    rwa [Nat.add_zero, slice_all rfl] at whole
  rw [calculateTCPHeaderChecksum]
  rw [pseudo, behind]
  rfl

end PacketUtil

namespace TCPPacketFactory

/-- The TCP header and the payload, before the checksum is written. -/
def segmentBytes (tcpheader : TCPHeader) (data : List UInt8) : List UInt8 :=
  fixedFields tcpheader ++
    List.replicate (tcpheader.getTCPHeaderLength - 20) 0 ++ data

theorem length_segmentBytes {tcpheader : TCPHeader}
    (complete : tcpheader.Complete) (data : List UInt8) :
    (segmentBytes tcpheader data).length =
      tcpheader.getTCPHeaderLength + data.length := by
  have long := complete.twenty_le
  rw [segmentBytes]
  rw [List.length_append, List.length_append, length_fixedFields,
    List.length_replicate]
  omega

theorem createTCPHeaderData_complete {tcpheader : TCPHeader}
    (complete : tcpheader.Complete) :
    createTCPHeaderData tcpheader =
      .ok
        (fixedFields tcpheader ++
          List.replicate (tcpheader.getTCPHeaderLength - 20) 0) := by
  rw [createTCPHeaderData]
  rw [if_neg (Nat.not_lt.mpr complete.long), complete.plain]

/-- The three copies fill the packet. -/
private theorem layOut_eq (ipBuffer tcpBuffer data : List UInt8) :
    layOut (ipBuffer.length + (tcpBuffer.length + data.length)) ipBuffer
        tcpBuffer data =
      ipBuffer ++ (tcpBuffer ++ data) := by
  have first :
      PacketUtil.overwrite
          (List.replicate
            (ipBuffer.length + (tcpBuffer.length + data.length)) 0)
          0 ipBuffer =
        ipBuffer ++ List.replicate (tcpBuffer.length + data.length) 0 := by
    rw [List.replicate_add, PacketUtil.overwrite_append_left,
      PacketUtil.overwrite_whole] <;> simp
  have second :
      PacketUtil.overwrite
          (List.replicate (tcpBuffer.length + data.length) 0) 0
          tcpBuffer =
        tcpBuffer ++ List.replicate data.length 0 := by
    rw [List.replicate_add, PacketUtil.overwrite_append_left,
      PacketUtil.overwrite_whole] <;> simp
  have third :
      PacketUtil.overwrite (List.replicate data.length 0) 0 data = data :=
    PacketUtil.overwrite_whole (by simp)
  have atTcp :=
    PacketUtil.overwrite_append_right ipBuffer
      (List.replicate (tcpBuffer.length + data.length) 0) tcpBuffer 0
  have atData :=
    PacketUtil.overwrite_append_right (ipBuffer ++ tcpBuffer)
      (List.replicate data.length 0) data 0
  rw [Nat.add_zero, second] at atTcp
  rw [Nat.add_zero, third, List.length_append] at atData
  rw [layOut]
  rw [first, atTcp, ← List.append_assoc, atData, List.append_assoc]

/-- A packet is its IP header and its segment, each with its checksum. -/
theorem createPacketData_eq {packetId : Int} {ipHeader numbered : IPHeader}
    {tcpheader : TCPHeader} {data ipBuffer pseudoTcpHeader : List UInt8}
    (tcpComplete : tcpheader.Complete)
    (numbered_eq :
      (ipHeader.setPayloadLength
        (tcpheader.getTCPHeaderLength + data.length)).setIdentification
          packetId = numbered)
    (ipComplete : numbered.Complete)
    (ipBuilt : numbered.headerData = .ok ipBuffer)
    (whole : ipBuffer.length = numbered.headerLength)
    (total :
      numbered.getTotalLength =
        numbered.headerLength +
          (tcpheader.getTCPHeaderLength + data.length))
    (pseudo :
      numbered.getTcpPseudoHeader
          (signed16 (segmentBytes tcpheader data).length) =
        .ok pseudoTcpHeader) :
    createPacketData packetId ipHeader tcpheader data =
      .ok
        (PacketUtil.calculateIpChecksum numbered ipBuffer ++
          PacketUtil.overwrite (segmentBytes tcpheader data) 16
            (PacketUtil.segmentChecksum pseudoTcpHeader
              (PacketUtil.overwrite (segmentBytes tcpheader data) 16
                [0, 0]))) := by
  have long := tcpComplete.twenty_le
  have segment_length := length_segmentBytes tcpComplete data
  have tcpBuilt := createTCPHeaderData_complete tcpComplete
  generalize tcpBuffer_eq :
    fixedFields tcpheader ++
      List.replicate (tcpheader.getTCPHeaderLength - 20) 0 =
        tcpBuffer at tcpBuilt
  have segment_eq : segmentBytes tcpheader data = tcpBuffer ++ data := by
    rw [← tcpBuffer_eq, segmentBytes]
  have tcp_length := length_createTCPHeaderData tcpBuilt
  rw [segment_eq] at segment_length pseudo ⊢
  have laid :
      layOut numbered.getTotalLength.toNat ipBuffer tcpBuffer data =
        ipBuffer ++ (tcpBuffer ++ data) := by
    rw [← layOut_eq, total, whole, tcp_length]
    congr 1
  have summed :=
    PacketUtil.calculateIpChecksum_append ipComplete whole
      (tcpBuffer ++ data)
  have summed_length :
      (PacketUtil.calculateIpChecksum numbered ipBuffer).length =
        ipBuffer.length :=
    (PacketUtil.slice_calculateIpChecksum ipBuilt (le_refl _) (le_refl _)
      0).1
  have zeroed (source : List UInt8) :
      PacketUtil.overwrite
          (PacketUtil.calculateIpChecksum numbered ipBuffer ++
            (tcpBuffer ++ data))
          (ipBuffer.length + 16) source =
        PacketUtil.calculateIpChecksum numbered ipBuffer ++
          PacketUtil.overwrite (tcpBuffer ++ data) 16 source := by
    rw [← summed_length]
    exact PacketUtil.overwrite_append_right _ _ _ _
  have zeroed_length :
      (PacketUtil.overwrite (tcpBuffer ++ data) 16 [0, 0]).length =
        (tcpBuffer ++ data).length := by
    apply PacketUtil.length_overwrite
    simp only [segment_length, List.length_cons, List.length_nil]
    omega
  have segmentSum :=
    PacketUtil.calculateTCPHeaderChecksum_append
      (PacketUtil.calculateIpChecksum numbered ipBuffer)
      (PacketUtil.overwrite (tcpBuffer ++ data) 16 [0, 0])
      (by rw [zeroed_length]; exact pseudo)
  have checksum_length :
      (PacketUtil.segmentChecksum pseudoTcpHeader
        (PacketUtil.overwrite (tcpBuffer ++ data) 16 [0, 0])).length = 2 :=
    PacketUtil.length_calculateChecksum _ _ _
  rw [summed_length, zeroed_length, List.length_append] at segmentSum
  rw [createPacketData]
  rw [numbered_eq]
  rw [layOut] at laid
  simp only [ipBuilt, tcpBuilt, bind, Except.bind, laid, summed, zeroed,
    segmentSum, pure, Except.pure]
  rw [← summed_length, PacketUtil.overwrite_append_right,
    PacketUtil.overwrite_overwrite]
  · rw [segment_length]
    omega
  · rw [checksum_length]
    rfl

end TCPPacketFactory

end LanShield.Transport
