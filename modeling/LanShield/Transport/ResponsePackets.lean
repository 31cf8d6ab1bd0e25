import LanShield.Transport.PacketReparse

/-!
# Response packets

What a receiver finds in the packets the builders write for a client: the
length field, the two checksums, and the headers a parser reads back.
-/

namespace LanShield.Transport

open LanShield.Library LanShield.Java

theorem IPv4Header.ofStream_complete {stream after : ByteBuffer}
    {header : IPv4Header}
    (parsed : IPv4Header.ofStream stream = .ok (header, after))
    (long : 5 ≤ header.internetHeaderLength) : header.Complete := by
  obtain ⟨-, words, -, source, destination, room, -⟩ :=
    ofStream_fields parsed
  have capacity := stream.limit_le_capacity
  have within := stream.position_le_limit
  rw [ByteBuffer.remaining] at room
  refine ⟨long, by omega, ?_, ?_⟩
  · rw [source]
    exact length_slice_of_le (by omega)
  · rw [destination]
    exact length_slice_of_le (by omega)

theorem IPv6Header.ofStream_complete {stream after : ByteBuffer}
    {header : IPv6Header}
    (parsed : IPv6Header.ofStream stream = .ok (header, after)) :
    header.Complete := by
  obtain ⟨-, -, source, destination, room, -⟩ := ofStream_fields parsed
  have capacity := stream.limit_le_capacity
  have within := stream.position_le_limit
  rw [ByteBuffer.remaining] at room
  constructor
  · rw [source]
    exact length_slice_of_le (by omega)
  · rw [destination]
    exact length_slice_of_le (by omega)

namespace TCPPacketFactory

theorem createTCPHeader_complete {stream after : ByteBuffer}
    {header : TCPHeader}
    (parsed : createTCPHeader stream = .ok (header, after))
    (long : 5 ≤ header.dataOffset) :
    header.Complete ∧ header.sourcePort < 65536 ∧
      header.destinationPort < 65536 := by
  obtain ⟨-, fixed, -, -⟩ := createTCPHeader_fields parsed
  rw [SameFixedFields] at fixed
  have words : header.dataOffset = (fixedHeader stream).dataOffset :=
    (congrArg TCPHeader.dataOffset fixed).trans rfl
  have plain : header.options = (fixedHeader stream).options :=
    (congrArg TCPHeader.options fixed).trans rfl
  have sourcePort : header.sourcePort = (fixedHeader stream).sourcePort :=
    (congrArg TCPHeader.sourcePort fixed).trans rfl
  have destinationPort :
      header.destinationPort = (fixedHeader stream).destinationPort :=
    (congrArg TCPHeader.destinationPort fixed).trans rfl
  have short : (fixedHeader stream).dataOffset ≤ 15 := by
    rw [fixedHeader, TCPHeader.create]
    dsimp only
    omega
  refine ⟨⟨long, words.le.trans short, plain⟩, ?_, ?_⟩
  · rw [sourcePort]
    exact bigEndian_slice_lt _ _ 2
  · rw [destinationPort]
    exact bigEndian_slice_lt _ _ 2

end TCPPacketFactory

/-! ## The receiver's checksums -/

/-- The pseudo-header of a segment in an IPv4 packet. -/
def ipv4PseudoHeader (packet : List UInt8) (protocol : UInt8)
    (length : Nat) : List UInt8 :=
  slice packet 12 8 ++ [0, protocol] ++ toBigEndian 2 length

/-- The pseudo-header of a segment in an IPv6 packet. -/
def ipv6PseudoHeader (packet : List UInt8) (protocol : UInt8)
    (length : Nat) : List UInt8 :=
  slice packet 8 32 ++ toBigEndian 4 length ++ [0, 0, 0, protocol]

/-- The checksum of the IP header of `packet` is right, and its total length
is its length. -/
structure ValidIPv4Header (packet : List UInt8) (headerLength : Nat) :
    Prop where
  total : bigEndian (slice packet 2 2) = packet.length
  checksum : ValidChecksum (packet.take headerLength)

theorem IPv4Header.Layout.valid_header {header : IPv4Header}
    {bytes back : List UInt8} (layout : header.Layout bytes)
    (long : 12 ≤ bytes.length) (valid : ValidChecksum bytes)
    (total :
      header.getTotalLength =
        (header.getIPHeaderLength + back.length : Nat))
    (short : header.getIPHeaderLength + back.length < 65536) :
    ValidIPv4Header (bytes ++ back) header.getIPHeaderLength := by
  have length_eq := layout.length_eq
  constructor
  · have read := bigEndian_toBigEndian 2 header.getTotalLength
    rw [slice_append_left (by omega), layout.total, List.length_append]
    omega
  · rw [List.take_left' length_eq]
    exact valid

/-- The checksum of the segment behind the IP header is right. -/
def ValidIPv4Segment (packet : List UInt8) (protocol : UInt8)
    (headerLength : Nat) : Prop :=
  ValidChecksum
    (ipv4PseudoHeader packet protocol (packet.length - headerLength) ++
      packet.drop headerLength)

namespace PacketUtil

private theorem length_segmentChecksum
    (pseudoTcpHeader segment : List UInt8) :
    (segmentChecksum pseudoTcpHeader segment).length = 2 :=
  length_calculateChecksum _ _ _

/-- The checksum of a segment complements the sum of pseudo-header and
segment, padded or not. -/
private theorem segmentChecksum_spec {pseudoTcpHeader segment : List UInt8}
    (small : wordSum (pseudoTcpHeader ++ segment) < 2 ^ 31) :
    let word := segmentChecksum pseudoTcpHeader segment
    0 < wordSum word + wordSum (pseudoTcpHeader ++ segment) ∧
      (wordSum word + wordSum (pseudoTcpHeader ++ segment)) % 65535 = 0 := by
  rw [segmentChecksum]
  generalize pseudoTcpHeader ++ segment = buffer at small ⊢
  dsimp only
  by_cases odd : buffer.length % 2 ≠ 0
  · have padded := wordSum_padded (Nat.mod_two_ne_zero.mp odd)
    rw [if_pos odd, ← padded]
    apply calculateChecksum_spec
    · rw [List.length_append, List.length_singleton]
      omega
    · rw [padded]
      exact small
  · rw [if_neg odd]
    exact calculateChecksum_spec (not_not.mp odd) small

/-- Behind a pseudo-header of even length the segment passes the receiver's
test. -/
private theorem validChecksum_segment {pseudoTcpHeader segment : List UInt8}
    (even : pseudoTcpHeader.length % 2 = 0) (fits : 18 ≤ segment.length)
    (short : pseudoTcpHeader.length + segment.length < 65536) :
    ValidChecksum
      (pseudoTcpHeader ++
        overwrite segment 16
          (segmentChecksum pseudoTcpHeader
            (overwrite segment 16 [0, 0]))) := by
  have zeroed_length :
      (overwrite segment 16 [0, 0]).length = segment.length :=
    length_overwrite fits
  have bound := wordSum_le (pseudoTcpHeader ++ overwrite segment 16 [0, 0])
  rw [List.length_append, zeroed_length] at bound
  obtain ⟨positive, divisible⟩ :=
    @segmentChecksum_spec pseudoTcpHeader (overwrite segment 16 [0, 0])
      (by omega)
  rw [← overwrite_append_right] at positive divisible ⊢
  exact
    validChecksum_overwrite (by omega)
      (by rw [List.length_append]; omega)
      (length_calculateChecksum _ _ _) positive divisible

end PacketUtil

/-! ## Data segments over IPv4 -/

namespace TCPPacketFactory

/-- What a receiver reads from the flags of a response: the four that were
assigned, and no others. -/
private theorem createResponsePacketData_flags (ip : IPHeader)
    (tcp : TCPHeader)
    (packetData : List UInt8) (isPsh : Bool) (ackNumber seqNumber : Int)
    (timeSender timeReplyto : Int) :
    let read :=
      wireHeader
        (createResponsePacketData ip tcp packetData isPsh ackNumber
          seqNumber timeSender timeReplyto).transportHeader
    read.isACK = true ∧ read.isPSH = isPsh ∧ read.isSYN = false ∧
      read.isFIN = false := by
  generalize flags_eq :
    (createResponsePacketData ip tcp packetData isPsh ackNumber
      seqNumber timeSender timeReplyto).transportHeader.tcpFlags = flags
  have assigned :
      flags =
        TCPHeader.assignFlag
          (TCPHeader.assignFlag
            (TCPHeader.assignFlag
              (TCPHeader.assignFlag tcp.tcpFlags 0x10 true) 0x02 false)
            0x08 isPsh)
          0x01 false :=
    flags_eq.symm
  have ack : (flags &&& 0x10 != 0) = true := by
    rw [assigned, TCPHeader.assignFlag_and_other (by decide),
      TCPHeader.assignFlag_and_other (by decide),
      TCPHeader.assignFlag_and_other (by decide),
      TCPHeader.assignFlag_and (by decide)]
  have psh : (flags &&& 0x08 != 0) = isPsh := by
    rw [assigned, TCPHeader.assignFlag_and_other (by decide),
      TCPHeader.assignFlag_and (by decide)]
  have syn : (flags &&& 0x02 != 0) = false := by
    rw [assigned, TCPHeader.assignFlag_and_other (by decide),
      TCPHeader.assignFlag_and_other (by decide),
      TCPHeader.assignFlag_and (by decide)]
  have fin : (flags &&& 0x01 != 0) = false := by
    rw [assigned, TCPHeader.assignFlag_and (by decide)]
  rw [← flags_eq] at ack psh syn fin
  exact ⟨ack, psh, syn, fin⟩

/-- The two parts of a packet, each with a right checksum. -/
structure IPv4Parts (header : IPv4Header) (tcpheader : TCPHeader)
    (data ipBytes : List UInt8) : Prop where
  header_complete : header.Complete
  tcp_complete : tcpheader.Complete
  total :
    header.getTotalLength =
      header.getIPHeaderLength +
        (tcpheader.getTCPHeaderLength + data.length)
  short :
    header.getIPHeaderLength + tcpheader.getTCPHeaderLength +
      data.length < 32768
  layout : header.Layout ipBytes
  ip_valid : ValidChecksum ipBytes
  segment_valid :
    ValidChecksum
      (header.sourceIP.address ++ header.destinationIP.address ++ [0, 6] ++
        toBigEndian 2 (segmentBytes tcpheader data).length ++
        segmentBytes tcpheader data)

namespace IPv4Parts

variable {header : IPv4Header} {tcpheader : TCPHeader}
  {data ipBytes : List UInt8}

private theorem length_packet
    (parts : IPv4Parts header tcpheader data ipBytes) :
    (ipBytes ++ segmentBytes tcpheader data).length =
      header.getIPHeaderLength +
        (tcpheader.getTCPHeaderLength + data.length) := by
  rw [List.length_append, parts.layout.length_eq,
    length_segmentBytes parts.tcp_complete]

theorem long (parts : IPv4Parts header tcpheader data ipBytes) :
    20 ≤ ipBytes.length := by
  rw [parts.layout.length_eq]
  exact parts.header_complete.twenty_le

theorem valid_header (parts : IPv4Parts header tcpheader data ipBytes) :
    ValidIPv4Header (ipBytes ++ segmentBytes tcpheader data)
      header.getIPHeaderLength := by
  have long := parts.long
  have short := parts.short
  have total := parts.total
  have segment_length := length_segmentBytes parts.tcp_complete data
  exact
    parts.layout.valid_header (by omega) parts.ip_valid
      (by rw [segment_length]; exact total)
      (by rw [segment_length]; omega)

private theorem valid_segment
    (parts : IPv4Parts header tcpheader data ipBytes) :
    ValidIPv4Segment (ipBytes ++ segmentBytes tcpheader data) 6
      header.getIPHeaderLength := by
  have long := parts.long
  have addresses :
      slice (ipBytes ++ segmentBytes tcpheader data) 12 8 =
        header.sourceIP.address ++ header.destinationIP.address := by
    rw [slice_append_left (by omega), slice_add ipBytes 12 4 4,
      parts.layout.source, parts.layout.destination]
  have valid := parts.segment_valid
  rw [length_segmentBytes parts.tcp_complete] at valid
  rw [ValidIPv4Segment, ipv4PseudoHeader]
  rw [addresses, parts.length_packet, Nat.add_sub_cancel_left,
    List.drop_left' parts.layout.length_eq]
  exact valid

/-- Both parsers accept the packet and read its fields. -/
theorem reparsed (parts : IPv4Parts header tcpheader data ipBytes) :
    ∃ parsed afterIP afterTCP,
      createIPHeader
          (ByteBuffer.wrap (ipBytes ++ segmentBytes tcpheader data)) =
        .ok (.v4 parsed, afterIP) ∧
        parsed.sourceIP = header.sourceIP ∧
        parsed.destinationIP = header.destinationIP ∧
        parsed.getIPHeaderLength = header.getIPHeaderLength ∧
        createTCPHeader afterIP = .ok (wireHeader tcpheader, afterTCP) ∧
        afterTCP.unread = data := by
  obtain ⟨parsed, afterIP, run, source, destination, words, unread⟩ :=
    parts.layout.reparsed parts.header_complete
      (segmentBytes tcpheader data)
  obtain ⟨afterTCP, tcpRun, rest⟩ :=
    createTCPHeader_segmentBytes parts.tcp_complete unread
  refine
    ⟨parsed, afterIP, afterTCP, run, source, destination, ?_, tcpRun, rest⟩
  unfold IPv4Header.getIPHeaderLength
  rw [words]

end IPv4Parts

/-- `createPacketData` over a complete IPv4 header builds such parts. -/
private theorem createPacketData_v4 {header : IPv4Header}
    {tcpheader : TCPHeader}
    {data : List UInt8} (complete : header.Complete)
    (tcpComplete : tcpheader.Complete)
    (short :
      header.getIPHeaderLength + tcpheader.getTCPHeaderLength +
        data.length < 32768)
    (packetId : Int) :
    ∃ ipBytes checksum,
      createPacketData packetId (.v4 header) tcpheader data =
          .ok
            (ipBytes ++ segmentBytes { tcpheader with checksum } data) ∧
        IPv4Parts
          { header with
            payloadLength := tcpheader.getTCPHeaderLength + data.length
            identification := packetId }
          { tcpheader with checksum } data ipBytes := by
  generalize numbered_eq :
    ({ header with
        payloadLength := tcpheader.getTCPHeaderLength + data.length
        identification := packetId } : IPv4Header) = numbered
  have numberedComplete : numbered.Complete := by
    rw [← numbered_eq]
    exact
      ⟨complete.long, complete.short, complete.source_length,
        complete.destination_length⟩
  have length_eq : numbered.getIPHeaderLength = header.getIPHeaderLength := by
    rw [← numbered_eq]
    rfl
  have total :
      numbered.getTotalLength =
        numbered.getIPHeaderLength +
          (tcpheader.getTCPHeaderLength + data.length) := by
    rw [← numbered_eq]
    rfl
  obtain ⟨ipBuffer, ipBuilt, layout⟩ :=
    IPv4Header.headerData_layout numberedComplete
  have ip_length := layout.length_eq
  have words : 20 ≤ ipBuffer.length := by
    rw [ip_length]
    exact numberedComplete.twenty_le
  have segment_length := length_segmentBytes tcpComplete data
  have long : 18 ≤ (segmentBytes tcpheader data).length := by
    have := tcpComplete.twenty_le
    rw [segment_length]
    omega
  generalize pseudo_eq :
    numbered.sourceIP.address ++ numbered.destinationIP.address ++ [0, 6] ++
      toBigEndian 2 (segmentBytes tcpheader data).length = pseudoTcpHeader
  have pseudo_length : pseudoTcpHeader.length = 12 := by
    rw [← pseudo_eq]
    simp only [List.length_append, numberedComplete.source_length,
      numberedComplete.destination_length, length_toBigEndian,
      List.length_cons, List.length_nil]
  have small :
      signed16 (segmentBytes tcpheader data).length =
        (segmentBytes tcpheader data).length := by
    rw [signed16]
    omega
  have pseudo :
      (IPHeader.v4 numbered).getTcpPseudoHeader
          (signed16 (segmentBytes tcpheader data).length) =
        .ok pseudoTcpHeader := by
    rw [small, ← pseudo_eq]
    rfl
  have built :=
    @createPacketData_eq packetId (.v4 header) (.v4 numbered) tcpheader
      data ipBuffer pseudoTcpHeader tcpComplete (by rw [← numbered_eq]; rfl)
      numberedComplete ipBuilt ip_length total pseudo
  have valid :=
    PacketUtil.validChecksum_segment (by rw [pseudo_length]) long
      (by rw [pseudo_length]; omega)
  obtain ⟨checksum, checksum_eq⟩ :
      ∃ checksum,
        PacketUtil.segmentChecksum pseudoTcpHeader
            (PacketUtil.overwrite (segmentBytes tcpheader data) 16 [0, 0]) =
          toBigEndian 2 checksum :=
    ⟨_, rfl⟩
  have writtenComplete :
      TCPHeader.Complete { tcpheader with checksum } :=
    ⟨tcpComplete.long, tcpComplete.short, tcpComplete.plain⟩
  have written_length :=
    length_segmentBytes writtenComplete data
  rw [PacketUtil.calculateIpChecksum_v4 ip_length, checksum_eq,
    overwrite_checksum] at built
  rw [checksum_eq, overwrite_checksum, ← pseudo_eq, segment_length] at valid
  refine
    ⟨_, checksum, built, numberedComplete, writtenComplete, total,
      by rw [length_eq]; exact short, layout.sealed (by omega), ?_, ?_⟩
  · apply PacketUtil.validChecksum_sealAt _ rfl (by omega) (by omega)
    rw [ip_length]
    rw [IPv4Header.getIPHeaderLength]
    omega
  · rw [written_length]
    exact valid

/-- A packet both parsers accept, with what they read. -/
structure IPv4TCPPacket (packet : List UInt8) where
  ip : IPv4Header
  afterIP : ByteBuffer
  tcp : TCPHeader
  afterTCP : ByteBuffer
  ipRead : createIPHeader (ByteBuffer.wrap packet) = .ok (.v4 ip, afterIP)
  tcpRead : createTCPHeader afterIP = .ok (tcp, afterTCP)

/-- The packet is well formed and answers the one with the given headers:
the endpoints are swapped, and numbers, flags and payload are those asked
for. -/
structure IPv4TCPPacket.Answers {packet : List UInt8}
    (read : IPv4TCPPacket packet) (header : IPv4Header)
    (tcpheader : TCPHeader) (payload : List UInt8) (isPsh : Bool)
    (ackNumber seqNumber : Int) : Prop where
  valid_header : ValidIPv4Header packet read.ip.getIPHeaderLength
  valid_segment : ValidIPv4Segment packet 6 read.ip.getIPHeaderLength
  sourceIP : read.ip.sourceIP = header.destinationIP
  destinationIP : read.ip.destinationIP = header.sourceIP
  sourcePort : read.tcp.sourcePort = tcpheader.destinationPort
  destinationPort : read.tcp.destinationPort = tcpheader.sourcePort
  sequenceNumber :
    unsigned32 read.tcp.sequenceNumber = unsigned32 seqNumber
  ackNumber : unsigned32 read.tcp.ackNumber = unsigned32 ackNumber
  isACK : read.tcp.isACK = true
  isPSH : read.tcp.isPSH = isPsh
  isSYN : read.tcp.isSYN = false
  isFIN : read.tcp.isFIN = false
  payload : read.afterTCP.unread = payload

/-- A response over IPv4 is well formed and parses back. -/
theorem createResponsePacketData_v4
    {ipStream ipAfter tcpStream tcpAfter : ByteBuffer}
    {header : IPv4Header} {tcpheader : TCPHeader}
    (ipParsed : IPv4Header.ofStream ipStream = .ok (header, ipAfter))
    (ipLong : 5 ≤ header.internetHeaderLength)
    (tcpParsed : createTCPHeader tcpStream = .ok (tcpheader, tcpAfter))
    (tcpLong : 5 ≤ tcpheader.dataOffset)
    (payload : List UInt8) (isPsh : Bool) (ackNumber seqNumber : Int)
    (timeSender timeReplyto packetId : Int)
    (short :
      header.getIPHeaderLength + tcpheader.getTCPHeaderLength +
        payload.length < 32768) :
    ∃ packet, ∃ read : IPv4TCPPacket packet,
      (createResponsePacketData (.v4 header) tcpheader payload isPsh
          ackNumber seqNumber timeSender timeReplyto).getBuffer packetId =
        .ok packet ∧
        read.Answers header tcpheader payload isPsh ackNumber
          seqNumber := by
  have ipComplete := IPv4Header.ofStream_complete ipParsed ipLong
  obtain ⟨tcpComplete, sourceSmall, destinationSmall⟩ :=
    createTCPHeader_complete tcpParsed tcpLong
  obtain ⟨flipped, ipHeader_eq, flippedComplete, source, destination,
      words⟩ :
      ∃ flipped,
        (createResponsePacketData (.v4 header) tcpheader payload isPsh
          ackNumber seqNumber timeSender timeReplyto).ipHeader =
            .v4 flipped ∧
          flipped.Complete ∧
          flipped.sourceIP = header.destinationIP ∧
          flipped.destinationIP = header.sourceIP ∧
          flipped.getIPHeaderLength = header.getIPHeaderLength :=
    ⟨_, rfl,
      ⟨ipComplete.long, ipComplete.short, ipComplete.destination_length,
        ipComplete.source_length⟩,
      rfl, rfl, rfl⟩
  obtain ⟨ack, psh, syn, fin⟩ :=
    createResponsePacketData_flags (.v4 header) tcpheader payload isPsh
      ackNumber seqNumber timeSender timeReplyto
  generalize response_eq :
    createResponsePacketData (.v4 header) tcpheader payload isPsh
      ackNumber seqNumber timeSender timeReplyto = response at *
  have data_eq : response.data = payload := by
    rw [← response_eq]
    rfl
  have answeredComplete : response.transportHeader.Complete := by
    rw [← response_eq]
    exact ⟨tcpComplete.long, tcpComplete.short, rfl⟩
  have answeredWords :
      response.transportHeader.getTCPHeaderLength =
        tcpheader.getTCPHeaderLength := by
    rw [← response_eq]
    rfl
  obtain ⟨ipBytes, checksum, built, parts⟩ :=
    @createPacketData_v4 flipped response.transportHeader payload
      flippedComplete answeredComplete
      (by rw [words, answeredWords]; exact short) packetId
  obtain ⟨ip, afterIP, afterTCP, ipRun, ipSource, ipDestination, ipWords,
    tcpRun, rest⟩ := parts.reparsed
  have sourcePort :
      response.transportHeader.sourcePort % 65536 =
        tcpheader.destinationPort := by
    rw [← response_eq]
    exact Nat.mod_eq_of_lt destinationSmall
  have destinationPort :
      response.transportHeader.destinationPort % 65536 =
        tcpheader.sourcePort := by
    rw [← response_eq]
    exact Nat.mod_eq_of_lt sourceSmall
  have sequence_eq :
      unsigned32 (signed32 response.transportHeader.sequenceNumber) =
        unsigned32 seqNumber := by
    rw [← response_eq]
    exact unsigned32_signed32 seqNumber
  have acknowledgment_eq :
      unsigned32 (signed32 response.transportHeader.ackNumber) =
        unsigned32 ackNumber := by
    rw [← response_eq]
    exact unsigned32_signed32 ackNumber
  have written :
      response.getBuffer packetId =
        .ok
          (ipBytes ++
            segmentBytes { response.transportHeader with checksum }
              payload) := by
    rw [Packet.getBuffer]
    rw [ipHeader_eq, data_eq]
    exact built
  refine ⟨_, ⟨ip, afterIP, _, afterTCP, ipRun, tcpRun⟩, written, ?_⟩
  exact
    { valid_header := ipWords ▸ parts.valid_header
      valid_segment := ipWords ▸ parts.valid_segment
      sourceIP := ipSource.trans source
      destinationIP := ipDestination.trans destination
      sourcePort := sourcePort
      destinationPort := destinationPort
      sequenceNumber := sequence_eq
      ackNumber := acknowledgment_eq
      isACK := ack
      isPSH := psh
      isSYN := syn
      isFIN := fin
      payload := rest }

/-- A client's segment over IPv4, with an option in either header. -/
def request4Bytes : List UInt8 :=
  [0x46, 0, 0, 49, 0, 1, 0x40, 0, 64, 6, 0, 0, 10, 0, 0, 1, 10, 0, 0, 2,
    1, 1, 1, 0,
    4, 0, 0, 80, 0, 0, 0, 7, 0, 0, 0, 9, 0x60, 0x18, 3, 232, 0, 0, 0, 0,
    2, 4, 5, 180, 65]

def request4 : IPv4Header where
  ipVersion := 4
  internetHeaderLength := 6
  dscpOrTypeOfService := 0
  ecn := 0
  payloadLength := 43
  identification := 1
  flag := 0
  mayFragment := true
  lastFragment := false
  fragmentOffset := 0
  timeToLive := 64
  ipv4Protocol := 6
  protocol := some .tcp
  headerChecksum := 0
  sourceIP := ⟨[10, 0, 0, 1]⟩
  destinationIP := ⟨[10, 0, 0, 2]⟩

def requestSegment : TCPHeader :=
  { TCPHeader.create 1024 80 7 9 6 false 0x18 1000 0 0 with
    maxSegmentSize := 1460 }

theorem createResponsePacketData_request4 :
    ∃ packet, ∃ read : IPv4TCPPacket packet,
      (createResponsePacketData (.v4 request4) requestSegment [1, 2, 3]
          false 8 (2 ^ 32 + 9) 5 6).getBuffer 17 = .ok packet ∧
        read.Answers request4 requestSegment [1, 2, 3] false 8
          (2 ^ 32 + 9) :=
  @createResponsePacketData_v4 (ByteBuffer.wrap request4Bytes)
    ((ByteBuffer.wrap request4Bytes).advance 24)
    ((ByteBuffer.wrap request4Bytes).advance 24)
    ((ByteBuffer.wrap request4Bytes).advance 48) request4 requestSegment
    (by decide +kernel) (by decide) (by decide +kernel) (by decide)
    [1, 2, 3] false 8 (2 ^ 32 + 9) 5 6 17 (by decide)

end TCPPacketFactory

/-! ## Segments over IPv6 -/

namespace PacketUtil

/-- With as many zeros as the segment is long between pseudo-header and
segment, the checksum is right when it has whole words to skip, and else
only where swapping the bytes of every word changes nothing. -/
private theorem validChecksum_misaligned {pseudoHeader segment : List UInt8}
    (even : pseudoHeader.length = 40) (positive : 0 < wordSum pseudoHeader)
    (fits : 18 ≤ segment.length) (short : segment.length < 32768) :
    let zeroed := overwrite segment 16 [0, 0]
    ValidChecksum
        (pseudoHeader ++
          overwrite segment 16
            (segmentChecksum
              (pseudoHeader ++ List.replicate segment.length 0) zeroed)) ↔
      segment.length % 2 = 0 ∨ alternatingSum zeroed % 257 = 0 := by
  have zeroed_length :
      (overwrite segment 16 [0, 0]).length = segment.length :=
    length_overwrite fits
  generalize zeroed_eq : overwrite segment 16 [0, 0] = zeroed at *
  have skipped :
      wordSum
          (pseudoHeader ++ List.replicate segment.length 0 ++ zeroed) =
        wordSum pseudoHeader +
          (if segment.length % 2 = 0 then wordSum zeroed
            else wordSum (0 :: zeroed)) := by
    rw [List.append_assoc, wordSum_append (by rw [even]),
      wordSum_zeros_append]
  have pseudoBound := wordSum_le pseudoHeader
  have alignedBound := wordSum_le zeroed
  have shiftedBound := wordSum_le (0 :: zeroed)
  rw [even] at pseudoBound
  rw [zeroed_length] at alignedBound
  rw [List.length_cons, zeroed_length] at shiftedBound
  have small :
      wordSum
          (pseudoHeader ++ List.replicate segment.length 0 ++ zeroed) <
        2 ^ 31 := by
    rw [skipped]
    split <;> omega
  obtain ⟨-, divisible⟩ := segmentChecksum_spec small
  have received (word : List UInt8) (two : word.length = 2) :
      wordSum (pseudoHeader ++ overwrite segment 16 word) =
        wordSum pseudoHeader + (wordSum zeroed + wordSum word) := by
    rw [wordSum_append (by rw [even]),
      wordSum_overwrite (by decide) fits two, zeroed_eq]
  have shifted := wordSum_shifted zeroed
  rw [skipped] at divisible
  dsimp only
  rw [validChecksum_iff, received _ (length_segmentChecksum _ _)]
  by_cases aligned : segment.length % 2 = 0
  · rw [if_pos aligned] at divisible
    omega
  · rw [if_neg aligned] at divisible
    omega

end PacketUtil

/-- The checksum of the segment behind an IPv6 header is right. -/
def ValidIPv6Segment (packet : List UInt8) (protocol : UInt8) : Prop :=
  ValidChecksum
    (ipv6PseudoHeader packet protocol (packet.length - 40) ++
      packet.drop 40)

instance (packet : List UInt8) (protocol : UInt8) :
    Decidable (ValidIPv6Segment packet protocol) :=
  inferInstanceAs (Decidable (ValidChecksum _))

theorem IPv6Header.headerData_layout {header : IPv6Header}
    (complete : header.Complete) :
    header.headerData.length = 40 ∧
      slice header.headerData 4 2 = toBigEndian 2 header.payloadLength ∧
      slice header.headerData 8 32 =
        header.sourceIP.address ++ header.destinationIP.address := by
  obtain ⟨source_length, destination_length⟩ := complete
  have source_all :
      header.sourceIP.getBytes.take 16 = header.sourceIP.address :=
    List.take_of_length_le source_length.le
  have destination_all :
      header.destinationIP.getBytes.take 16 =
        header.destinationIP.address :=
    List.take_of_length_le destination_length.le
  rw [headerData]
  rw [source_all, destination_all]
  refine ⟨?_, rfl, ?_⟩
  · simp only [List.length_append, List.length_cons, List.length_nil,
      source_length, destination_length]
  · rw [List.append_assoc]
    have behind :=
      slice_append_right
        [byteOf (header.ipVersion * 16) ||| byteOf header.trafficClass,
          byteOf (header.trafficClass % 16 * 16) |||
            byteOf (header.flowLabel % 16),
          byteOf (header.flowLabel / 256),
          byteOf header.flowLabel,
          byteOf (header.payloadLength / 256),
          byteOf header.payloadLength,
          byteOf header.nextHeader,
          byteOf header.hopLimit]
        (header.sourceIP.address ++ header.destinationIP.address) 0 32
    refine behind.trans (slice_all ?_)
    rw [List.length_append, source_length, destination_length]

/-- The buffer of the pseudo-header is larger than what is put into it. -/
theorem IPHeader.getTcpPseudoHeader_v6 {header : IPv6Header}
    (complete : header.Complete) {length : Nat} (short : length < 32768) :
    (IPHeader.v6 header).getTcpPseudoHeader length =
      .ok
        (header.sourceIP.address ++ header.destinationIP.address ++
          toBigEndian 4 length ++ [0, 0, 0, 6] ++
          List.replicate length 0) := by
  obtain ⟨source_length, destination_length⟩ := complete
  have small : signed16 length = length :=
    signed16_eq_self (by omega) (by omega)
  generalize pseudo_eq :
    header.sourceIP.address ++ header.destinationIP.address ++
      toBigEndian 4 length ++ [0, 0, 0, 6] = pseudoHeader
  have pseudo_length : pseudoHeader.length = 40 := by
    rw [← pseudo_eq]
    simp only [List.length_append, source_length, destination_length,
      length_toBigEndian, List.length_cons, List.length_nil]
  have capacity : (signed16 length + 40).toNat = 40 + length := by
    rw [small]
    omega
  have put :
      ∃ buffer,
        (ByteBuffer.allocate (40 + length)).put pseudoHeader = .ok buffer ∧
          buffer.array = pseudoHeader ++ List.replicate length 0 := by
    refine ⟨_, dif_pos ?_, ?_⟩
    · rw [pseudo_length]
      simp [ByteBuffer.allocate]
    · simp [ByteBuffer.allocate, ByteBuffer.wrap, pseudo_length]
  obtain ⟨buffer, filled, array_eq⟩ := put
  unfold getTcpPseudoHeader
  dsimp only
  unfold IPAddress.getBytes
  rw [if_neg (by omega), capacity, small, pseudo_eq, filled, ← array_eq]
  rfl

namespace TCPPacketFactory

/-- The checksum of a packet over IPv6 is right for a payload of even
length; behind an odd one it is summed one byte out of line. -/
theorem createPacketData_v6_valid_iff
    {ipStream ipAfter tcpStream tcpAfter : ByteBuffer}
    {header : IPv6Header} {tcpheader : TCPHeader}
    (ipParsed : IPv6Header.ofStream ipStream = .ok (header, ipAfter))
    (tcpParsed : createTCPHeader tcpStream = .ok (tcpheader, tcpAfter))
    (tcpLong : 5 ≤ tcpheader.dataOffset)
    (data : List UInt8) (packetId : Int)
    (short : tcpheader.getTCPHeaderLength + data.length < 32768) :
    ∃ packet,
      createPacketData packetId (.v6 header) tcpheader data = .ok packet ∧
        (ValidIPv6Segment packet 6 ↔
          data.length % 2 = 0 ∨
            alternatingSum
                (segmentBytes { tcpheader with checksum := 0 } data) % 257 =
              0) := by
  have complete := IPv6Header.ofStream_complete ipParsed
  have tcpComplete := (createTCPHeader_complete tcpParsed tcpLong).1
  generalize numbered_eq :
    ({ header with
        payloadLength := tcpheader.getTCPHeaderLength + data.length } :
      IPv6Header) = numbered
  have numberedComplete : numbered.Complete := by
    rw [← numbered_eq]
    exact ⟨complete.source_length, complete.destination_length⟩
  obtain ⟨ip_length, -, addresses⟩ :=
    IPv6Header.headerData_layout numberedComplete
  have segment_length := length_segmentBytes tcpComplete data
  have words : tcpheader.getTCPHeaderLength = tcpheader.dataOffset * 4 :=
    rfl
  have small :
      signed16 (segmentBytes tcpheader data).length =
        (segmentBytes tcpheader data).length := by
    rw [signed16]
    omega
  have pseudo :=
    @IPHeader.getTcpPseudoHeader_v6 numbered numberedComplete
      (segmentBytes tcpheader data).length (by omega)
  have built :=
    @createPacketData_eq packetId (.v6 header) (.v6 numbered) tcpheader
      data numbered.headerData _ tcpComplete (by rw [← numbered_eq]; rfl)
      numberedComplete rfl ip_length
      (by rw [← numbered_eq]; rfl) (by rw [small]; exact pseudo)
  refine ⟨_, built, ?_⟩
  change
    ValidIPv6Segment
        (numbered.headerData ++
          PacketUtil.overwrite (segmentBytes tcpheader data) 16 _) 6 ↔ _
  generalize pseudo_eq :
    numbered.sourceIP.address ++ numbered.destinationIP.address ++
      toBigEndian 4 (segmentBytes tcpheader data).length ++
        [0, 0, 0, 6] = pseudoHeader
  have pseudo_length : pseudoHeader.length = 40 := by
    rw [← pseudo_eq]
    simp only [List.length_append, numberedComplete.source_length,
      numberedComplete.destination_length, length_toBigEndian,
      List.length_cons, List.length_nil]
  have pseudo_pos : 0 < wordSum pseudoHeader := by
    rw [← pseudo_eq, wordSum_append]
    · have six : wordSum [0, 0, 0, 6] = 6 := rfl
      omega
    · simp only [List.length_append, numberedComplete.source_length,
        numberedComplete.destination_length, length_toBigEndian]
  have misaligned :=
    @PacketUtil.validChecksum_misaligned pseudoHeader
      (segmentBytes tcpheader data) pseudo_length pseudo_pos (by omega)
      (by omega)
  have written_length :
      (PacketUtil.overwrite (segmentBytes tcpheader data) 16
        (PacketUtil.segmentChecksum
          (pseudoHeader ++
            List.replicate (segmentBytes tcpheader data).length 0)
          (PacketUtil.overwrite (segmentBytes tcpheader data) 16
            [0, 0]))).length =
        (segmentBytes tcpheader data).length := by
    apply PacketUtil.length_overwrite
    rw [PacketUtil.length_segmentChecksum]
    omega
  have zero_checksum := overwrite_checksum tcpheader data 0
  have zero_bytes : toBigEndian 2 0 = [0, 0] := rfl
  rw [zero_bytes] at zero_checksum
  have parity :
      (segmentBytes tcpheader data).length % 2 = 0 ↔
        data.length % 2 = 0 := by
    omega
  rw [← zero_checksum, ← parity]
  rw [ValidIPv6Segment, ipv6PseudoHeader]
  rw [slice_append_left (by rw [ip_length]), addresses,
    List.length_append, written_length, ip_length, Nat.add_sub_cancel_left,
    List.drop_left' ip_length, pseudo_eq]
  exact misaligned

/-- A client's segment over IPv6. -/
def request6Bytes : List UInt8 :=
  [0x60, 0, 0, 0, 0, 20, 6, 64] ++
    [0xFD, 0, 0, 0, 0, 0, 0, 0, 0, 0, 0, 0, 0, 0, 0, 1] ++
    [0xFD, 0, 0, 0, 0, 0, 0, 0, 0, 0, 0, 0, 0, 0, 0, 2] ++
    [4, 0, 0, 80, 0, 0, 0, 7, 0, 0, 0, 9, 0x50, 0x10, 3, 232, 0, 0, 0, 0]

def request6 : IPv6Header where
  ipVersion := 6
  trafficClass := 0
  flowLabel := 0
  payloadLength := 20
  nextHeader := 6
  protocol := some .tcp
  hopLimit := 64
  sourceIP := ⟨[0xFD, 0, 0, 0, 0, 0, 0, 0, 0, 0, 0, 0, 0, 0, 0, 1]⟩
  destinationIP := ⟨[0xFD, 0, 0, 0, 0, 0, 0, 0, 0, 0, 0, 0, 0, 0, 0, 2]⟩

def plainSegment : TCPHeader :=
  TCPHeader.create 1024 80 7 9 5 false 0x10 1000 0 0

theorem createPacketData_request6 :
    ∃ packet,
      createPacketData 0 (.v6 request6) plainSegment [1] = .ok packet ∧
        (ValidIPv6Segment packet 6 ↔
          [(1 : UInt8)].length % 2 = 0 ∨
            alternatingSum
                (segmentBytes { plainSegment with checksum := 0 } [1]) %
                257 =
              0) :=
  @createPacketData_v6_valid_iff (ByteBuffer.wrap request6Bytes)
    ((ByteBuffer.wrap request6Bytes).advance 40)
    ((ByteBuffer.wrap request6Bytes).advance 40)
    ((ByteBuffer.wrap request6Bytes).advance 60) request6 plainSegment
    (by decide +kernel) (by decide +kernel) (by decide) [1] 0 (by decide)

/-- One payload byte behind the segment's twenty is summed out of line. -/
theorem odd_payload_misaligned :
    IPv6Header.ofStream (ByteBuffer.wrap request6Bytes) =
        .ok (request6, (ByteBuffer.wrap request6Bytes).advance 40) ∧
      createTCPHeader ((ByteBuffer.wrap request6Bytes).advance 40) =
        .ok (plainSegment, (ByteBuffer.wrap request6Bytes).advance 60) ∧
      ∃ packet,
        createPacketData 0 (.v6 request6) plainSegment [1] = .ok packet ∧
          ¬ ValidIPv6Segment packet 6 := by
  refine ⟨by decide +kernel, by decide +kernel, ?_⟩
  refine
    ⟨request6.headerData.set 5 21 ++
      segmentBytes { plainSegment with checksum := 0xAD86 } [1], ?_, ?_⟩
  · decide +kernel
  · decide +kernel

end TCPPacketFactory

end LanShield.Transport
