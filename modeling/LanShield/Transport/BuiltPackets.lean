import LanShield.Transport.UDPReplies

/-!
# When a packet can be built

The parsers accept a header whose length field is too small for the header's
own fields, and no builder can serialise one.  From every other header they
return, each builder makes an array.
-/

namespace LanShield.Transport

open LanShield.Library LanShield.Java

/-- The length field leaves room for the fields of the header. -/
def IPHeader.HasRoom : IPHeader → Prop
  | .v4 header => 5 ≤ header.internetHeaderLength
  | .v6 _ => True

/-- The data offset leaves room for the fields of the header. -/
def TCPHeader.HasRoom (header : TCPHeader) : Prop :=
  5 ≤ header.dataOffset

instance : DecidablePred IPHeader.HasRoom
  | .v4 _ => inferInstanceAs (Decidable (_ ≤ _))
  | .v6 _ => inferInstanceAs (Decidable True)

instance : DecidablePred TCPHeader.HasRoom :=
  fun _ => inferInstanceAs (Decidable (_ ≤ _))

/-- What every parsed TCP header is, whatever its data offset. -/
structure TCPHeader.Parsed (header : TCPHeader) : Prop where
  complete : header.HasRoom → header.Complete
  small : header.maxSegmentSize < 2 ^ 15

/-- A parsed IP header lacks room at most. -/
theorem createIPHeader_complete {stream after : ByteBuffer}
    {header : IPHeader}
    (parsed : createIPHeader stream = .ok (header, after))
    (room : header.HasRoom) : header.Complete := by
  rw [createIPHeader] at parsed
  rw [Reading.bind_eq_ok] at parsed
  obtain ⟨first, rest, -, parsed⟩ := parsed
  rw [Reading.modify_bind] at parsed
  split at parsed
  · rw [Reading.bind_eq_ok] at parsed
    obtain ⟨v4, behind, read, result⟩ := parsed
    rw [Reading.pure_eq_ok] at result
    obtain ⟨rfl, rfl⟩ := result
    exact IPv4Header.ofStream_complete read room
  · rw [Reading.bind_eq_ok] at parsed
    obtain ⟨v6, behind, read, result⟩ := parsed
    rw [Reading.pure_eq_ok] at result
    obtain ⟨rfl, rfl⟩ := result
    exact IPv6Header.ofStream_complete read

/-- The pseudo-header of a segment whose length is not negative as a
`short`. -/
theorem IPHeader.Complete.getTcpPseudoHeader {header : IPHeader}
    (complete : header.Complete) {length : Nat} (short : length < 2 ^ 15) :
    ∃ pseudoTcpHeader,
      header.getTcpPseudoHeader (signed16 length) = .ok pseudoTcpHeader := by
  have small : signed16 length = length :=
    signed16_eq_self (by omega) (by omega)
  rw [small]
  cases header with
  | v4 header => exact ⟨_, rfl⟩
  | v6 header => exact ⟨_, IPHeader.getTcpPseudoHeader_v6 complete short⟩

namespace TCPPacketFactory

/-- A parsed maximum segment size is a `short`. -/
private theorem createTCPHeader_signedShort {stream after : ByteBuffer}
    {header : TCPHeader}
    (parsed : createTCPHeader stream = .ok (header, after)) :
    -2 ^ 15 ≤ header.maxSegmentSize ∧ header.maxSegmentSize < 2 ^ 15 := by
  have kept :
      KeptByOptions fun header =>
        -2 ^ 15 ≤ header.maxSegmentSize ∧ header.maxSegmentSize < 2 ^ 15 :=
    ⟨fun _ _ least small _ => ⟨least, small⟩, fun _ _ short => short,
      fun _ short => short, fun _ _ _ short => short⟩
  have fresh : (-2 ^ 15 : Int) ≤ 0 ∧ (0 : Int) < 2 ^ 15 := by decide
  rw [createTCPHeader] at parsed
  rw [Reading.get_bind] at parsed
  split at parsed
  · simp at parsed
  · simp only [Reading.bind_eq_ok] at parsed
    obtain ⟨_, _, -, _, _, -, _, _, -, _, _, -, _, _, -, _, _, -,
      parsed⟩ := parsed
    split at parsed
    · simp at parsed
    · simp only [Reading.bind_eq_ok] at parsed
      obtain ⟨_, _, -, _, _, -, _, _, -, _, _, -, parsed⟩ := parsed
      split at parsed
      · rw [Reading.get_bind] at parsed
        exact (handleTcpOptions_keeps kept (by exact fresh) parsed).1
      · rw [Reading.pure_eq_ok] at parsed
        obtain ⟨rfl, rfl⟩ := parsed
        exact fresh

private theorem createTCPHeader_small {stream after : ByteBuffer}
    {header : TCPHeader}
    (parsed : createTCPHeader stream = .ok (header, after)) :
    header.maxSegmentSize < 2 ^ 15 :=
  (createTCPHeader_signedShort parsed).2

theorem createTCPHeader_parsed {stream after : ByteBuffer}
    {header : TCPHeader}
    (parsed : createTCPHeader stream = .ok (header, after)) :
    header.Parsed :=
  ⟨fun room => (createTCPHeader_complete parsed room).1,
    createTCPHeader_small parsed⟩

/-- From complete headers a packet is built, if its segment is not so long
that its length turns negative as a `short`. -/
theorem createPacketData_built {ipHeader : IPHeader}
    {tcpheader : TCPHeader} {data : List UInt8}
    (ipComplete : ipHeader.Complete) (tcpComplete : tcpheader.Complete)
    (short : tcpheader.getTCPHeaderLength + data.length < 2 ^ 15)
    (packetId : Int) :
    ∃ bytes,
      createPacketData packetId ipHeader tcpheader data = .ok bytes := by
  have numberedComplete :=
    ipComplete.numbered (tcpheader.getTCPHeaderLength + data.length)
      packetId
  generalize numbered_eq :
    (ipHeader.setPayloadLength
      (tcpheader.getTCPHeaderLength + data.length)).setIdentification
        packetId = numbered at numberedComplete
  obtain ⟨ipBuffer, ipBuilt, -⟩ :=
    IPHeader.length_headerData numberedComplete
  have tcpBuilt := createTCPHeaderData_complete tcpComplete
  have tcp_length := length_createTCPHeaderData tcpBuilt
  obtain ⟨pseudoTcpHeader, pseudo⟩ :=
    numberedComplete.getTcpPseudoHeader short
  rw [createPacketData]
  rw [numbered_eq]
  simp only [ipBuilt, tcpBuilt, tcp_length, bind, Except.bind,
    PacketUtil.calculateTCPHeaderChecksum, pseudo, pure, Except.pure]
  exact ⟨_, rfl⟩

private theorem hasRoom_of_createTCPHeaderData {header : TCPHeader}
    {bytes : List UInt8} (built : createTCPHeaderData header = .ok bytes) :
    header.HasRoom := by
  rw [createTCPHeaderData] at built
  split at built
  · cases built
  · next room => exact Nat.not_lt.mp room

end TCPPacketFactory

private theorem IPHeader.hasRoom_of_headerData {header : IPHeader}
    {bytes : List UInt8} (built : header.headerData = .ok bytes) :
    header.HasRoom := by
  cases header with
  | v4 header =>
      have built' : header.headerData = .ok bytes := built
      rw [IPv4Header.headerData] at built'
      split at built'
      · cases built'
      · next room => exact Nat.not_lt.mp room
  | v6 header => trivial

namespace TCPPacketFactory

/-- What has been built had room in both headers. -/
theorem hasRoom_of_createPacketData {packetId : Int} {ipHeader : IPHeader}
    {tcpheader : TCPHeader} {data bytes : List UInt8}
    (built :
      createPacketData packetId ipHeader tcpheader data = .ok bytes) :
    ipHeader.HasRoom ∧ tcpheader.HasRoom := by
  rw [createPacketData] at built
  generalize numbered_eq :
    (ipHeader.setPayloadLength
      (tcpheader.getTCPHeaderLength + data.length)).setIdentification
        packetId = numbered at built
  cases ipBuilt : numbered.headerData with
  | error exception =>
      simp only [ipBuilt, bind, Except.bind] at built
      cases built
  | ok ipBuffer =>
      cases tcpBuilt : createTCPHeaderData tcpheader with
      | error exception =>
          simp only [ipBuilt, tcpBuilt, bind, Except.bind] at built
          cases built
      | ok tcpBuffer =>
          have room := IPHeader.hasRoom_of_headerData ipBuilt
          refine ⟨?_, hasRoom_of_createTCPHeaderData tcpBuilt⟩
          rw [← numbered_eq] at room
          cases ipHeader with
          | v4 header => exact room
          | v6 header => trivial

theorem flipIP_complete {ip : IPHeader} (complete : ip.Complete) :
    (flipIP ip.clone).Complete := by
  cases ip with
  | v4 header =>
      exact
        ⟨complete.long, complete.short, complete.destination_length,
          complete.source_length⟩
  | v6 header =>
      exact ⟨complete.destination_length, complete.source_length⟩

theorem setPayloadLength_complete {ip : IPHeader} (complete : ip.Complete)
    (length : Int) : (ip.setPayloadLength length).Complete := by
  cases ip with
  | v4 header =>
      exact
        ⟨complete.long, complete.short, complete.source_length,
          complete.destination_length⟩
  | v6 header =>
      exact ⟨complete.source_length, complete.destination_length⟩

/-- A segment of downloaded data is built. -/
theorem createResponsePacketData_built {ip : IPHeader} {tcp : TCPHeader}
    (ipComplete : ip.Complete) (tcpComplete : tcp.Complete)
    {packetData : List UInt8} (short : packetData.length < 2 ^ 15 - 60)
    (isPsh : Bool) (ackNumber seqNumber timeSender timeReplyto packetId : Int) :
    ∃ bytes,
      (createResponsePacketData ip tcp packetData isPsh ackNumber seqNumber
        timeSender timeReplyto).getBuffer packetId = .ok bytes := by
  apply createPacketData_built
  · exact setPayloadLength_complete (flipIP_complete ipComplete) _
  · exact ⟨tcpComplete.long, tcpComplete.short, rfl⟩
  · show tcp.dataOffset * 4 + packetData.length < 2 ^ 15
    have words := tcpComplete.short
    omega

/-- A reset is built. -/
theorem createRstData_built {ip : IPHeader} {tcp : TCPHeader}
    (ipComplete : ip.Complete) (tcpComplete : tcp.Complete)
    (datalength : Nat) (packetId : Int) :
    ∃ bytes,
      (createRstData ip tcp datalength).getBuffer packetId = .ok bytes := by
  apply createPacketData_built
  · exact setPayloadLength_complete (flipIP_complete ipComplete) _
  · exact ⟨tcpComplete.long, tcpComplete.short, rfl⟩
  · show tcp.dataOffset * 4 + 0 < 2 ^ 15
    have words := tcpComplete.short
    omega

/-- A SYN whose answer has been built had room in both headers. -/
theorem hasRoom_of_createSynAckPacketData {ip : IPHeader} {tcp : TCPHeader}
    {random currentTime packetId : Int} {bytes : List UInt8}
    (built :
      (createSynAckPacketData ip tcp random currentTime).getBuffer packetId =
        .ok bytes) :
    ip.HasRoom ∧ tcp.HasRoom := by
  obtain ⟨ipRoom, tcpRoom⟩ := hasRoom_of_createPacketData built
  refine ⟨?_, tcpRoom⟩
  cases ip with
  | v4 header => exact ipRoom
  | v6 header => trivial

end TCPPacketFactory

namespace UDPPacketFactory

theorem replyHeader_complete {ip : IPHeader} (complete : ip.Complete)
    (packetId udpLen : Int) : (replyHeader packetId ip udpLen).Complete := by
  cases ip with
  | v4 header =>
      exact
        ⟨complete.long, complete.short, complete.destination_length,
          complete.source_length⟩
  | v6 header =>
      exact ⟨complete.destination_length, complete.source_length⟩

/-- A datagram of any length is built. -/
theorem createResponsePacket_built {objects : HeaderObjects}
    (complete : objects.ip.Complete) (packetData : List UInt8)
    (packetId : Int) :
    ∃ bytes,
      (createResponsePacket packetId packetData objects).map Prod.fst =
        .ok bytes := by
  obtain ⟨ipData, built, -⟩ :=
    IPHeader.length_headerData
      (replyHeader_complete complete packetId (8 + packetData.length : Nat))
  rw [createResponsePacket_eq, built]
  exact ⟨_, rfl⟩

end UDPPacketFactory

/-- The bytes of both headers. -/
def headersLength (ipHeader : IPHeader) (tcpheader : TCPHeader) : Nat :=
  ipHeader.headerLength + tcpheader.getTCPHeaderLength

/-- A packet is its headers and its payload. -/
theorem Packet.length_getBuffer {packet : Packet} {packetId : Int}
    {bytes : List UInt8} (built : packet.getBuffer packetId = .ok bytes) :
    bytes.length =
      headersLength packet.ipHeader packet.transportHeader +
        packet.data.length := by
  rw [getBuffer] at built
  rw [TCPPacketFactory.length_createPacketData built, headersLength]
  cases packet.ipHeader with
  | v4 header =>
      show
        Int.toNat
            (header.getIPHeaderLength +
              (packet.transportHeader.getTCPHeaderLength +
                packet.data.length)) = _
      rw [IPHeader.headerLength]
      omega
  | v6 header =>
      show
        Int.toNat
            (40 +
              (packet.transportHeader.getTCPHeaderLength +
                packet.data.length)) = _
      rw [IPHeader.headerLength]
      omega

section HeadersLength

variable (ipHeader : IPHeader) (tcpheader : TCPHeader)

/-- A segment of data has headers as long as those it answers. -/
theorem headersLength_createResponsePacketData (packetData : List UInt8)
    (isPsh : Bool) (ackNumber seqNumber timeSender timeReplyto : Int) :
    headersLength
        (TCPPacketFactory.createResponsePacketData ipHeader tcpheader
          packetData isPsh ackNumber seqNumber timeSender
          timeReplyto).ipHeader
        (TCPPacketFactory.createResponsePacketData ipHeader tcpheader
          packetData isPsh ackNumber seqNumber timeSender
          timeReplyto).transportHeader =
      headersLength ipHeader tcpheader := by
  cases ipHeader with
  | v4 header => rfl
  | v6 header => rfl

theorem headersLength_createFinData
    (ackNumber seqNumber timeSender timeReplyTo : Int) :
    headersLength
        (TCPPacketFactory.createFinData ipHeader tcpheader ackNumber
          seqNumber timeSender timeReplyTo).ipHeader
        (TCPPacketFactory.createFinData ipHeader tcpheader ackNumber
          seqNumber timeSender timeReplyTo).transportHeader =
      headersLength ipHeader tcpheader := by
  cases ipHeader with
  | v4 header => rfl
  | v6 header => rfl

end HeadersLength

end LanShield.Transport
