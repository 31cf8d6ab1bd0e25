import LanShield.Library.OrderedReplies
import LanShield.Transport.BuiltPackets
import LanShield.Vpn.SessionManager

/-!
# Replies to the client of a session

What the packets are that `readUDP` writes to the client, over IPv4, as
parsers like those of the engine read them.
-/

namespace LanShield.Transport

open LanShield.Library LanShield.Java

/-- The protocol byte of a packet that is parsed as IPv4. -/
private theorem createIPHeader_protocol4 {packet : List UInt8}
    {header : IPv4Header}
    {after : ByteBuffer}
    (parsed :
      createIPHeader (ByteBuffer.wrap packet) = .ok (.v4 header, after)) :
    header.protocol =
      IPv4Header.protocolOf (signed8 (bigEndian (slice packet 9 1))) := by
  cases packet with
  | nil => cases parsed
  | cons first rest =>
      rw [createIPHeader_eq rfl (by simp)] at parsed
      split at parsed
      · cases outcome :
            IPv4Header.ofStream (ByteBuffer.wrap (first :: rest)) with
        | error exception =>
            rw [Reading.map_of_eq_error outcome] at parsed
            cases parsed
        | ok result =>
            rw [Reading.map_of_eq_ok outcome] at parsed
            cases parsed
            exact (IPv4Header.ofStream_fields outcome).2.2.1
      · cases outcome :
            IPv6Header.ofStream (ByteBuffer.wrap (first :: rest)) with
        | error exception =>
            rw [Reading.map_of_eq_error outcome] at parsed
            cases parsed
        | ok result =>
            rw [Reading.map_of_eq_ok outcome] at parsed
            cases parsed

/-- A parsed header is of the protocol of its number. -/
theorem createIPHeader_number4 {stream after : ByteBuffer}
    {header : IPv4Header}
    (parsed : createIPHeader stream = .ok (.v4 header, after)) :
    header.protocol = IPv4Header.protocolOf header.ipv4Protocol := by
  rw [createIPHeader] at parsed
  rw [Reading.bind_eq_ok] at parsed
  obtain ⟨first, rest, -, parsed⟩ := parsed
  rw [Reading.modify_bind] at parsed
  split at parsed
  · rw [Reading.bind_eq_ok] at parsed
    obtain ⟨v4, behind, read, result⟩ := parsed
    rw [Reading.pure_eq_ok] at result
    cases result.1
    obtain ⟨-, fixed, -, -⟩ := IPv4Header.ofStream_header read
    rw [fixed]
    rfl
  · rw [Reading.bind_eq_ok] at parsed
    obtain ⟨v6, behind, read, result⟩ := parsed
    rw [Reading.pure_eq_ok] at result
    cases result.1

private theorem IPv4Header.protocol_headerData {header : IPv4Header}
    (complete : header.Complete) {bytes : List UInt8}
    (built : header.headerData = .ok bytes) :
    slice bytes 9 1 = [byteOf header.ipv4Protocol] := by
  rw [headerData, if_neg (Nat.not_lt.mpr complete.long)] at built
  cases built
  rfl

/-- The checksum and the data behind the header leave its protocol byte. -/
private theorem IPv4Header.protocol_sealed {header : IPv4Header}
    (complete : header.Complete) {bytes : List UInt8}
    (built : header.headerData = .ok bytes) (long : 12 ≤ bytes.length)
    (data : List UInt8) :
    slice (PacketUtil.sealAt 10 bytes ++ data) 9 1 =
      [byteOf header.ipv4Protocol] := by
  have sealed_length := PacketUtil.length_sealAt long
  rw [slice_append_left (by rw [sealed_length]; omega),
    PacketUtil.slice_sealAt long (Or.inl (by decide)),
    protocol_headerData complete built]

/-- What the header of a reply takes over from the client's header. -/
structure IPv4Header.Reverses (header reply : IPv4Header) : Prop where
  ipv4Protocol : reply.ipv4Protocol = header.ipv4Protocol
  sourceIP : reply.sourceIP = header.destinationIP
  destinationIP : reply.destinationIP = header.sourceIP
  words : reply.getIPHeaderLength = header.getIPHeaderLength

private theorem UDPPacketFactory.replyHeader_v4 {header : IPv4Header}
    (complete : header.Complete) (packetId : Int) (length : Nat) :
    ∃ reply,
      replyHeader packetId (.v4 header) length = .v4 reply ∧
        reply.Complete ∧
          header.Reverses reply ∧
            reply.getTotalLength =
              (header.getIPHeaderLength + length : Nat) :=
  have reply_complete : (IPHeader.v4 header).Complete := complete
  ⟨_, rfl, replyHeader_complete reply_complete packetId length,
    ⟨rfl, rfl, rfl, rfl⟩, rfl⟩

end LanShield.Transport

namespace LanShield.Vpn

open LanShield.Library LanShield.Java LanShield.Transport

/-- The 5-tuple of the other direction. -/
def SessionKey.reversed (key : SessionKey) : SessionKey where
  protocol := key.protocol
  destIp := key.sourceIp
  destPort := key.sourcePort
  sourceIp := key.destIp
  sourcePort := key.destPort

/-- The packet is a datagram of the data from the peer of the session to its
client. -/
def IsReply (key : SessionKey) (data packet : List UInt8) : Prop :=
  ∃ (datagram : UdpDatagram) (behindIp : ByteBuffer),
    createIPHeader (ByteBuffer.wrap packet) =
        .ok (datagram.ipHeader, behindIp) ∧
      datagram.ipHeader.getProtocol = some .udp ∧
        UDPPacketFactory.createUDPHeader behindIp =
            .ok (datagram.udpheader, datagram.data) ∧
          datagram.sessionKey = key.reversed ∧
            datagram.data.unread = data

/-- The headers are of a datagram from the client of the session. -/
structure FromClient (key : SessionKey) (ipHeader : IPHeader)
    (udpheader : UDPHeader) : Prop where
  isUdp : key.protocol = .udp
  protocol :
    ∀ header, ipHeader = .v4 header → header.ipv4Protocol = 17
  sourceIp : ipHeader.getSourceIP = key.sourceIp
  destIp : ipHeader.getDestinationIP = key.destIp
  sourcePort : udpheader.sourcePort = key.sourcePort
  destPort : udpheader.destinationPort = key.destPort
  sourcePort_small : udpheader.sourcePort < 65536
  destPort_small : udpheader.destinationPort < 65536

/-- The addresses of the 5-tuple are of IPv4. -/
def SessionKey.IsIPv4 (key : SessionKey) : Prop :=
  key.sourceIp.address.length = 4

/-- A response to the client's datagram over IPv4 is a reply. -/
private theorem createResponsePacket_isReply {key : SessionKey}
    {header : IPv4Header} {udpheader : UDPHeader}
    (complete : header.Complete)
    (fromClient : FromClient key (.v4 header) udpheader)
    (data : List UInt8) (packetId : Int) :
    ∃ packet,
      (UDPPacketFactory.createResponsePacket packetId data
            { ip := .v4 header
              udp := udpheader
              ipHeader := .v4 header }).map Prod.fst =
          .ok packet ∧
        packet.length = header.getIPHeaderLength + (8 + data.length) ∧
          IsReply key data packet := by
  obtain ⟨reply, reply_eq, replyComplete, reverses, total⟩ :=
    UDPPacketFactory.replyHeader_v4 complete packetId (8 + data.length)
  obtain ⟨ipData, built, layout⟩ :=
    IPv4Header.headerData_layout replyComplete
  have ip_length := layout.length_eq
  have long : 12 ≤ ipData.length := by
    have five := replyComplete.long
    rw [ip_length]
    unfold IPv4Header.getIPHeaderLength
    omega
  have run :=
    @UDPPacketFactory.createResponsePacket_run packetId (.v4 header)
      (.v4 header) udpheader ipData data
      (by rw [reply_eq]; exact built) long
      (by rw [reply_eq, ip_length, reverses.words]; exact total)
  obtain ⟨ip, afterIP, ipRun, ipSource, ipDestination, -, unread⟩ :=
    (layout.sealed long).reparsed replyComplete
      (UDPPacketFactory.datagramBytes udpheader.destinationPort
        udpheader.sourcePort data)
  obtain ⟨udpRun, rest⟩ := UDPPacketFactory.createUDPHeader_datagram unread
  refine ⟨_, by rw [run]; rfl, ?_, ⟨.v4 ip, _, _⟩, afterIP, ipRun, ?_,
    udpRun, ?_, rest⟩
  · rw [List.length_append, PacketUtil.length_sealAt long, ip_length,
      reverses.words, UDPPacketFactory.length_datagramBytes]
  · show ip.protocol = some .udp
    rw [createIPHeader_protocol4 ipRun,
      IPv4Header.protocol_sealed replyComplete built long,
      reverses.ipv4Protocol, fromClient.protocol header rfl]
    decide
  · rw [UdpDatagram.sessionKey, SessionKey.reversed,
      Nat.mod_eq_of_lt fromClient.sourcePort_small,
      Nat.mod_eq_of_lt fromClient.destPort_small]
    have sourceIP : ip.sourceIP = key.destIp :=
      ipSource.trans (reverses.sourceIP.trans fromClient.destIp)
    have destinationIP : ip.destinationIP = key.sourceIp :=
      ipDestination.trans
        (reverses.destinationIP.trans fromClient.sourceIp)
    simp only [IPHeader.getSourceIP, IPHeader.getDestinationIP, sourceIP,
      destinationIP, fromClient.isUdp, fromClient.sourcePort,
      fromClient.destPort]

/-- A response is as long as its headers and the data, and over IPv4 it is a
reply. -/
theorem createResponsePacket_replies {key : SessionKey}
    {ipHeader : IPHeader} {udpheader : UDPHeader}
    (complete : ipHeader.Complete)
    (fromClient : FromClient key ipHeader udpheader) (data : List UInt8)
    (packetId : Int) :
    ∃ packet,
      (UDPPacketFactory.createResponsePacket packetId data
            { ip := ipHeader, udp := udpheader, ipHeader }).map Prod.fst =
          .ok packet ∧
        packet.length ≤ 68 + data.length ∧
          (key.IsIPv4 → IsReply key data packet) := by
  cases ipHeader with
  | v4 header =>
      obtain ⟨packet, created, length, isReply⟩ :=
        createResponsePacket_isReply complete fromClient data packetId
      refine ⟨packet, created, ?_, fun _ => isReply⟩
      have short := IPv4Header.Complete.short complete
      rw [length, IPv4Header.getIPHeaderLength]
      omega
  | v6 header =>
      obtain ⟨front, checksum, after, front_length, two, -, created⟩ :=
        UDPPacketFactory.createResponsePacket_v6_bytes complete udpheader
          data packetId (.v6 header)
      have source := IPv6Header.Complete.source_length complete
      have destination := IPv6Header.Complete.destination_length complete
      refine ⟨_, by rw [created]; rfl, ?_, ?_⟩
      · rw [List.length_append, List.length_append, List.length_append,
          PacketUtil.length_overwrite (by omega), front_length, source,
          destination, UDPPacketFactory.length_datagramBytes]
        omega
      · intro isIPv4
        have sixteen : key.sourceIp.address.length = 16 := by
          rw [← fromClient.sourceIp]
          exact source
        rw [SessionKey.IsIPv4, sixteen] at isIPv4
        cases isIPv4

end LanShield.Vpn
