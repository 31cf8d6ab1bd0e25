import LanShield.Transport.ResponsePackets

/-!
# UDP replies

What a receiver finds in the packets `UDPPacketFactory.createResponsePacket`
writes for a client, over IPv4 and over IPv6.
-/

namespace LanShield.Transport

open LanShield.Library LanShield.Java

/-- Bytes copied behind those already written, over zeros. -/
private theorem PacketUtil.overwrite_zeros {front new : List UInt8}
    {offset zeros count : Nat} (place : front.length = offset)
    (enough : zeros = new.length + count) :
    overwrite (front ++ List.replicate zeros 0) offset new =
      front ++ new ++ List.replicate count 0 := by
  have behind :=
    overwrite_append_right front (List.replicate zeros 0) new 0
  have filled :
      overwrite (List.replicate zeros 0) 0 new =
        new ++ List.replicate count 0 := by
    rw [enough, List.replicate_add, overwrite_append_left,
      overwrite_whole] <;> simp
  rw [Nat.add_zero, place, filled] at behind
  rw [behind, List.append_assoc]

namespace UDPPacketFactory

/-- The UDP header and the payload of a reply. -/
def datagramBytes (sourcePort destinationPort : Nat)
    (data : List UInt8) : List UInt8 :=
  toBigEndian 2 sourcePort ++ toBigEndian 2 destinationPort ++
    toBigEndian 2 (8 + data.length : Nat) ++ [0, 0] ++ data

theorem length_datagramBytes (sourcePort destinationPort : Nat)
    (data : List UInt8) :
    (datagramBytes sourcePort destinationPort data).length =
      8 + data.length := by
  simp only [datagramBytes, List.length_append, length_toBigEndian,
    List.length_cons, List.length_nil]

theorem writeShort_eq (value : Int) (start : Nat) (buffer : List UInt8) :
    writeShort value start buffer =
      PacketUtil.overwrite buffer start (toBigEndian 2 value) :=
  rfl

/-- The clone of the request's header the reply is built from. -/
def replyHeader (packetId : Int) (ip : IPHeader) (udpLen : Int) :
    IPHeader :=
  ((((ip.clone.setSourceIP ip.getDestinationIP).setDestinationIP
    ip.getSourceIP).setPayloadLength udpLen).setIdentification packetId)

/-- The five copies behind the IP header write the datagram. -/
private theorem datagram_written {ipData : List UInt8} {total : Nat}
    (sourcePort destinationPort : Nat) {data : List UInt8}
    (whole : total = ipData.length + (8 + data.length)) :
    PacketUtil.overwrite
        (writeShort (0 : Int) (ipData.length + 6)
          (writeShort (8 + data.length : Nat) (ipData.length + 4)
            (writeShort destinationPort (ipData.length + 2)
              (writeShort sourcePort ipData.length
                (PacketUtil.overwrite (List.replicate total 0) 0
                  ipData)))))
        (ipData.length + 8) data =
      ipData ++ datagramBytes sourcePort destinationPort data := by
  have header :=
    @PacketUtil.overwrite_zeros [] ipData 0 total (8 + data.length) rfl
      whole
  have field (front : List UInt8) (value : Int) (count : Nat) :
      writeShort value front.length
          (front ++ List.replicate (2 + count) 0) =
        front ++ toBigEndian 2 value ++ List.replicate count 0 := by
    rw [writeShort_eq]
    exact
      PacketUtil.overwrite_zeros rfl (by rw [length_toBigEndian])
  have first := field ipData sourcePort (6 + data.length)
  have second :=
    field (ipData ++ toBigEndian 2 sourcePort) destinationPort
      (4 + data.length)
  have third :=
    field
      (ipData ++ toBigEndian 2 sourcePort ++
        toBigEndian 2 destinationPort)
      (8 + data.length : Nat) (2 + data.length)
  have fourth :=
    field
      (ipData ++ toBigEndian 2 sourcePort ++
        toBigEndian 2 destinationPort ++
        toBigEndian 2 (8 + data.length : Nat))
      0 data.length
  have payload :=
    @PacketUtil.overwrite_zeros
      (ipData ++ toBigEndian 2 sourcePort ++
        toBigEndian 2 destinationPort ++
        toBigEndian 2 (8 + data.length : Nat) ++ toBigEndian 2 0)
      data (ipData.length + 8) data.length 0
      (by simp only [List.length_append, length_toBigEndian])
      rfl
  simp only [← Nat.add_assoc, Nat.reduceAdd, List.length_append,
    length_toBigEndian, List.nil_append] at header first second third fourth
  rw [header, first, second, third, fourth, payload]
  simp only [datagramBytes, List.append_assoc, List.replicate_zero,
    List.append_nil]
  rfl

/-- The array of a reply, behind its serialised IP header. -/
def replyBytes (total : Nat) (udp : UDPHeader)
    (data ipData : List UInt8) : List UInt8 :=
  let zeroed := PacketUtil.overwrite ipData 10 [0, 0]
  let ipData :=
    PacketUtil.overwrite zeroed 10
      (PacketUtil.calculateChecksum zeroed 0 zeroed.length)
  PacketUtil.overwrite
    (writeShort (0 : Int) (ipData.length + 6)
      (writeShort (8 + data.length : Nat) (ipData.length + 4)
        (writeShort udp.sourcePort (ipData.length + 2)
          (writeShort udp.destinationPort ipData.length
            (PacketUtil.overwrite (List.replicate total 0) 0 ipData)))))
    (ipData.length + 8) data

/-- Only serialising the header can fail, and of the objects only the clone
is set. -/
theorem createResponsePacket_eq (packetId : Int) (data : List UInt8)
    (objects : HeaderObjects) :
    createResponsePacket packetId data objects =
      (replyHeader packetId objects.ip (8 + data.length : Nat)).headerData.map
        fun ipData =>
          (replyBytes
              (replyHeader packetId objects.ip
                (8 + data.length : Nat)).getTotalLength.toNat
              objects.udp data ipData,
            { objects with
              ipHeader :=
                replyHeader packetId objects.ip (8 + data.length : Nat) }) := by
  rw [replyHeader]
  simp only [createResponsePacket, onClone, bind, StateT.bind, Except.bind,
    get, getThe, MonadStateOf.get, StateT.get, modify, modifyGet,
    MonadStateOf.modifyGet, StateT.modifyGet, pure, Except.pure, liftM,
    monadLift, MonadLift.monadLift, StateT.lift]
  generalize IPHeader.headerData _ = serialised
  cases serialised with
  | error exception => rfl
  | ok ipData => rfl

/-- A reply is its sealed IP header and its datagram; of the objects only
the clone is set. -/
theorem createResponsePacket_run {packetId : Int} {ip slot : IPHeader}
    {udp : UDPHeader} {ipData data : List UInt8}
    (built :
      (replyHeader packetId ip (8 + data.length : Nat)).headerData =
        .ok ipData)
    (long : 12 ≤ ipData.length)
    (total :
      (replyHeader packetId ip (8 + data.length : Nat)).getTotalLength =
        (ipData.length + (8 + data.length) : Nat)) :
    createResponsePacket packetId data { ip, udp, ipHeader := slot } =
      .ok
        (PacketUtil.sealAt 10 ipData ++
            datagramBytes udp.destinationPort udp.sourcePort data,
          { ip, udp
            ipHeader :=
              replyHeader packetId ip (8 + data.length : Nat) }) := by
  have zeroed :
      (PacketUtil.overwrite ipData 10 [0, 0]).length = ipData.length :=
    PacketUtil.length_overwrite long
  have sealed_length := PacketUtil.length_sealAt long
  have sealed_eq :
      PacketUtil.overwrite (PacketUtil.overwrite ipData 10 [0, 0]) 10
          (PacketUtil.calculateChecksum
            (PacketUtil.overwrite ipData 10 [0, 0]) 0
            (PacketUtil.overwrite ipData 10 [0, 0]).length) =
        PacketUtil.sealAt 10 ipData := by
    rw [zeroed]
    rfl
  have written :=
    @datagram_written (PacketUtil.sealAt 10 ipData)
      (ipData.length + (8 + data.length)) udp.destinationPort
      udp.sourcePort data (by rw [sealed_length])
  have length_eq :
      (replyHeader packetId ip
          (8 + data.length : Nat)).getTotalLength.toNat =
        ipData.length + (8 + data.length) := by
    rw [total, Int.toNat_natCast]
  rw [createResponsePacket_eq, built, Except.map, length_eq, replyBytes]
  dsimp only
  rw [sealed_eq, written]

/-- A datagram is parsed to its fields, and the buffer is left at the
payload. -/
theorem createUDPHeader_datagram {stream : ByteBuffer}
    {sourcePort destinationPort : Nat} {data : List UInt8}
    (unread :
      stream.unread = datagramBytes sourcePort destinationPort data) :
    createUDPHeader stream =
        .ok
          ({ sourcePort := sourcePort % 65536
             destinationPort := destinationPort % 65536
             length := (8 + data.length) % 65536
             checksum := 0 },
            stream.advance 8) ∧
      (stream.advance 8).unread = data := by
  have remaining_eq : stream.remaining = 8 + data.length := by
    rw [← ByteBuffer.length_unread, unread, length_datagramBytes]
  have field (offset : Nat) (fits : offset + 2 ≤ 8) :=
    @Reading.getShort_advance stream offset (by omega)
  have bytes (offset : Nat) (fits : offset + 2 ≤ 8) :
      slice stream.array (stream.position + offset) 2 =
        slice (datagramBytes sourcePort destinationPort data) offset 2 := by
    rw [← ByteBuffer.slice_unread (by omega), unread]
  have source :
      slice (datagramBytes sourcePort destinationPort data) 0 2 =
        toBigEndian 2 sourcePort :=
    rfl
  have destination :
      slice (datagramBytes sourcePort destinationPort data) 2 2 =
        toBigEndian 2 destinationPort :=
    rfl
  have length :
      slice (datagramBytes sourcePort destinationPort data) 4 2 =
        toBigEndian 2 (8 + data.length : Nat) :=
    rfl
  have checksum :
      slice (datagramBytes sourcePort destinationPort data) 6 2 =
        toBigEndian 2 0 :=
    rfl
  have unsigned (port : Nat) :
      (signed16 (bigEndian (toBigEndian 2 port)) % 65536).toNat =
        port % 65536 := by
    rw [TCPPacketFactory.bigEndian_port]
    rw [signed16]
    omega
  have none : signed16 (bigEndian (toBigEndian 2 0)) = 0 := by decide
  have first := field 0 (by decide)
  rw [ByteBuffer.advance_zero, bytes 0 (by decide), source] at first
  constructor
  · rw [createUDPHeader]
    rw [Reading.get_bind, if_neg (by omega), Reading.bind_of_eq_ok first,
      Reading.bind_of_eq_ok (field 2 (by decide)),
      Reading.bind_of_eq_ok (field 4 (by decide)),
      Reading.bind_of_eq_ok (field 6 (by decide)), bytes 2 (by decide),
      bytes 4 (by decide), bytes 6 (by decide), destination, length,
      checksum, unsigned, unsigned, unsigned, none]
    rfl
  · rw [ByteBuffer.unread_advance, unread, datagramBytes]
    exact
      List.drop_left'
        (by
          simp only [List.length_append, length_toBigEndian,
            List.length_cons, List.length_nil])

/-- A packet both parsers accept, with what they read. -/
structure IPv4UDPPacket (packet : List UInt8) where
  ip : IPv4Header
  afterIP : ByteBuffer
  udp : UDPHeader
  afterUDP : ByteBuffer
  ipRead : createIPHeader (ByteBuffer.wrap packet) = .ok (.v4 ip, afterIP)
  udpRead : createUDPHeader afterIP = .ok (udp, afterUDP)

/-- The packet is well formed and answers the one with the given headers.
-/
structure IPv4UDPPacket.Answers {packet : List UInt8}
    (read : IPv4UDPPacket packet) (header : IPv4Header)
    (udpheader : UDPHeader) (payload : List UInt8) : Prop where
  valid_header : ValidIPv4Header packet read.ip.getIPHeaderLength
  sourceIP : read.ip.sourceIP = header.destinationIP
  destinationIP : read.ip.destinationIP = header.sourceIP
  sourcePort : read.udp.sourcePort = udpheader.destinationPort
  destinationPort : read.udp.destinationPort = udpheader.sourcePort
  length : read.udp.length = 8 + payload.length
  payload : read.afterUDP.unread = payload

theorem createUDPHeader_ports {stream after : ByteBuffer}
    {header : UDPHeader}
    (parsed : createUDPHeader stream = .ok (header, after)) :
    header.sourcePort < 65536 ∧ header.destinationPort < 65536 := by
  obtain ⟨-, source, destination, -⟩ := createUDPHeader_fields parsed
  rw [source, destination]
  exact ⟨bigEndian_slice_lt _ _ 2, bigEndian_slice_lt _ _ 2⟩

/-- A reply over IPv4 is well formed and parses back, and the request's own
headers are what they were. -/
theorem createResponsePacket_v4
    {ipStream ipAfter udpStream udpAfter : ByteBuffer}
    {header : IPv4Header} {udpheader : UDPHeader}
    (ipParsed : IPv4Header.ofStream ipStream = .ok (header, ipAfter))
    (ipLong : 5 ≤ header.internetHeaderLength)
    (udpParsed : createUDPHeader udpStream = .ok (udpheader, udpAfter))
    (payload : List UInt8) (packetId : Int) (slot : IPHeader)
    (short :
      header.getIPHeaderLength + 8 + payload.length ≤ 65535) :
    ∃ packet after, ∃ read : IPv4UDPPacket packet,
      createResponsePacket packetId payload
          { ip := .v4 header, udp := udpheader, ipHeader := slot } =
        .ok (packet, after) ∧
        read.Answers header udpheader payload ∧
        after.ip = .v4 header ∧ after.udp = udpheader := by
  have complete := IPv4Header.ofStream_complete ipParsed ipLong
  obtain ⟨sourceSmall, destinationSmall⟩ := createUDPHeader_ports udpParsed
  obtain ⟨reply, reply_eq, replyComplete, source, destination, words,
      total⟩ :
      ∃ reply,
        replyHeader packetId (.v4 header) (8 + payload.length : Nat) =
            .v4 reply ∧
          reply.Complete ∧
          reply.sourceIP = header.destinationIP ∧
          reply.destinationIP = header.sourceIP ∧
          reply.getIPHeaderLength = header.getIPHeaderLength ∧
          reply.getTotalLength =
            (header.getIPHeaderLength + (8 + payload.length) : Nat) :=
    ⟨_, rfl,
      ⟨complete.long, complete.short, complete.destination_length,
        complete.source_length⟩,
      rfl, rfl, rfl, rfl⟩
  obtain ⟨ipData, built, layout⟩ :=
    IPv4Header.headerData_layout replyComplete
  have ip_length := layout.length_eq
  have long : 12 ≤ ipData.length := by
    have := replyComplete.long
    rw [ip_length]
    unfold IPv4Header.getIPHeaderLength
    omega
  have run :=
    @createResponsePacket_run packetId (.v4 header) slot udpheader ipData
      payload (by rw [reply_eq]; exact built) long
      (by rw [reply_eq, ip_length, words]; exact total)
  have sealed := layout.sealed long
  have datagram_length :=
    length_datagramBytes udpheader.destinationPort udpheader.sourcePort
      payload
  have sealedValid :
      ValidChecksum (PacketUtil.sealAt 10 ipData) := by
    apply PacketUtil.validChecksum_sealAt _ rfl (by omega) (by omega)
    rw [ip_length]
    unfold IPv4Header.getIPHeaderLength
    omega
  have valid :=
    @IPv4Header.Layout.valid_header reply _
      (datagramBytes udpheader.destinationPort udpheader.sourcePort payload)
      sealed (by rw [PacketUtil.length_sealAt long]; exact long) sealedValid
      (by rw [datagram_length, words]; exact total)
      (by rw [datagram_length, words]; omega)
  obtain ⟨ip, afterIP, ipRun, ipSource, ipDestination, ipWords, unread⟩ :=
    sealed.reparsed replyComplete
      (datagramBytes udpheader.destinationPort udpheader.sourcePort payload)
  obtain ⟨udpRun, rest⟩ := createUDPHeader_datagram unread
  have length_eq : ip.getIPHeaderLength = reply.getIPHeaderLength := by
    unfold IPv4Header.getIPHeaderLength
    rw [ipWords]
  refine
    ⟨_, _, ⟨ip, afterIP, _, _, ipRun, udpRun⟩, run, ?_, rfl, rfl⟩
  exact
    { valid_header := length_eq ▸ valid
      sourceIP := ipSource.trans source
      destinationIP := ipDestination.trans destination
      sourcePort := Nat.mod_eq_of_lt destinationSmall
      destinationPort := Nat.mod_eq_of_lt sourceSmall
      length := Nat.mod_eq_of_lt (by omega)
      payload := rest }

/-- A client's datagram over IPv4, with IP options. -/
def datagram4Bytes : List UInt8 :=
  [0x46, 0, 0, 33, 0, 1, 0x40, 0, 64, 17, 0, 0, 10, 0, 0, 1, 10, 0, 0, 2,
    1, 1, 1, 0, 4, 0, 0, 53, 0, 9, 0, 0, 65]

def datagramHeader4 : IPv4Header :=
  { TCPPacketFactory.request4 with
    payloadLength := 27
    ipv4Protocol := 17
    protocol := some .udp }

def datagramHeader : UDPHeader where
  sourcePort := 1024
  destinationPort := 53
  length := 9
  checksum := 0

theorem createResponsePacket_datagram4 :
    ∃ packet after, ∃ read : IPv4UDPPacket packet,
      createResponsePacket 3 [1, 2, 3]
          { ip := .v4 datagramHeader4, udp := datagramHeader
            ipHeader := .v4 datagramHeader4 } =
        .ok (packet, after) ∧
        read.Answers datagramHeader4 datagramHeader [1, 2, 3] ∧
        after.ip = .v4 datagramHeader4 ∧ after.udp = datagramHeader :=
  @createResponsePacket_v4 (ByteBuffer.wrap datagram4Bytes)
    ((ByteBuffer.wrap datagram4Bytes).advance 24)
    ((ByteBuffer.wrap datagram4Bytes).advance 24)
    ((ByteBuffer.wrap datagram4Bytes).advance 32) datagramHeader4
    datagramHeader (by decide +kernel) (by decide) (by decide +kernel)
    [1, 2, 3] 3 (.v4 datagramHeader4) (by decide)

/-- A packet both parsers accept, with what they read. -/
structure IPv6UDPPacket (packet : List UInt8) where
  ip : IPv6Header
  afterIP : ByteBuffer
  udp : UDPHeader
  afterUDP : ByteBuffer
  ipRead : createIPHeader (ByteBuffer.wrap packet) = .ok (.v6 ip, afterIP)
  udpRead : createUDPHeader afterIP = .ok (udp, afterUDP)

/-- The packet answers the one with the given headers, with the checksum
IPv6 requires. -/
structure IPv6UDPPacket.Answers {packet : List UInt8}
    (read : IPv6UDPPacket packet) (header : IPv6Header)
    (udpheader : UDPHeader) (payload : List UInt8) : Prop where
  sourceIP : read.ip.sourceIP = header.destinationIP
  destinationIP : read.ip.destinationIP = header.sourceIP
  sourcePort : read.udp.sourcePort = udpheader.destinationPort
  destinationPort : read.udp.destinationPort = udpheader.sourcePort
  length : read.udp.length = 8 + payload.length
  payloadLength : read.ip.payloadLength = 8 + payload.length
  payload : read.afterUDP.unread = payload
  checksum_sent : read.udp.checksum ≠ 0
  checksum_valid : ValidIPv6Segment packet 17

/-- What is parsed as IPv6 has a header of forty bytes. -/
private theorem createIPHeader_v6 {packet : List UInt8} {header : IPv6Header}
    {after : ByteBuffer}
    (parsed :
      createIPHeader (ByteBuffer.wrap packet) = .ok (.v6 header, after)) :
    IPv6Header.ofStream (ByteBuffer.wrap packet) = .ok (header, after) := by
  cases packet with
  | nil => cases parsed
  | cons first rest =>
      rw [createIPHeader_eq rfl (by simp)] at parsed
      split at parsed
      · cases outcome :
            IPv4Header.ofStream (ByteBuffer.wrap (first :: rest)) with
        | error exception =>
            rw [Reading.map_of_eq_error outcome] at parsed
            cases parsed
        | ok result =>
            rw [Reading.map_of_eq_ok outcome] at parsed
            cases parsed
      · cases outcome :
            IPv6Header.ofStream (ByteBuffer.wrap (first :: rest)) with
        | error exception =>
            rw [Reading.map_of_eq_error outcome] at parsed
            cases parsed
        | ok result =>
            rw [Reading.map_of_eq_ok outcome] at parsed
            cases parsed
            rfl

/-- The checksum of the IP header, which IPv6 has none of, is written into
the source address. -/
theorem createResponsePacket_v6_bytes {header : IPv6Header}
    (complete : header.Complete) (udpheader : UDPHeader)
    (payload : List UInt8) (packetId : Int) (slot : IPHeader) :
    ∃ front checksum after,
      front.length = 8 ∧ checksum.length = 2 ∧
        slice front 4 2 = toBigEndian 2 (8 + payload.length : Nat) ∧
        createResponsePacket packetId payload
            { ip := .v6 header, udp := udpheader, ipHeader := slot } =
          .ok
            (front ++
                PacketUtil.overwrite header.destinationIP.address 2
                  checksum ++
                header.sourceIP.address ++
                datagramBytes udpheader.destinationPort
                  udpheader.sourcePort payload,
              after) := by
  obtain ⟨reply, reply_eq, replyComplete, source, destination, total⟩ :
      ∃ reply,
        replyHeader packetId (.v6 header) (8 + payload.length : Nat) =
            .v6 reply ∧
          reply.Complete ∧
          reply.sourceIP = header.destinationIP ∧
          reply.destinationIP = header.sourceIP ∧
          reply.payloadLength = (8 + payload.length : Nat) :=
    ⟨_, rfl, ⟨complete.destination_length, complete.source_length⟩, rfl,
      rfl, rfl⟩
  obtain ⟨ip_length, length_bytes, addresses⟩ :=
    IPv6Header.headerData_layout replyComplete
  have parts :
      reply.headerData =
        slice reply.headerData 0 8 ++
          (header.destinationIP.address ++ header.sourceIP.address) := by
    rw [← source, ← destination, ← addresses, ← slice_add]
    exact (slice_all ip_length).symm
  have front_length : (slice reply.headerData 0 8).length = 8 :=
    length_slice_of_le (by omega)
  have run :=
    @createResponsePacket_run packetId (.v6 header) slot udpheader
      reply.headerData payload (by rw [reply_eq]; rfl) (by omega)
      (by
        rw [reply_eq, ip_length]
        change 40 + reply.payloadLength = _
        rw [total]
        rfl)
  have sealed_eq (word : List UInt8) (two : word.length = 2) :
      PacketUtil.overwrite reply.headerData 10 word =
        slice reply.headerData 0 8 ++
          (PacketUtil.overwrite header.destinationIP.address 2 word ++
            header.sourceIP.address) := by
    have address := complete.destination_length
    conv_lhs => rw [parts]
    have behind :=
      PacketUtil.overwrite_append_right (slice reply.headerData 0 8)
        (header.destinationIP.address ++ header.sourceIP.address) word 2
    rw [front_length] at behind
    rw [behind, PacketUtil.overwrite_append_left (by omega)]
  have sealed :
      PacketUtil.sealAt 10 reply.headerData =
        PacketUtil.overwrite reply.headerData 10
          (PacketUtil.calculateChecksum
            (PacketUtil.overwrite reply.headerData 10 [0, 0]) 0
            reply.headerData.length) :=
    PacketUtil.overwrite_overwrite (by omega)
      (PacketUtil.length_calculateChecksum _ _ _).symm
  have two :=
    PacketUtil.length_calculateChecksum
      (PacketUtil.overwrite reply.headerData 10 [0, 0]) 0
      reply.headerData.length
  rw [sealed, sealed_eq _ two] at run
  generalize
    PacketUtil.calculateChecksum
      (PacketUtil.overwrite reply.headerData 10 [0, 0]) 0
      reply.headerData.length = word at run two
  have announced :
      slice (slice reply.headerData 0 8) 4 2 =
        toBigEndian 2 (8 + payload.length : Nat) := by
    rw [← total, ← length_bytes]
    rfl
  rw [← List.append_assoc (slice reply.headerData 0 8)] at run
  exact ⟨_, word, _, front_length, two, announced, run⟩

/-- What the parsers read from such bytes. -/
private theorem IPv6UDPPacket.read_parts
    {front source destination packet payload : List UInt8}
    {sourcePort destinationPort : Nat}
    (front_length : front.length = 8) (source_length : source.length = 16)
    (destination_length : destination.length = 16)
    (packet_eq :
      packet =
        front ++ source ++ destination ++
          datagramBytes sourcePort destinationPort payload)
    (read : IPv6UDPPacket packet) :
    read.ip.sourceIP = ⟨source⟩ ∧ read.ip.destinationIP = ⟨destination⟩ ∧
      read.udp =
        { sourcePort := sourcePort % 65536
          destinationPort := destinationPort % 65536
          length := (8 + payload.length) % 65536
          checksum := 0 } ∧
      read.afterUDP.unread = payload := by
  obtain ⟨-, -, ipSource, ipDestination, -, after⟩ :=
    IPv6Header.ofStream_fields (createIPHeader_v6 read.ipRead)
  have source_bytes : slice packet 8 16 = source := by
    have behind := slice_append_right front source 0 16
    rw [front_length, slice_all source_length] at behind
    rw [packet_eq, slice_append_left, slice_append_left, behind] <;>
      simp only [List.length_append] <;> omega
  have destination_bytes : slice packet 24 16 = destination := by
    have behind := slice_append_right (front ++ source) destination 0 16
    rw [List.length_append, front_length, source_length,
      slice_all destination_length] at behind
    rw [packet_eq, slice_append_left, behind]
    simp only [List.length_append]
    omega
  have unread :
      read.afterIP.unread =
        datagramBytes sourcePort destinationPort payload := by
    rw [after, ByteBuffer.unread_advance, ByteBuffer.unread_wrap, packet_eq]
    apply List.drop_left'
    simp only [List.length_append]
    omega
  obtain ⟨run, rest⟩ := createUDPHeader_datagram unread
  have same := read.udpRead.symm.trans run
  simp only [Except.ok.injEq, Prod.mk.injEq] at same
  refine ⟨?_, ?_, same.1, ?_⟩
  · rw [ipSource]
    exact congrArg IPAddress.mk source_bytes
  · rw [ipDestination]
    exact congrArg IPAddress.mk destination_bytes
  · rw [same.2, rest]

/-- Whoever reads a reply finds the requester's address, the ports, the
length and the payload right, two bytes of the source address replaced by a
checksum, and no checksum on the datagram. -/
theorem createResponsePacket_v6_reads {header : IPv6Header}
    (complete : header.Complete) (udpheader : UDPHeader)
    (payload : List UInt8) (packetId : Int) (slot : IPHeader) :
    ∃ packet checksum after,
      createResponsePacket packetId payload
          { ip := .v6 header, udp := udpheader, ipHeader := slot } =
        .ok (packet, after) ∧
        ∀ read : IPv6UDPPacket packet,
          read.ip.sourceIP =
              ⟨PacketUtil.overwrite header.destinationIP.address 2
                checksum⟩ ∧
            read.ip.destinationIP = header.sourceIP ∧
            read.udp =
              { sourcePort := udpheader.destinationPort % 65536
                destinationPort := udpheader.sourcePort % 65536
                length := (8 + payload.length) % 65536
                checksum := 0 } ∧
            read.afterUDP.unread = payload := by
  obtain ⟨front, checksum, after, front_length, two, -, run⟩ :=
    createResponsePacket_v6_bytes complete udpheader payload packetId slot
  have address := complete.destination_length
  have patched_length :
      (PacketUtil.overwrite header.destinationIP.address 2
        checksum).length = 16 := by
    rw [PacketUtil.length_overwrite (by omega), address]
  refine ⟨_, checksum, after, run, fun read => ?_⟩
  exact
    IPv6UDPPacket.read_parts front_length patched_length
      complete.source_length rfl read

/-- No reply over IPv6 carries the checksum IPv6 requires. -/
theorem createResponsePacket_v6_never
    {ipStream ipAfter udpStream udpAfter : ByteBuffer}
    {header : IPv6Header} {udpheader : UDPHeader}
    (ipParsed : IPv6Header.ofStream ipStream = .ok (header, ipAfter))
    (_udpParsed : createUDPHeader udpStream = .ok (udpheader, udpAfter))
    (payload : List UInt8) (packetId : Int) (slot : IPHeader)
    (_short : 8 + payload.length < 32768) :
    ∃ packet after,
      createResponsePacket packetId payload
          { ip := .v6 header, udp := udpheader, ipHeader := slot } =
        .ok (packet, after) ∧
        ¬ ∃ read : IPv6UDPPacket packet,
            read.Answers header udpheader payload := by
  obtain ⟨packet, checksum, after, run, reads⟩ :=
    createResponsePacket_v6_reads (IPv6Header.ofStream_complete ipParsed)
      udpheader payload packetId slot
  refine ⟨packet, after, run, ?_⟩
  rintro ⟨read, answers⟩
  obtain ⟨-, -, udp_eq, -⟩ := reads read
  apply answers.checksum_sent
  rw [udp_eq]

/-- A datagram for the address `fd12:3456::2`. -/
def datagramHeader6 : IPv6Header :=
  { TCPPacketFactory.request6 with
    payloadLength := 9
    nextHeader := 17
    protocol := some .udp
    destinationIP :=
      ⟨[0xFD, 0x12, 0x34, 0x56, 0, 0, 0, 0, 0, 0, 0, 0, 0, 0, 0, 2]⟩ }

def datagram6Bytes : List UInt8 :=
  [0x60, 0, 0, 0, 0, 9, 17, 64] ++ datagramHeader6.sourceIP.address ++
    datagramHeader6.destinationIP.address ++
    [4, 0, 0, 53, 0, 9, 0, 0, 65]

theorem createResponsePacket_datagram6 :
    ∃ packet after,
      createResponsePacket 3 [1, 2]
          { ip := .v6 datagramHeader6, udp := datagramHeader
            ipHeader := .v6 datagramHeader6 } =
        .ok (packet, after) ∧
        ¬ ∃ read : IPv6UDPPacket packet,
            read.Answers datagramHeader6 datagramHeader [1, 2] :=
  @createResponsePacket_v6_never (ByteBuffer.wrap datagram6Bytes)
    ((ByteBuffer.wrap datagram6Bytes).advance 40)
    ((ByteBuffer.wrap datagram6Bytes).advance 40)
    ((ByteBuffer.wrap datagram6Bytes).advance 48) datagramHeader6
    datagramHeader (by decide +kernel) (by decide +kernel) [1, 2] 3
    (.v6 datagramHeader6) (by decide)

def reply6Bytes : List UInt8 :=
  [0x60, 0, 0, 0, 0, 10, 17, 64] ++
    [0xFD, 0x12, 148, 158, 0, 0, 0, 0, 0, 0, 0, 0, 0, 0, 0, 2] ++
    datagramHeader6.sourceIP.address ++ datagramBytes 53 1024 [1, 2]

/-- The reply comes from another address than the datagram was sent to, with
a zero checksum. -/
theorem reply6_from_elsewhere :
    IPv6Header.ofStream (ByteBuffer.wrap datagram6Bytes) =
        .ok
          (datagramHeader6, (ByteBuffer.wrap datagram6Bytes).advance 40) ∧
      createUDPHeader ((ByteBuffer.wrap datagram6Bytes).advance 40) =
        .ok
          (datagramHeader,
            (ByteBuffer.wrap datagram6Bytes).advance 48) ∧
      (createResponsePacket 3 [1, 2]
          { ip := .v6 datagramHeader6, udp := datagramHeader
            ipHeader := .v6 datagramHeader6 }).map Prod.fst =
        .ok reply6Bytes ∧
      (∃ read : IPv6UDPPacket reply6Bytes,
        read.ip.sourceIP ≠ datagramHeader6.destinationIP ∧
          read.udp.checksum = 0) ∧
      ¬ ∃ read : IPv6UDPPacket reply6Bytes,
          read.Answers datagramHeader6 datagramHeader [1, 2] := by
  refine
    ⟨by decide +kernel, by decide +kernel, by decide +kernel, ?_, ?_⟩
  · refine
      ⟨{ ip :=
          { datagramHeader6 with
            payloadLength := 10
            sourceIP :=
              ⟨[0xFD, 0x12, 148, 158, 0, 0, 0, 0, 0, 0, 0, 0, 0, 0, 0, 2]⟩
            destinationIP := datagramHeader6.sourceIP }
         afterIP := (ByteBuffer.wrap reply6Bytes).advance 40
         udp := ⟨53, 1024, 10, 0⟩
         afterUDP := (ByteBuffer.wrap reply6Bytes).advance 48
         ipRead := by decide +kernel
         udpRead := by decide +kernel }, ?_, rfl⟩
    decide
  · rintro ⟨read, answers⟩
    obtain ⟨-, -, udp_eq, -⟩ :=
      IPv6UDPPacket.read_parts rfl rfl rfl rfl read
    apply answers.checksum_sent
    rw [udp_eq]

end UDPPacketFactory

end LanShield.Transport
