import LanShield.Transport.ICMPPacketFactory
import LanShield.Transport.ResponsePackets

/-!
# Replies to pings

`SessionHandler.handleICMPPacket` answers an echo request from its parsed
IP header, without recomputing that header's lengths or checksum, and with
one checksum routine for ICMP and ICMPv6.
-/

namespace LanShield.Vpn

open LanShield.Library LanShield.Java LanShield.Transport ICMPPacketFactory

/-- The header with its addresses swapped. -/
def flipAddress (ipHeader : IPHeader) : IPHeader :=
  (ipHeader.setSourceIP ipHeader.getDestinationIP).setDestinationIP
    ipHeader.getSourceIP

/-- The packet the ping thread builds for a reachable address. -/
def pingReply (ipHeader : IPHeader) (requestPacket : ICMPPacket) :
    Except JavaException (List UInt8) :=
  packetToBuffer (flipAddress ipHeader)
    (buildSuccessPacket ipHeader.getIpVersion requestPacket)

/-- `handleICMPPacket` with the ping thread it starts: the packet written to
the client, if there is one.  An exception on the ping thread writes
nothing. -/
def handleICMPPacket (clientPacketData : ByteBuffer) (ipHeader : IPHeader)
    (isReachable : Bool) : Except JavaException (Option (List UInt8)) := do
  let (requestPacket, _) ←
    parseICMPPacket ipHeader.getIpVersion clientPacketData
  if requestPacket.isUnreachable then
    return none
  else if requestPacket.isRouterSolicitation then
    return none
  else if !requestPacket.isPingRequest then
    throw
      (.packetHeader
        ("Unknown ICMP type (" ++ toString requestPacket.type ++
          "). Only echo requests are supported"))
  else if isReachable then
    match pingReply ipHeader requestPacket with
    | .ok responseData => return some responseData
    | .error _ => return none
  else
    return none

/-- What becomes of a ping for a reachable address. -/
def answerPing (packet : List UInt8) :
    Except JavaException (Option (List UInt8)) := do
  let (ipHeader, clientPacketData) ←
    createIPHeader (ByteBuffer.wrap packet)
  handleICMPPacket clientPacketData ipHeader true

private theorem asShortBytes_signed16 {bytes : List UInt8}
    (two : bytes.length = 2) :
    asShortBytes (signed16 (bigEndian bytes)) = bytes := by
  apply bigEndian_inj
  · rw [two]
    exact length_toBigEndian 2 _
  · have read := bigEndian_toBigEndian 2 (signed16 (bigEndian bytes))
    have bound := bigEndian_lt bytes
    rw [two] at bound
    rw [asShortBytes]
    rw [signed16] at read ⊢
    omega

/-- What is read of a message of at least eight bytes. -/
private theorem parseICMPPacket_eq {stream : ByteBuffer}
    (long : 8 ≤ stream.remaining) (ipVersion : Int) :
    ∃ request after,
      parseICMPPacket ipVersion stream = .ok (request, after) ∧
        request.ipVersion = ipVersion ∧
        request.type = bigEndian (slice stream.unread 0 1) ∧
        asShortBytes request.identifier ++
            asShortBytes request.sequenceNumber ++ request.data =
          stream.unread.drop 4 := by
  have byte (offset : Nat) (fits : offset + 1 ≤ 8) :=
    @Reading.getByte_advance stream offset (by omega)
  have short (offset : Nat) (fits : offset + 2 ≤ 8) :=
    @Reading.getShort_advance stream offset (by omega)
  have bytes (offset count : Nat) (fits : offset + count ≤ 8) :
      slice stream.array (stream.position + offset) count =
        slice stream.unread offset count :=
    (ByteBuffer.slice_unread (by omega)).symm
  have first := byte 0 (by decide)
  rw [ByteBuffer.advance_zero, bytes 0 1 (by decide)] at first
  have rest :
      Reading.getBytes (stream.advance 8).remaining (stream.advance 8) =
        .ok
          (stream.unread.drop 8,
            (stream.advance 8).advance (stream.advance 8).remaining) := by
    rw [← ByteBuffer.unread_advance, Reading.getBytes_eq_ok]
    exact ⟨le_refl _, rfl, rfl⟩
  have run :
      parseICMPPacket ipVersion stream =
        .ok
          ({ ipVersion
             type := signed8 (bigEndian (slice stream.unread 0 1)) % 256
             code := signed8 (bigEndian (slice stream.unread 1 1)) % 256
             checksum := signed16 (bigEndian (slice stream.unread 2 2))
             identifier := signed16 (bigEndian (slice stream.unread 4 2))
             sequenceNumber :=
               signed16 (bigEndian (slice stream.unread 6 2))
             data := stream.unread.drop 8 },
            (stream.advance 8).advance (stream.advance 8).remaining) := by
    rw [parseICMPPacket]
    rw [Reading.bind_of_eq_ok first,
      Reading.bind_of_eq_ok (byte 1 (by decide)),
      Reading.bind_of_eq_ok (short 2 (by decide)),
      Reading.bind_of_eq_ok (short 4 (by decide)),
      Reading.bind_of_eq_ok (short 6 (by decide)), Reading.get_bind,
      Reading.bind_of_eq_ok rest, bytes 1 1 (by decide),
      bytes 2 2 (by decide), bytes 4 2 (by decide),
      bytes 6 2 (by decide)]
    rfl
  have length_eq := stream.length_unread
  refine ⟨_, _, run, rfl, ?_, ?_⟩
  · have bound := bigEndian_slice_lt stream.unread 0 1
    dsimp only
    rw [signed8]
    omega
  · rw [asShortBytes_signed16 (length_slice_of_le (by omega)),
      asShortBytes_signed16 (length_slice_of_le (by omega)),
      ← slice_add]
    have split :
        slice stream.unread 4 (2 + 2) =
          slice (stream.unread.drop 4) 0 4 := by
      unfold slice
      rw [List.drop_drop]
    have behind : stream.unread.drop 8 = (stream.unread.drop 4).drop 4 := by
      rw [List.drop_drop]
    rw [split, behind]
    exact List.take_append_drop 4 (stream.unread.drop 4)

/-- The bytes behind the IP header: a reply with its checksum. -/
def replyMessage (type : UInt8) (checksum rest : List UInt8) :
    List UInt8 :=
  [type, 0] ++ checksum ++ rest

/-- The checksum `packetToBuffer` puts into a reply. -/
def replyChecksum (type : UInt8) (rest : List UInt8) : List UInt8 :=
  PacketUtil.calculateChecksum (replyMessage type [0, 0] rest) 0
    (replyMessage type [0, 0] rest).length

private theorem length_replyMessage {type : UInt8}
    {checksum rest : List UInt8}
    (two : checksum.length = 2) :
    (replyMessage type checksum rest).length = 4 + rest.length := by
  rw [replyMessage]
  simp only [List.length_append, List.length_cons, List.length_nil, two]

private theorem length_replyChecksum (type : UInt8) (rest : List UInt8) :
    (replyChecksum type rest).length = 2 :=
  PacketUtil.length_calculateChecksum _ _ _

/-- The reply to a ping, whatever IP header it is built with. -/
private theorem pingReply_eq {ipHeader : IPHeader} {ipData : List UInt8}
    {packet : ICMPPacket} {type : UInt8}
    (built : (flipAddress ipHeader).headerData = .ok ipData)
    (isReply :
      (buildSuccessPacket ipHeader.getIpVersion packet).isPingReply = true)
    (type_eq :
      byteOf (buildSuccessPacket ipHeader.getIpVersion packet).type =
        type) :
    let rest :=
      asShortBytes packet.identifier ++
        asShortBytes packet.sequenceNumber ++ packet.data
    pingReply ipHeader packet =
      .ok (ipData ++ replyMessage type (replyChecksum type rest) rest) := by
  intro rest
  have message (checksum : List UInt8) :
      echoBytes (buildSuccessPacket ipHeader.getIpVersion packet)
          checksum =
        replyMessage type checksum rest := by
    rw [echoBytes]
    rw [type_eq]
    rfl
  have filled (word : List UInt8) (two : word.length = 2) :
      PacketUtil.overwrite (replyMessage type [0, 0] rest) 2 word =
        replyMessage type word rest := by
    rw [PacketUtil.overwrite]
    rw [two]
    rfl
  have built' :
      packetToBuffer (flipAddress ipHeader)
          (buildSuccessPacket ipHeader.getIpVersion packet) =
        .ok
          (PacketUtil.overwrite (ipData ++ replyMessage type [0, 0] rest)
            (ipData.length + 2) (replyChecksum type rest)) := by
    have zeros : asShortBytes 0 = [0, 0] := rfl
    rw [packetToBuffer]
    simp only [built, bind, Except.bind, isReply, Bool.or_true, if_true,
      message, zeros]
    rfl
  rw [pingReply]
  rw [built', PacketUtil.overwrite_append_right,
    filled _ (length_replyChecksum type rest)]

/-- Behind the IP header a ping gets its identifier, its sequence number and
its data back. -/
private theorem handleICMPPacket_eq {stream : ByteBuffer}
    {ipHeader : IPHeader}
    {ipData : List UInt8} {type : UInt8}
    (long : 8 ≤ stream.remaining)
    (built : (flipAddress ipHeader).headerData = .ok ipData)
    (request :
      ipHeader.getIpVersion = 4 ∧ type = 0 ∧
          slice stream.unread 0 1 = [8] ∨
        ipHeader.getIpVersion = 6 ∧ type = 129 ∧
          slice stream.unread 0 1 = [128]) :
    handleICMPPacket stream ipHeader true =
      .ok
        (some
          (ipData ++
            replyMessage type
              (replyChecksum type (stream.unread.drop 4))
              (stream.unread.drop 4))) := by
  obtain ⟨packet, after, run, version, type_eq, rest⟩ :=
    parseICMPPacket_eq long ipHeader.getIpVersion
  have reply :
      pingReply ipHeader packet =
        .ok
          (ipData ++
            replyMessage type (replyChecksum type (stream.unread.drop 4))
              (stream.unread.drop 4)) := by
    rw [← rest]
    apply pingReply_eq built
    · rcases request with ⟨four, -, -⟩ | ⟨six, -, -⟩
      · rw [four]
        rfl
      · rw [six]
        rfl
    · rcases request with ⟨four, type_eq, -⟩ | ⟨six, type_eq, -⟩
      · rw [four, type_eq]
        rfl
      · rw [six, type_eq]
        rfl
  have isRequest :
      packet.isUnreachable = false ∧ packet.isRouterSolicitation = false ∧
        packet.isPingRequest = true := by
    unfold ICMPPacket.isUnreachable ICMPPacket.isRouterSolicitation
      ICMPPacket.isPingRequest ICMPPacket.hasType
    rw [version, type_eq]
    rcases request with ⟨four, -, first⟩ | ⟨six, -, first⟩
    · rw [four, first]
      decide
    · rw [six, first]
      decide
  obtain ⟨notUnreachable, notSolicitation, ping⟩ := isRequest
  unfold handleICMPPacket
  simp only [run, bind, Except.bind, notUnreachable, notSolicitation, ping,
    reply]
  rfl

private theorem oddByte_replyMessage {type : UInt8}
    {checksum rest : List UInt8}
    (two : checksum.length = 2) :
    oddByte (replyMessage type checksum rest) = oddByte rest := by
  rw [replyMessage]
  apply oddByte_append
  simp [two]

/-- Behind a pseudo-header the checksum of a reply is valid exactly when the
pseudo-header, and an odd last byte counted 255 times, vanish from the sum.
-/
private theorem validChecksum_replyMessage {pseudo rest : List UInt8}
    (even : pseudo.length % 2 = 0) (short : rest.length + 4 < 65536)
    (type : UInt8) :
    ValidChecksum
        (pseudo ++ replyMessage type (replyChecksum type rest) rest) ↔
      (wordSum pseudo + 255 * oddByte rest) % 65535 = 0 := by
  have small : unpaddedSum ([type, 0] ++ [0, 0] ++ rest) < 2 ^ 31 := by
    have bound := wordSum_le ([type, 0] ++ [0, 0] ++ rest)
    have unpadded := wordSum_eq_unpaddedSum ([type, 0] ++ [0, 0] ++ rest)
    have length_eq :
        ([type, 0] ++ [0, 0] ++ rest).length = rest.length + 4 :=
      rfl
    omega
  have odd :
      oddByte ([type, 0] ++ [0, 0] ++ rest) = oddByte rest :=
    oddByte_replyMessage rfl
  rw [← odd]
  exact PacketUtil.validChecksum_filled even (by simp) small

/-- An echo request whose header has `words` words. -/
structure EchoRequest4 (packet : List UInt8) (words : Nat) : Prop where
  version : bigEndian (slice packet 0 1) = 64 + words
  long : 5 ≤ words
  short : words ≤ 15
  total : bigEndian (slice packet 2 2) = packet.length
  protocol : slice packet 9 1 = [1]
  room : 4 * words + 8 ≤ packet.length
  type : slice packet (4 * words) 1 = [8]

/-- A valid reply to such a request. -/
structure EchoReply4 (request reply : List UInt8) (words : Nat) :
    Prop where
  valid_header : ValidIPv4Header reply (4 * words)
  valid_message : ValidChecksum (reply.drop (4 * words))
  source : slice reply 12 4 = slice request 16 4
  destination : slice reply 16 4 = slice request 12 4
  type : slice reply (4 * words) 2 = [0, 0]
  rest : reply.drop (4 * words + 4) = request.drop (4 * words + 4)

private theorem createIPHeader_echoRequest4 {packet : List UInt8}
    {words : Nat}
    (request : EchoRequest4 packet words) :
    createIPHeader (ByteBuffer.wrap packet) =
      .ok
        (.v4 (IPv4Header.fixedHeader (ByteBuffer.wrap packet)),
          (ByteBuffer.wrap packet).advance (4 * words)) := by
  have long := request.long
  have short := request.short
  have room := request.room
  have first :
      bigEndian (slice (ByteBuffer.wrap packet).array 0 1) =
        64 + words :=
    request.version
  have version :
      signed8 (bigEndian (slice (ByteBuffer.wrap packet).array 0 1)) / 16 =
        4 := by
    rw [first]
    rw [signed8]
    omega
  have enough :
      4 * (bigEndian (slice (ByteBuffer.wrap packet).array 0 1) % 16) ≤
        (ByteBuffer.wrap packet).remaining := by
    rw [first, ByteBuffer.remaining_wrap]
    omega
  have wide :
      5 ≤ bigEndian (slice (ByteBuffer.wrap packet).array 0 1) % 16 := by
    rw [first]
    omega
  obtain ⟨header, after, parsed⟩ :=
    IPv4Header.ofStream_accepts version wide enough
  obtain ⟨-, rfl, -, after_eq⟩ := IPv4Header.ofStream_header parsed
  have words_eq :
      (IPv4Header.fixedHeader
        (ByteBuffer.wrap packet)).internetHeaderLength =
          words := by
    show bigEndian (slice packet 0 1) % 16 = words
    rw [request.version]
    omega
  rw [words_eq] at after_eq
  rw [createIPHeader_eq rfl
      (by rw [ByteBuffer.remaining_wrap]; omega),
    if_pos version, Reading.map_of_eq_ok parsed, after_eq]
  have length_eq : 20 + 4 * (words - 5) = 4 * words := by
    omega
  rw [length_eq]

/-- What the parsed header of a request is.  Its payload length has been
reduced by the number of words of the header, not by its bytes. -/
private theorem fixedHeader_echoRequest4 {packet : List UInt8} {words : Nat}
    (request : EchoRequest4 packet words) :
    let header := IPv4Header.fixedHeader (ByteBuffer.wrap packet)
    header.ipVersion = 4 ∧ header.internetHeaderLength = words ∧
      header.getTotalLength = packet.length + 3 * words ∧
      header.sourceIP = ⟨slice packet 12 4⟩ ∧
      header.destinationIP = ⟨slice packet 16 4⟩ := by
  have short := request.short
  have words_eq : bigEndian (slice packet 0 1) % 16 = words := by
    rw [request.version]
    omega
  refine ⟨?_, words_eq, ?_, rfl, rfl⟩
  · show signed8 (bigEndian (slice packet 0 1)) / 16 = 4
    rw [request.version]
    rw [signed8]
    omega
  · show
      ((bigEndian (slice packet 0 1) % 16 * 4 : Nat) : Int) +
          (signed16 (bigEndian (slice packet 2 2)) % 65536 -
            (bigEndian (slice packet 0 1) % 16 : Nat)) =
        packet.length + 3 * words
    have bound := bigEndian_slice_lt packet 2 2
    rw [request.total] at bound
    rw [words_eq, request.total]
    rw [signed16]
    omega

/-- The reply: the request's own header with its addresses swapped, and the
message behind it. -/
private theorem answerPing_v4_bytes {packet : List UInt8} {words : Nat}
    (request : EchoRequest4 packet words) :
    ∃ ipData, ipData.length = 4 * words ∧
      slice ipData 2 2 = toBigEndian 2 (packet.length + 3 * words : Nat) ∧
      slice ipData 12 4 = slice packet 16 4 ∧
      slice ipData 16 4 = slice packet 12 4 ∧
      answerPing packet =
        .ok
          (some
            (ipData ++
              replyMessage 0
                (replyChecksum 0 (packet.drop (4 * words + 4)))
                (packet.drop (4 * words + 4)))) := by
  have long := request.long
  have room := request.room
  have parsed := createIPHeader_echoRequest4 request
  obtain ⟨version, words_eq, total, source, destination⟩ :=
    fixedHeader_echoRequest4 request
  generalize IPv4Header.fixedHeader (ByteBuffer.wrap packet) = header
    at parsed version words_eq total source destination
  generalize stream_eq :
    (ByteBuffer.wrap packet).advance (4 * words) = stream at parsed
  have unread : stream.unread = packet.drop (4 * words) := by
    rw [← stream_eq, ByteBuffer.unread_advance, ByteBuffer.unread_wrap]
  have remaining : stream.remaining = packet.length - 4 * words := by
    rw [← stream_eq, ByteBuffer.remaining_advance,
      ByteBuffer.remaining_wrap]
  obtain ⟨flipped, flip_eq, complete, flippedWords, flippedTotal,
      flippedSource, flippedDestination⟩ :
      ∃ flipped, flipAddress (.v4 header) = .v4 flipped ∧
        flipped.Complete ∧ flipped.internetHeaderLength = words ∧
        flipped.getTotalLength = (packet.length + 3 * words : Nat) ∧
        flipped.sourceIP = ⟨slice packet 16 4⟩ ∧
        flipped.destinationIP = ⟨slice packet 12 4⟩ := by
    refine ⟨_, rfl, ⟨words_eq ▸ long, words_eq ▸ request.short, ?_, ?_⟩,
      words_eq, total, destination, source⟩
    · show header.destinationIP.address.length = 4
      rw [destination]
      exact length_slice_of_le (by omega)
    · show header.sourceIP.address.length = 4
      rw [source]
      exact length_slice_of_le (by omega)
  obtain ⟨ipData, built, layout⟩ := IPv4Header.headerData_layout complete
  have firstByte : slice stream.unread 0 1 = [8] := by
    rw [unread, ← request.type]
    unfold slice
    rw [List.drop_drop, Nat.add_zero]
  have handled :=
    @handleICMPPacket_eq stream (.v4 header) ipData 0 (by omega)
      (by rw [flip_eq]; exact built) (.inl ⟨version, rfl, firstByte⟩)
  rw [unread, List.drop_drop] at handled
  refine ⟨ipData, ?_, ?_, ?_, ?_, ?_⟩
  · rw [layout.length_eq, ← flippedWords, Nat.mul_comm]
    rfl
  · rw [layout.total, flippedTotal]
  · rw [layout.source, flippedSource]
  · rw [layout.destination, flippedDestination]
  · unfold answerPing
    simp only [parsed, bind, Except.bind]
    exact handled

/-- The reply has the addresses swapped and everything behind the ICMP
checksum as in the request.  Its total length field is off by three bytes
for every word of the header, and its checksum misses an odd last byte. -/
theorem answerPing_v4 {packet : List UInt8} {words : Nat}
    (request : EchoRequest4 packet words) :
    ∃ reply, answerPing packet = .ok (some reply) ∧
      reply.length = packet.length ∧
      bigEndian (slice reply 2 2) = (packet.length + 3 * words) % 65536 ∧
      slice reply 12 4 = slice packet 16 4 ∧
      slice reply 16 4 = slice packet 12 4 ∧
      slice reply (4 * words) 2 = [0, 0] ∧
      reply.drop (4 * words + 4) = packet.drop (4 * words + 4) ∧
      (ValidChecksum (reply.drop (4 * words)) ↔ oddByte packet = 0) := by
  have long := request.long
  have room := request.room
  have bound := bigEndian_slice_lt packet 2 2
  rw [request.total] at bound
  obtain ⟨ipData, ip_length, total, source, destination, run⟩ :=
    answerPing_v4_bytes request
  have two := length_replyChecksum 0 (packet.drop (4 * words + 4))
  refine ⟨_, run, ?_, ?_, ?_, ?_, ?_, ?_, ?_⟩
  · rw [List.length_append, length_replyMessage two, List.length_drop]
    omega
  · have read :=
      bigEndian_toBigEndian 2 (packet.length + 3 * words : Nat)
    rw [slice_append_left (by omega), total]
    omega
  · rw [slice_append_left (by omega), source]
  · rw [slice_append_left (by omega), destination]
  · have behind (message : List UInt8) :
        slice (ipData ++ message) (4 * words) 2 = slice message 0 2 := by
      rw [← ip_length]
      exact slice_append_right ipData message 0 2
    rw [behind]
    rfl
  · rw [← List.drop_drop, List.drop_left' ip_length]
    rw [replyMessage]
    exact List.drop_left' (by simp [two])
  · have rest_length :
        (packet.drop (4 * words + 4)).length + 4 < 65536 := by
      rw [List.length_drop]
      omega
    have checked :=
      @validChecksum_replyMessage [] (packet.drop (4 * words + 4)) rfl
        rest_length 0
    have odd : oddByte packet = oddByte (packet.drop (4 * words + 4)) := by
      conv_lhs => rw [← List.take_append_drop (4 * words + 4) packet]
      apply oddByte_append
      rw [List.length_take]
      omega
    have small := oddByte_lt (packet.drop (4 * words + 4))
    rw [wordSum_nil, List.nil_append] at checked
    rw [List.drop_left' ip_length, checked, odd]
    omega

/-- No reply to an echo request over IPv4 is valid: its total length field
is never its length. -/
theorem echo_reply_v4_invalid {packet : List UInt8} {words : Nat}
    (request : EchoRequest4 packet words) :
    ∃ reply, answerPing packet = .ok (some reply) ∧
      ¬ EchoReply4 packet reply words := by
  obtain ⟨reply, run, length_eq, total, -⟩ := answerPing_v4 request
  refine ⟨reply, run, ?_⟩
  intro valid
  have long := request.long
  have short := request.short
  have bound := bigEndian_slice_lt packet 2 2
  rw [request.total] at bound
  have announced := valid.valid_header.total
  rw [total, length_eq] at announced
  omega

/-- A ping from 10.0.0.1 to 10.0.0.2 with four bytes of data. -/
def ping4Bytes : List UInt8 :=
  [0x45, 0, 0, 32, 0, 1, 0, 0, 64, 1, 0x66, 0xDA, 10, 0, 0, 1, 10, 0, 0, 2,
    8, 0, 0x34, 0xE0, 0xBE, 0xEF, 0, 42, 1, 2, 3, 4]

/-- The header checksum is passed on, and the total length is 47. -/
def pong4Bytes : List UInt8 :=
  [0x45, 0, 0, 47, 0, 1, 0, 0, 64, 1, 0x66, 0xDA, 10, 0, 0, 2, 10, 0, 0, 1,
    0, 0, 0x3C, 0xE0, 0xBE, 0xEF, 0, 42, 1, 2, 3, 4]

theorem pong4_invalid :
    EchoRequest4 ping4Bytes 5 ∧ ValidIPv4Header ping4Bytes 20 ∧
      ValidChecksum (ping4Bytes.drop 20) ∧
      answerPing ping4Bytes = .ok (some pong4Bytes) ∧
      pong4Bytes.length = 32 ∧ ¬ EchoReply4 ping4Bytes pong4Bytes 5 := by
  refine
    ⟨⟨by decide, by decide, by decide, by decide, by decide, by decide,
        by decide⟩,
      ⟨by decide, by decide⟩, by decide, by decide +kernel, rfl, ?_⟩
  intro valid
  exact absurd valid.valid_header.total (by decide)

theorem echo_reply_v4_invalid_ping4 :
    ∃ reply, answerPing ping4Bytes = .ok (some reply) ∧
      ¬ EchoReply4 ping4Bytes reply 5 :=
  echo_reply_v4_invalid
    ⟨by decide, by decide, by decide, by decide, by decide, by decide,
      by decide⟩

/-- An ICMPv6 echo request. -/
structure EchoRequest6 (packet : List UInt8) : Prop where
  version : bigEndian (slice packet 0 1) / 16 = 6
  payloadLength : bigEndian (slice packet 4 2) + 40 = packet.length
  nextHeader : slice packet 6 1 = [58]
  room : 48 ≤ packet.length
  type : slice packet 40 1 = [128]

/-- A reply with a valid ICMPv6 checksum and payload length. -/
structure EchoReply6 (reply : List UInt8) : Prop where
  valid_message : ValidIPv6Segment reply 58
  payloadLength : bigEndian (slice reply 4 2) + 40 = reply.length

private theorem createIPHeader_echoRequest6 {packet : List UInt8}
    (request : EchoRequest6 packet) :
    createIPHeader (ByteBuffer.wrap packet) =
      .ok
        (.v6 (IPv6Header.fixedHeader (ByteBuffer.wrap packet)),
          (ByteBuffer.wrap packet).advance 40) := by
  have room := request.room
  have bound := bigEndian_slice_lt packet 0 1
  have six := request.version
  have version :
      signed8 (bigEndian (slice (ByteBuffer.wrap packet).array 0 1)) / 16 =
        6 := by
    show signed8 (bigEndian (slice packet 0 1)) / 16 = 6
    rw [signed8]
    omega
  obtain ⟨header, after, parsed⟩ :=
    IPv6Header.ofStream_accepts version
      (by rw [ByteBuffer.remaining_wrap]; omega)
  obtain ⟨-, rfl, -, after_eq⟩ := IPv6Header.ofStream_header parsed
  rw [createIPHeader_eq rfl
      (by rw [ByteBuffer.remaining_wrap]; omega),
    if_neg (by rw [version]; decide), Reading.map_of_eq_ok parsed,
    after_eq]

/-- The reply: the request's own header with its addresses swapped, and the
message behind it. -/
private theorem answerPing_v6_bytes {packet : List UInt8}
    (request : EchoRequest6 packet) :
    ∃ ipData, ipData.length = 40 ∧
      slice ipData 4 2 = slice packet 4 2 ∧
      slice ipData 8 32 = slice packet 24 16 ++ slice packet 8 16 ∧
      answerPing packet =
        .ok
          (some
            (ipData ++
              replyMessage 129 (replyChecksum 129 (packet.drop 44))
                (packet.drop 44))) := by
  have room := request.room
  have parsed := createIPHeader_echoRequest6 request
  obtain ⟨version, payloadLength, source, destination⟩ :
      (IPv6Header.fixedHeader (ByteBuffer.wrap packet)).ipVersion = 6 ∧
        (IPv6Header.fixedHeader (ByteBuffer.wrap packet)).payloadLength =
          signed16 (bigEndian (slice packet 4 2)) ∧
        (IPv6Header.fixedHeader (ByteBuffer.wrap packet)).sourceIP =
          ⟨slice packet 8 16⟩ ∧
        (IPv6Header.fixedHeader (ByteBuffer.wrap packet)).destinationIP =
          ⟨slice packet 24 16⟩ := by
    refine ⟨?_, rfl, rfl, rfl⟩
    show signed8 (bigEndian (slice packet 0 1)) / 16 = 6
    have bound := bigEndian_slice_lt packet 0 1
    have six := request.version
    unfold signed8
    omega
  generalize IPv6Header.fixedHeader (ByteBuffer.wrap packet) = header
    at parsed version payloadLength source destination
  generalize stream_eq :
    (ByteBuffer.wrap packet).advance 40 = stream at parsed
  have unread : stream.unread = packet.drop 40 := by
    rw [← stream_eq, ByteBuffer.unread_advance, ByteBuffer.unread_wrap]
  have remaining : stream.remaining = packet.length - 40 := by
    rw [← stream_eq, ByteBuffer.remaining_advance,
      ByteBuffer.remaining_wrap]
  obtain ⟨flipped, flip_eq, complete, announced, flippedSource,
      flippedDestination⟩ :
      ∃ flipped, flipAddress (.v6 header) = .v6 flipped ∧
        flipped.Complete ∧
        flipped.payloadLength = signed16 (bigEndian (slice packet 4 2)) ∧
        flipped.sourceIP = ⟨slice packet 24 16⟩ ∧
        flipped.destinationIP = ⟨slice packet 8 16⟩ := by
    refine ⟨_, rfl, ⟨?_, ?_⟩, payloadLength, destination, source⟩
    · show header.destinationIP.address.length = 16
      rw [destination]
      exact length_slice_of_le (by omega)
    · show header.sourceIP.address.length = 16
      rw [source]
      exact length_slice_of_le (by omega)
  obtain ⟨ip_length, length_bytes, addresses⟩ :=
    IPv6Header.headerData_layout complete
  have firstByte : slice stream.unread 0 1 = [128] := by
    rw [unread, ← request.type]
    unfold slice
    rw [List.drop_drop, Nat.add_zero]
  have handled :=
    @handleICMPPacket_eq stream (.v6 header) flipped.headerData 129
      (by omega) (by rw [flip_eq]; rfl) (.inr ⟨version, rfl, firstByte⟩)
  rw [unread, List.drop_drop] at handled
  refine ⟨flipped.headerData, ip_length, ?_, ?_, ?_⟩
  · rw [length_bytes, announced]
    exact asShortBytes_signed16 (length_slice_of_le (by omega))
  · rw [addresses, flippedSource, flippedDestination]
  · unfold answerPing
    simp only [parsed, bind, Except.bind]
    exact handled

/-- A pseudo-header has the same sum with the addresses swapped. -/
private theorem wordSum_pseudoHeader_swap {first second back : List UInt8}
    (firstEven : first.length % 2 = 0)
    (secondEven : second.length % 2 = 0) :
    wordSum (first ++ second ++ back) =
      wordSum (second ++ first ++ back) := by
  rw [List.append_assoc, List.append_assoc, wordSum_append firstEven,
    wordSum_append secondEven, wordSum_append secondEven,
    wordSum_append firstEven]
  omega

/-- A reply over IPv6 announces its length, and its checksum is valid
exactly when the pseudo-header it leaves out, and an odd last byte counted
255 times, vanish from the sum. -/
theorem echo_reply_v6_valid_iff {packet : List UInt8}
    (request : EchoRequest6 packet) :
    ∃ reply, answerPing packet = .ok (some reply) ∧
      (EchoReply6 reply ↔
        (wordSum (ipv6PseudoHeader packet 58 (packet.length - 40)) +
            255 * oddByte packet) % 65535 =
          0) := by
  have room := request.room
  have announced := request.payloadLength
  have bound := bigEndian_slice_lt packet 4 2
  obtain ⟨ipData, ip_length, length_bytes, addresses, run⟩ :=
    answerPing_v6_bytes request
  have two := length_replyChecksum 129 (packet.drop 44)
  have reply_length :
      (ipData ++
          replyMessage 129 (replyChecksum 129 (packet.drop 44))
            (packet.drop 44)).length =
        packet.length := by
    rw [List.length_append, length_replyMessage two, List.length_drop]
    omega
  have odd : oddByte packet = oddByte (packet.drop 44) := by
    conv_lhs => rw [← List.take_append_drop 44 packet]
    apply oddByte_append
    rw [List.length_take]
    omega
  have rest_length : (packet.drop 44).length + 4 < 65536 := by
    rw [List.length_drop]
    omega
  have first_length : (slice packet 8 16).length = 16 :=
    length_slice_of_le (by omega)
  have second_length : (slice packet 24 16).length = 16 :=
    length_slice_of_le (by omega)
  generalize tail_eq :
    toBigEndian 4 (packet.length - 40 : Nat) ++ [0, 0, 0, 58] = tail
  have tail_length : tail.length = 8 := by
    rw [← tail_eq, List.length_append, length_toBigEndian]
    rfl
  have requestPseudo :
      ipv6PseudoHeader packet 58 (packet.length - 40) =
        slice packet 8 16 ++ slice packet 24 16 ++ tail := by
    rw [ipv6PseudoHeader]
    rw [List.append_assoc, tail_eq, ← slice_add]
  have replyPseudo (message : List UInt8) :
      ipv6PseudoHeader (ipData ++ message) 58 (packet.length - 40) =
        slice packet 24 16 ++ slice packet 8 16 ++ tail := by
    rw [ipv6PseudoHeader]
    rw [List.append_assoc, tail_eq, slice_append_left (by omega),
      addresses]
  have even :
      (slice packet 24 16 ++ slice packet 8 16 ++ tail).length % 2 = 0 := by
    simp only [List.length_append, first_length, second_length,
      tail_length]
  have checked := validChecksum_replyMessage even rest_length 129
  have swapped :=
    @wordSum_pseudoHeader_swap (slice packet 24 16) (slice packet 8 16)
      tail (by rw [second_length]) (by rw [first_length])
  refine ⟨_, run, ?_⟩
  rw [requestPseudo, odd, ← swapped, ← checked]
  constructor
  · intro valid
    have message := valid.valid_message
    rw [ValidIPv6Segment] at message
    rw [reply_length, replyPseudo, List.drop_left' ip_length] at message
    exact message
  · intro valid
    constructor
    · rw [ValidIPv6Segment]
      rw [reply_length, replyPseudo, List.drop_left' ip_length]
      exact valid
    · rw [reply_length, slice_append_left (by omega), length_bytes]
      exact announced

/-- A ping from fd00::1 to fd00::2 without data. -/
def ping6Bytes : List UInt8 :=
  [0x60, 0, 0, 0, 0, 8, 58, 64, 0xFD, 0, 0, 0, 0, 0, 0, 0, 0, 0, 0, 0, 0, 0,
    0, 1, 0xFD, 0, 0, 0, 0, 0, 0, 0, 0, 0, 0, 0, 0, 0, 0, 2, 128, 0, 0x85,
    0xB5, 0, 1, 0, 2]

/-- The checksum is the one of ICMP over IPv4. -/
def pong6Bytes : List UInt8 :=
  [0x60, 0, 0, 0, 0, 8, 58, 64, 0xFD, 0, 0, 0, 0, 0, 0, 0, 0, 0, 0, 0, 0, 0,
    0, 2, 0xFD, 0, 0, 0, 0, 0, 0, 0, 0, 0, 0, 0, 0, 0, 0, 1, 129, 0, 0x7E,
    0xFC, 0, 1, 0, 2]

theorem pong6_invalid :
    EchoRequest6 ping6Bytes ∧ slice ping6Bytes 0 4 = [0x60, 0, 0, 0] ∧
      ValidIPv6Segment ping6Bytes 58 ∧
      answerPing ping6Bytes = .ok (some pong6Bytes) ∧
      ¬ EchoReply6 pong6Bytes := by
  refine
    ⟨⟨by decide, by decide, by decide, by decide, by decide⟩, by decide,
      by decide, by decide +kernel, ?_⟩
  intro valid
  exact absurd valid.valid_message (by decide +kernel)

theorem echo_reply_v6_valid_iff_ping6 :
    ∃ reply, answerPing ping6Bytes = .ok (some reply) ∧
      (EchoReply6 reply ↔
        (wordSum (ipv6PseudoHeader ping6Bytes 58 (ping6Bytes.length - 40)) +
            255 * oddByte ping6Bytes) % 65535 =
          0) :=
  echo_reply_v6_valid_iff
    ⟨by decide, by decide, by decide, by decide, by decide⟩

end LanShield.Vpn
