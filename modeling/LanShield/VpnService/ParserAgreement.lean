import LanShield.VpnService.IPHeader
import LanShield.Transport.ParsedHeaders

/-!
# The firewall's parser and the forwarder's parser

The firewall reads the ports of an IPv4 packet at a fixed offset, the
forwarder behind the options its header length announces.
-/

namespace LanShield.VpnService

open LanShield.Library LanShield.Java LanShield.Transport

/-- The endpoints the forwarding side opens a session between. -/
structure ForwardedPacket where
  protocol : IPProtocol
  sourceIP : IPAddress
  destinationIP : IPAddress
  sourcePort : Nat
  destinationPort : Nat
  deriving DecidableEq, Repr

/-- The protocol and the two ports of the transport header. -/
def transportPorts :
    Option IPProtocol → Reading (IPProtocol × Nat × Nat)
  | some .tcp => do
      let tcpheader ← TCPPacketFactory.createTCPHeader
      return (.tcp, tcpheader.sourcePort, tcpheader.destinationPort)
  | some .udp => do
      let udpheader ← UDPPacketFactory.createUDPHeader
      return (.udp, udpheader.sourcePort, udpheader.destinationPort)
  | protocol =>
      Reading.throw
        (.packetHeader ("Unsupported IP protocol: " ++ reprStr protocol))

/-- `SessionHandler.handlePacket` down to the parsed transport header of a
TCP or UDP packet. -/
def forwardedPacket : Reading ForwardedPacket := do
  modify ByteBuffer.rewind
  let ipHeader ← createIPHeader
  let (protocol, sourcePort, destinationPort) ←
    transportPorts ipHeader.getProtocol
  return {
    protocol
    sourceIP := ipHeader.getSourceIP
    destinationIP := ipHeader.getDestinationIP
    sourcePort
    destinationPort }

/-- The protocol number the firewall knows a protocol by. -/
def protocolNumber : IPProtocol → Nat
  | .tcp => 6
  | .udp => 17
  | .icmp => 1
  | .unknown => 0

/-- Both sides report the same protocol, addresses and ports. -/
structure Agree (judged : IPHeader) (forwarded : ForwardedPacket) :
    Prop where
  protocol : judged.protocol = protocolNumber forwarded.protocol
  source :
    InetAddress.getByAddress forwarded.sourceIP.getBytes =
      .ok judged.source.address
  destination :
    InetAddress.getByAddress forwarded.destinationIP.getBytes =
      .ok judged.destination.address
  sourcePort : judged.source.port = forwarded.sourcePort
  destinationPort : judged.destination.port = forwarded.destinationPort

/-- The four bits behind the version of the first byte. -/
def headerWords (packet : ByteBuffer) : Nat :=
  bigEndian (slice packet.array 0 1) % 16

def version (packet : ByteBuffer) : Nat :=
  bigEndian (slice packet.array 0 1) / 16

/-- The two ports at `offset` of a packet. -/
def portsAt (packet : ByteBuffer) (offset : Nat) : List UInt8 :=
  slice packet.array offset 4

/-- Where the forwarder finds the ports of an IPv4 packet. -/
def transportOffset (packet : ByteBuffer) : Nat :=
  20 + 4 * (headerWords packet - 5)

/-- The packet is IPv6, or has at offset 20 the same four bytes as behind
its IPv4 header. -/
def PortsAtFixedOffset (packet : ByteBuffer) : Prop :=
  version packet = 6 ∨
    portsAt packet 20 = portsAt packet (transportOffset packet)

instance (packet : ByteBuffer) : Decidable (PortsAtFixedOffset packet) :=
  inferInstanceAs (Decidable (_ ∨ _))

/-- Without IPv4 options the two offsets are one. -/
theorem portsAtFixedOffset_of_no_options {packet : ByteBuffer}
    (short : headerWords packet ≤ 5) : PortsAtFixedOffset packet := by
  right
  rw [transportOffset, Nat.sub_eq_zero_of_le short]

/-- The firewall's report, in terms of the bytes at the offsets it uses. -/
structure JudgedFrom
    (packet : ByteBuffer) (judged : IPHeader)
    (protocolOffset sourceOffset addressSize portsOffset : Nat) :
    Prop where
  protocol :
    judged.protocol = bigEndian (slice packet.array protocolOffset 1)
  source :
    InetAddress.getByAddress
        (slice packet.array sourceOffset addressSize) =
      .ok judged.source.address
  destination :
    InetAddress.getByAddress
        (slice packet.array (sourceOffset + addressSize) addressSize) =
      .ok judged.destination.address
  ports :
    judged.protocol = 6 ∨ judged.protocol = 17 →
      judged.source.port = bigEndian (slice packet.array portsOffset 2) ∧
        judged.destination.port =
          bigEndian (slice packet.array (portsOffset + 2) 2)

/-- The forwarder's report, in the same terms. -/
structure ForwardedFrom
    (packet : ByteBuffer) (forwarded : ForwardedPacket)
    (protocolOffset sourceOffset addressSize portsOffset : Nat) :
    Prop where
  transport : forwarded.protocol = .tcp ∨ forwarded.protocol = .udp
  protocol :
    bigEndian (slice packet.array protocolOffset 1) =
      protocolNumber forwarded.protocol
  source :
    forwarded.sourceIP.getBytes =
      slice packet.array sourceOffset addressSize
  destination :
    forwarded.destinationIP.getBytes =
      slice packet.array (sourceOffset + addressSize) addressSize
  sourcePort :
    forwarded.sourcePort = bigEndian (slice packet.array portsOffset 2)
  destinationPort :
    forwarded.destinationPort =
      bigEndian (slice packet.array (portsOffset + 2) 2)
  fits : portsOffset + 4 ≤ packet.array.length

theorem parseInetAddress_eq_ok
    {addressSize : Nat} {buffer after : ByteBuffer} {result : InetAddress} :
    IPHeader.parseInetAddress addressSize buffer = .ok (result, after) ↔
      addressSize ≤ buffer.remaining ∧
        InetAddress.getByAddress
            (slice buffer.array buffer.position addressSize) =
          .ok result ∧
        after = buffer.advance addressSize := by
  rw [IPHeader.parseInetAddress]
  simp only [Reading.bind_eq_ok, Reading.getBytes_eq_ok, and_assoc,
    exists_and_left, exists_eq_left]
  cases InetAddress.getByAddress
      (slice buffer.array buffer.position addressSize) with
  | error exception =>
      simp [Except.map]
  | ok address =>
      simp [Except.map, eq_comm]

private theorem parsePorts_eq_ok
    {protocol portsOffset : Nat} {buffer after : ByteBuffer}
    {sourcePort destinationPort : Nat}
    (parsed :
      IPHeader.parsePorts protocol portsOffset buffer =
        .ok ((sourcePort, destinationPort), after))
    (transport : protocol = 6 ∨ protocol = 17) :
    sourcePort = bigEndian (slice buffer.array portsOffset 2) ∧
      destinationPort =
        bigEndian (slice buffer.array (portsOffset + 2) 2) := by
  rw [IPHeader.parsePorts] at parsed
  rw [if_pos transport, Reading.bind_eq_ok] at parsed
  obtain ⟨_, placed, moved, parsed⟩ := parsed
  obtain ⟨-, array_eq, position_eq, -⟩ := Reading.setPosition_eq_ok moved
  simp only [Reading.bind_eq_ok, Reading.getShort_eq_ok,
    Reading.pure_eq_ok, Prod.mk.injEq, and_assoc, exists_and_left,
    exists_eq_left] at parsed
  obtain ⟨fits, -, source_eq, destination_eq, -⟩ := parsed
  rw [TCPPacketFactory.signed16_bigEndian_mod] at source_eq
  rw [TCPPacketFactory.signed16_bigEndian_mod] at destination_eq
  rw [source_eq, destination_eq, ByteBuffer.position_advance fits,
    ByteBuffer.array_advance, array_eq, position_eq]
  exact ⟨rfl, rfl⟩

/-- What `parseIPHeader` has read when it returns.  The reads that do not
move the position see the array of the packet all the same. -/
theorem parseIPHeader_reads
    {addressSize sourceOffset protocolOffset portsOffset number : Nat}
    {packet after : ByteBuffer} {judged : IPHeader}
    (parsed :
      IPHeader.parseIPHeader addressSize sourceOffset protocolOffset
          portsOffset number packet =
        .ok (judged, after)) :
    ∃ length afterLength afterPorts,
      afterLength.array = packet.array ∧
        judged.protocol =
          bigEndian (slice packet.array protocolOffset 1) ∧
        InetAddress.getByAddress
            (slice packet.array sourceOffset addressSize) =
          .ok judged.source.address ∧
        InetAddress.getByAddress
            (slice packet.array (sourceOffset + addressSize)
              addressSize) =
          .ok judged.destination.address ∧
        afterLength.getShortAt (if number = 4 then 2 else 4) =
          .ok length ∧
        judged.size =
          (if number = 4 then length else length % 65536 + 40) ∧
        IPHeader.parsePorts judged.protocol portsOffset afterLength =
          .ok ((judged.source.port, judged.destination.port),
            afterPorts) ∧
        IPHeader.parseCanDoDpi judged.protocol number judged.size
            afterPorts =
          .ok (judged.canDoDpi, after) := by
  rw [IPHeader.parseIPHeader, Reading.bind_eq_ok] at parsed
  obtain ⟨_, atProtocol, moved, parsed⟩ := parsed
  obtain ⟨-, array_eq, position_eq, -⟩ := Reading.setPosition_eq_ok moved
  rw [Reading.bind_eq_ok] at parsed
  obtain ⟨protocolByte, afterProtocol, readProtocol, parsed⟩ := parsed
  obtain ⟨-, byte_eq, rfl⟩ := Reading.getByte_eq_ok.mp readProtocol
  rw [Reading.bind_eq_ok] at parsed
  obtain ⟨_, atSource, moved, parsed⟩ := parsed
  obtain ⟨-, source_array, source_position, -⟩ :=
    Reading.setPosition_eq_ok moved
  rw [Reading.bind_eq_ok] at parsed
  obtain ⟨sourceIp, afterSource, readSource, parsed⟩ := parsed
  obtain ⟨fits, source_eq, rfl⟩ := parseInetAddress_eq_ok.mp readSource
  rw [Reading.bind_eq_ok] at parsed
  obtain ⟨destinationIp, afterDestination, readDestination, parsed⟩ :=
    parsed
  obtain ⟨-, destination_eq, rfl⟩ :=
    parseInetAddress_eq_ok.mp readDestination
  rw [Reading.bind_eq_ok] at parsed
  obtain ⟨length, afterLength, readLength, parsed⟩ := parsed
  obtain ⟨read, rfl⟩ := Reading.absolute_eq_ok.mp readLength
  rw [Reading.bind_eq_ok] at parsed
  obtain ⟨⟨sourcePort, destinationPort⟩, afterPorts, readPorts, parsed⟩ :=
    parsed
  rw [Reading.bind_eq_ok] at parsed
  obtain ⟨canDoDpi, afterDpi, readDpi, parsed⟩ := parsed
  obtain ⟨rfl, rfl⟩ := Reading.pure_eq_ok.mp parsed
  have protocol_eq :
      (protocolByte % 256).toNat =
        bigEndian (slice packet.array protocolOffset 1) := by
    have bound := bigEndian_slice_lt packet.array protocolOffset 1
    rw [byte_eq, array_eq, position_eq, signed8]
    omega
  have arrays_eq :
      atSource.array = packet.array := source_array.trans array_eq
  rw [source_position, arrays_eq] at source_eq
  rw [ByteBuffer.position_advance fits, ByteBuffer.array_advance,
    source_position, arrays_eq] at destination_eq
  refine
    ⟨length, (atSource.advance addressSize).advance addressSize,
      afterPorts, ?_, protocol_eq, source_eq, destination_eq, read, rfl,
      readPorts, readDpi⟩
  rw [ByteBuffer.array_advance, ByteBuffer.array_advance]
  exact arrays_eq

private theorem parseIPHeader_fields
    {addressSize sourceOffset protocolOffset portsOffset number : Nat}
    {packet after : ByteBuffer} {judged : IPHeader}
    (parsed :
      IPHeader.parseIPHeader addressSize sourceOffset protocolOffset
          portsOffset number packet =
        .ok (judged, after)) :
    JudgedFrom packet judged protocolOffset sourceOffset addressSize
      portsOffset := by
  obtain ⟨length, afterLength, afterPorts, array_eq, protocol_eq,
    source_eq, destination_eq, -, -, readPorts, -⟩ :=
      parseIPHeader_reads parsed
  refine ⟨protocol_eq, source_eq, destination_eq, fun transport => ?_⟩
  have ports := parsePorts_eq_ok readPorts transport
  rw [array_eq] at ports
  exact ports

/-- The constructor hands each version its offsets. -/
theorem ofPacket_cases {packet after : ByteBuffer} {judged : IPHeader}
    (parsed : IPHeader.ofPacket packet = .ok (judged, after)) :
    version packet = 4 ∧
        IPHeader.parseIPHeader 4 12 9 20 4 packet = .ok (judged, after) ∨
      version packet = 6 ∧
        IPHeader.parseIPHeader 16 8 6 40 6 packet =
          .ok (judged, after) := by
  rw [IPHeader.ofPacket, Reading.get_bind] at parsed
  split at parsed
  · simp at parsed
  · rw [Reading.bind_eq_ok] at parsed
    obtain ⟨first, _, readFirst, parsed⟩ := parsed
    obtain ⟨read, rfl⟩ := Reading.absolute_eq_ok.mp readFirst
    have first_eq := (ByteBuffer.getAt_eq_ok read).2
    split at parsed
    · next four =>
      rw [first_eq] at four
      exact Or.inl ⟨four, parsed⟩
    · split at parsed
      · next six =>
        rw [first_eq] at six
        split at parsed
        · simp at parsed
        · exact Or.inr ⟨six, parsed⟩
      · simp at parsed

/-- The firewall reads IPv4 ports at 20 and IPv6 ports at 40. -/
theorem ofPacket_fields {packet after : ByteBuffer} {judged : IPHeader}
    (parsed : IPHeader.ofPacket packet = .ok (judged, after)) :
    version packet = 4 ∧ JudgedFrom packet judged 9 12 4 20 ∨
      version packet = 6 ∧ JudgedFrom packet judged 6 8 16 40 := by
  rcases ofPacket_cases parsed with ⟨four, parsed⟩ | ⟨six, parsed⟩
  · exact Or.inl ⟨four, parseIPHeader_fields parsed⟩
  · exact Or.inr ⟨six, parseIPHeader_fields parsed⟩

theorem version_of_signed8 {packet : ByteBuffer} {number : Nat}
    (signed :
      signed8 (bigEndian (slice packet.array 0 1)) / 16 = number) :
    version packet = number := by
  have bound := bigEndian_slice_lt packet.array 0 1
  rw [signed8] at signed
  rw [version]
  omega

private theorem protocolOfNumber_eq_some
    {array : List UInt8} {start : Nat} {icmpNumber : Int}
    {protocol : IPProtocol}
    (named :
      protocolOfNumber icmpNumber
          (signed8 (bigEndian (slice array start 1))) =
        some protocol)
    (transport : protocol = .tcp ∨ protocol = .udp) :
    bigEndian (slice array start 1) = protocolNumber protocol := by
  have bound := bigEndian_slice_lt array start 1
  rw [protocolOfNumber, signed8] at named
  split_ifs at named with six seventeen icmp
  · cases named
    simp only [protocolNumber]
    omega
  · cases named
    simp only [protocolNumber]
    omega
  · cases named
    rcases transport with impossible | impossible
    · cases impossible
    · cases impossible

/-- What `createIPHeader` reads, for both versions. -/
private theorem createIPHeader_fields
    {packet after : ByteBuffer} {ipHeader : Transport.IPHeader}
    (parsed : createIPHeader packet = .ok (ipHeader, after)) :
    after.array = packet.array ∧
      (version packet = 4 ∧
          ipHeader.getProtocol =
            protocolOfNumber 1
              (signed8 (bigEndian (slice packet.array 9 1))) ∧
          ipHeader.getSourceIP = ⟨slice packet.array 12 4⟩ ∧
          ipHeader.getDestinationIP = ⟨slice packet.array 16 4⟩ ∧
          after.position = transportOffset packet ∨
        version packet = 6 ∧
          ipHeader.getProtocol =
            protocolOfNumber 58
              (signed8 (bigEndian (slice packet.array 6 1))) ∧
          ipHeader.getSourceIP = ⟨slice packet.array 8 16⟩ ∧
          ipHeader.getDestinationIP = ⟨slice packet.array 24 16⟩ ∧
          after.position = 40) := by
  rw [createIPHeader] at parsed
  rw [Reading.bind_eq_ok] at parsed
  obtain ⟨first, afterFirst, readFirst, parsed⟩ := parsed
  obtain ⟨-, -, rfl⟩ := Reading.getByte_eq_ok.mp readFirst
  rw [Reading.bind_eq_ok] at parsed
  obtain ⟨_, rewound, rewinds, parsed⟩ := parsed
  have rewound_eq : rewound = (packet.advance 1).rewind := by
    cases rewinds
    rfl
  subst rewound_eq
  split at parsed
  · rw [Reading.bind_eq_ok] at parsed
    obtain ⟨header, afterHeader, readHeader, parsed⟩ := parsed
    obtain ⟨rfl, rfl⟩ := Reading.pure_eq_ok.mp parsed
    obtain ⟨four, words, protocol, source, destination, fits, rfl⟩ :=
      IPv4Header.ofStream_fields readHeader
    refine ⟨rfl, Or.inl ⟨version_of_signed8 four, ?_, ?_, ?_, ?_⟩⟩
    · simp only [ByteBuffer.array_rewind, ByteBuffer.array_advance,
        ByteBuffer.position_rewind, Nat.zero_add] at protocol
      exact protocol
    · simp only [ByteBuffer.array_rewind, ByteBuffer.array_advance,
        ByteBuffer.position_rewind, Nat.zero_add] at source
      exact source
    · simp only [ByteBuffer.array_rewind, ByteBuffer.array_advance,
        ByteBuffer.position_rewind, Nat.zero_add] at destination
      exact destination
    · rw [ByteBuffer.position_advance fits, words]
      simp [transportOffset, headerWords]
  · rw [Reading.bind_eq_ok] at parsed
    obtain ⟨header, afterHeader, readHeader, parsed⟩ := parsed
    obtain ⟨rfl, rfl⟩ := Reading.pure_eq_ok.mp parsed
    obtain ⟨six, protocol, source, destination, fits, rfl⟩ :=
      IPv6Header.ofStream_fields readHeader
    refine ⟨rfl, Or.inr ⟨version_of_signed8 six, ?_, ?_, ?_, ?_⟩⟩
    · simp only [ByteBuffer.array_rewind, ByteBuffer.array_advance,
        ByteBuffer.position_rewind, Nat.zero_add] at protocol
      exact protocol
    · simp only [ByteBuffer.array_rewind, ByteBuffer.array_advance,
        ByteBuffer.position_rewind, Nat.zero_add] at source
      exact source
    · simp only [ByteBuffer.array_rewind, ByteBuffer.array_advance,
        ByteBuffer.position_rewind, Nat.zero_add] at destination
      exact destination
    · rw [ByteBuffer.position_advance fits]
      simp

private theorem transportPorts_fields
    {named : Option IPProtocol} {protocol : IPProtocol}
    {sourcePort destinationPort : Nat} {placed after : ByteBuffer}
    (parsed :
      transportPorts named placed =
        .ok ((protocol, sourcePort, destinationPort), after)) :
    named = some protocol ∧ (protocol = .tcp ∨ protocol = .udp) ∧
      8 ≤ placed.remaining ∧
      sourcePort = bigEndian (slice placed.array placed.position 2) ∧
      destinationPort =
        bigEndian (slice placed.array (placed.position + 2) 2) := by
  cases named with
  | none =>
      simp [transportPorts] at parsed
  | some transport =>
      cases transport with
      | unknown =>
          simp [transportPorts] at parsed
      | icmp =>
          simp [transportPorts] at parsed
      | tcp =>
          simp only [transportPorts, Reading.bind_eq_ok,
            Reading.pure_eq_ok, Prod.mk.injEq] at parsed
          obtain ⟨header, _, readHeader, ⟨rfl, rfl, rfl⟩, -⟩ := parsed
          obtain ⟨enough, fixed, -⟩ :=
            TCPPacketFactory.createTCPHeader_fields readHeader
          refine ⟨rfl, Or.inl rfl, by omega, ?_, ?_⟩
          · exact congrArg TCPHeader.sourcePort fixed
          · exact congrArg TCPHeader.destinationPort fixed
      | udp =>
          simp only [transportPorts, Reading.bind_eq_ok,
            Reading.pure_eq_ok, Prod.mk.injEq] at parsed
          obtain ⟨header, _, readHeader, ⟨rfl, rfl, rfl⟩, -⟩ := parsed
          obtain ⟨enough, source, destination, -⟩ :=
            UDPPacketFactory.createUDPHeader_fields readHeader
          exact ⟨rfl, Or.inr rfl, enough, source, destination⟩

/-- The forwarder reads the ports behind the IP header it has parsed. -/
theorem forwardedPacket_fields
    {packet after : ByteBuffer} {forwarded : ForwardedPacket}
    (parsed : forwardedPacket packet = .ok (forwarded, after)) :
    version packet = 4 ∧
        ForwardedFrom packet forwarded 9 12 4 (transportOffset packet) ∨
      version packet = 6 ∧ ForwardedFrom packet forwarded 6 8 16 40 := by
  rw [forwardedPacket] at parsed
  rw [Reading.bind_eq_ok] at parsed
  obtain ⟨_, rewound, rewinds, parsed⟩ := parsed
  have rewound_eq : rewound = packet.rewind := by
    cases rewinds
    rfl
  subst rewound_eq
  rw [Reading.bind_eq_ok] at parsed
  obtain ⟨ipHeader, placed, readHeader, parsed⟩ := parsed
  rw [Reading.bind_eq_ok] at parsed
  obtain ⟨⟨protocol, sourcePort, destinationPort⟩, afterPorts, readPorts,
    parsed⟩ := parsed
  obtain ⟨rfl, rfl⟩ := Reading.pure_eq_ok.mp parsed
  obtain ⟨array_eq, version_cases⟩ := createIPHeader_fields readHeader
  obtain ⟨named, transport, enough, source_eq, destination_eq⟩ :=
    transportPorts_fields readPorts
  have fits : placed.position + 8 ≤ packet.array.length := by
    have within := placed.limit_le_capacity
    rw [array_eq] at within
    simp only [ByteBuffer.remaining] at enough
    simp only [ByteBuffer.array_rewind] at within
    omega
  rw [array_eq] at source_eq destination_eq
  rcases version_cases with
    ⟨four, number, source, destination, position_eq⟩ |
      ⟨six, number, source, destination, position_eq⟩
  · left
    rw [position_eq] at source_eq destination_eq fits
    refine ⟨four, transport, ?_, ?_, ?_, source_eq, destination_eq, ?_⟩
    · exact protocolOfNumber_eq_some (number.symm.trans named) transport
    · exact congrArg IPAddress.address source
    · exact congrArg IPAddress.address destination
    · exact (Nat.add_le_add_left (by decide) _).trans fits
  · right
    rw [position_eq] at source_eq destination_eq fits
    refine ⟨six, transport, ?_, ?_, ?_, source_eq, destination_eq, ?_⟩
    · exact protocolOfNumber_eq_some (number.symm.trans named) transport
    · exact congrArg IPAddress.address source
    · exact congrArg IPAddress.address destination
    · exact (Nat.add_le_add_left (by decide) _).trans fits

private theorem protocolNumber_transport {protocol : IPProtocol}
    (transport : protocol = .tcp ∨ protocol = .udp) :
    protocolNumber protocol = 6 ∨ protocolNumber protocol = 17 := by
  rcases transport with rfl | rfl
  · exact Or.inl rfl
  · exact Or.inr rfl

/-- Two places hold the same ports exactly when they hold the same bytes. -/
private theorem ports_eq_iff {packet : ByteBuffer} {first second : Nat}
    (firstFits : first + 4 ≤ packet.array.length)
    (secondFits : second + 4 ≤ packet.array.length) :
    (bigEndian (slice packet.array first 2) =
          bigEndian (slice packet.array second 2) ∧
        bigEndian (slice packet.array (first + 2) 2) =
          bigEndian (slice packet.array (second + 2) 2)) ↔
      portsAt packet first = portsAt packet second := by
  have split (start : Nat) :
      portsAt packet start =
        slice packet.array start 2 ++ slice packet.array (start + 2) 2 :=
    slice_add packet.array start 2 2
  rw [split, split]
  have length_eq {start : Nat} (fits : start + 4 ≤ packet.array.length) :
      (slice packet.array start 2).length = 2 ∧
        (slice packet.array (start + 2) 2).length = 2 :=
    ⟨length_slice_of_le (by omega), length_slice_of_le (by omega)⟩
  obtain ⟨firstSource, firstDestination⟩ := length_eq firstFits
  obtain ⟨secondSource, secondDestination⟩ := length_eq secondFits
  constructor
  · rintro ⟨source, destination⟩
    rw [bigEndian_inj (firstSource.trans secondSource.symm) source,
      bigEndian_inj (firstDestination.trans secondDestination.symm)
        destination]
  · intro same
    obtain ⟨source, destination⟩ :=
      List.append_inj same (firstSource.trans secondSource.symm)
    exact ⟨congrArg bigEndian source, congrArg bigEndian destination⟩

/-- Reports made from the same protocol and address bytes agree exactly
when they are made from the same port bytes. -/
private theorem agree_iff_ports
    {packet : ByteBuffer} {judged : IPHeader}
    {forwarded : ForwardedPacket}
    {protocolOffset sourceOffset addressSize first second : Nat}
    (judgement :
      JudgedFrom packet judged protocolOffset sourceOffset addressSize
        first)
    (forwarding :
      ForwardedFrom packet forwarded protocolOffset sourceOffset
        addressSize second)
    (firstFits : first + 4 ≤ packet.array.length) :
    Agree judged forwarded ↔
      portsAt packet first = portsAt packet second := by
  have protocol_eq :
      judged.protocol = protocolNumber forwarded.protocol :=
    judgement.protocol.trans forwarding.protocol
  have transport : judged.protocol = 6 ∨ judged.protocol = 17 := by
    rw [protocol_eq]
    exact protocolNumber_transport forwarding.transport
  obtain ⟨source_eq, destination_eq⟩ := judgement.ports transport
  rw [← ports_eq_iff firstFits forwarding.fits, ← source_eq,
    ← destination_eq, ← forwarding.sourcePort,
    ← forwarding.destinationPort]
  constructor
  · intro agree
    exact ⟨agree.sourcePort, agree.destinationPort⟩
  · rintro ⟨sourcePort, destinationPort⟩
    refine ⟨protocol_eq, ?_, ?_, sourcePort, destinationPort⟩
    · rw [forwarding.source]
      exact judgement.source
    · rw [forwarding.destination]
      exact judgement.destination

/-- On every packet both sides parse, they agree exactly when it is IPv6 or
the ports behind its IPv4 header are those at offset 20. -/
theorem parsers_agree_iff
    {packet afterJudged afterForwarded : ByteBuffer} {judged : IPHeader}
    {forwarded : ForwardedPacket}
    (judges : IPHeader.ofPacket packet = .ok (judged, afterJudged))
    (forwards : forwardedPacket packet = .ok (forwarded, afterForwarded)) :
    Agree judged forwarded ↔ PortsAtFixedOffset packet := by
  rcases ofPacket_fields judges with
    ⟨judgedVersion, judgement⟩ | ⟨judgedVersion, judgement⟩
  · rcases forwardedPacket_fields forwards with
      ⟨-, forwarding⟩ | ⟨six, -⟩
    · have fits : 20 + 4 ≤ packet.array.length := by
        have behind := forwarding.fits
        rw [transportOffset] at behind
        omega
      rw [agree_iff_ports judgement forwarding fits]
      rw [PortsAtFixedOffset]
      rw [judgedVersion]
      simp
    · rw [judgedVersion] at six
      cases six
  · rcases forwardedPacket_fields forwards with
      ⟨four, -⟩ | ⟨-, forwarding⟩
    · rw [judgedVersion] at four
      cases four
    · rw [agree_iff_ports judgement forwarding forwarding.fits]
      exact ⟨fun _ => Or.inl judgedVersion, fun _ => rfl⟩

/-- A UDP packet with one word of IPv4 options, in which the firewall sees
the option bytes as ports. -/
def packetWithOptions : ByteBuffer :=
  ByteBuffer.wrap
    [0x46, 0, 0, 32, 0, 0, 0, 0, 64, 17, 0, 0, 10, 0, 0, 1, 10, 0, 0, 2,
      1, 187, 1, 187, 4, 0, 0, 53, 0, 8, 0, 0]

/-- The same packet without options. -/
def packetWithoutOptions : ByteBuffer :=
  ByteBuffer.wrap
    [0x45, 0, 0, 28, 0, 0, 0, 0, 64, 17, 0, 0, 10, 0, 0, 1, 10, 0, 0, 2,
      4, 0, 0, 53, 0, 8, 0, 0]

theorem packetWithOptions_disagree :
    ∃ judged forwarded afterJudged afterForwarded,
      IPHeader.ofPacket packetWithOptions = .ok (judged, afterJudged) ∧
        forwardedPacket packetWithOptions =
          .ok (forwarded, afterForwarded) ∧
        judged.destination.port = 443 ∧ forwarded.destinationPort = 53 ∧
        ¬ Agree judged forwarded := by
  refine ⟨_, _, _, _, rfl, rfl, by decide, by decide, ?_⟩
  intro agree
  exact absurd agree.destinationPort (by decide)

theorem parsers_agree_without_options :
    ∃ judged forwarded afterJudged afterForwarded,
      IPHeader.ofPacket packetWithoutOptions = .ok (judged, afterJudged) ∧
        forwardedPacket packetWithoutOptions =
          .ok (forwarded, afterForwarded) ∧
        (Agree judged forwarded ↔
          PortsAtFixedOffset packetWithoutOptions) ∧
        PortsAtFixedOffset packetWithoutOptions := by
  exact
    ⟨_, _, _, _, rfl, rfl, parsers_agree_iff rfl rfl, by decide⟩

end LanShield.VpnService
