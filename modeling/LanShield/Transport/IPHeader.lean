import LanShield.Java.ByteBuffer

/-!
# IP headers of the forwarding side

`IPAddress`, `IPv4Header`, `IPv6Header` and `IPPacketFactory` of
`tech.httptoolkit.android.vpn.transport.ip`.  Java's `byte`, `short` and
`int` fields are exact integers in the range of their type; a shift right is
a floor division and a mask of low bits a remainder.
-/

namespace LanShield.Transport

open LanShield.Library LanShield.Java

/-- The `byte` cast, as the unsigned byte that reaches an array. -/
def byteOf (value : Int) : UInt8 :=
  UInt8.ofNat (value % 256).toNat

/-- Whether bit `index` of a two's-complement number is set. -/
def bitSet (value : Int) (index : Nat) : Bool :=
  decide (value / 2 ^ index % 2 = 1)

inductive IPProtocol where
  | unknown
  | tcp
  | udp
  | icmp
  deriving DecidableEq, Repr

/-- The numbers of TCP and UDP, and one of ICMP's two; any other leaves a
header's `protocol` null. -/
def protocolOfNumber (icmpNumber number : Int) : Option IPProtocol :=
  if number = 6 then
    some .tcp
  else if number = 17 then
    some .udp
  else if number = icmpNumber then
    some .icmp
  else
    none

structure IPAddress where
  address : List UInt8
  deriving DecidableEq, Repr

namespace IPAddress

/-- `IPAddress(ByteBuffer, int)`. -/
def ofStream (length : Nat) : Reading IPAddress := do
  let bytes ← Reading.getBytes length
  return ⟨bytes⟩

def getBytes (ip : IPAddress) : List UInt8 :=
  ip.address

end IPAddress

structure IPv4Header where
  ipVersion : Int
  internetHeaderLength : Nat
  dscpOrTypeOfService : Int
  ecn : Int
  payloadLength : Int
  identification : Int
  flag : UInt8
  mayFragment : Bool
  lastFragment : Bool
  fragmentOffset : Int
  timeToLive : Int
  ipv4Protocol : Int
  protocol : Option IPProtocol
  headerChecksum : Int
  sourceIP : IPAddress
  destinationIP : IPAddress
  deriving DecidableEq, Repr

namespace IPv4Header

/-- `setIPv4Protocol`. -/
def protocolOf (ipv4Protocol : Int) : Option IPProtocol :=
  protocolOfNumber 1 ipv4Protocol

/-- The parsing constructor `IPv4Header(ByteBuffer)`. -/
def ofStream : Reading IPv4Header := do
  let stream ← get
  if stream.remaining < 20 then
    Reading.throw
      (.packetHeader
        ("Minimum IPv4 header is 20 bytes. There are less " ++
          "than 20 bytes from start position to the end of array."))
  else
    let versionAndHeaderLength ← Reading.getByte
    let ipVersion := versionAndHeaderLength / 16
    if ipVersion ≠ 4 then
      Reading.throw
        (.packetHeader
          ("Invalid IPv4 header. IP version should be 4 but was " ++
            toString ipVersion))
    else
      let internetHeaderLength := (versionAndHeaderLength % 16).toNat
      if stream.capacity < internetHeaderLength * 4 then
        Reading.throw
          (.packetHeader "Not enough space in array for IP header")
      else
        let dscpAndEcn ← Reading.getByte
        let totalLength ← Reading.getShort
        let identification ← Reading.getShort
        let flagsAndFragmentOffset ← Reading.getShort
        let timeToLive ← Reading.getByte
        let ipv4Protocol ← Reading.getByte
        let headerChecksum ← Reading.getShort
        let sourceIP ← IPAddress.ofStream 4
        let destinationIP ← IPAddress.ofStream 4
        let _ ← Reading.getBytes (4 * (internetHeaderLength - 5))
        return {
          ipVersion
          internetHeaderLength
          dscpOrTypeOfService := dscpAndEcn / 4
          ecn := dscpAndEcn % 4
          payloadLength := totalLength % 65536 - internetHeaderLength
          identification
          flag := 0
          mayFragment := bitSet flagsAndFragmentOffset 14
          lastFragment := bitSet flagsAndFragmentOffset 13
          fragmentOffset := flagsAndFragmentOffset % 8192
          timeToLive
          ipv4Protocol
          protocol := protocolOf ipv4Protocol
          headerChecksum
          sourceIP
          destinationIP }

def getIPHeaderLength (header : IPv4Header) : Nat :=
  header.internetHeaderLength * 4

def getTotalLength (header : IPv4Header) : Int :=
  header.getIPHeaderLength + header.payloadLength

/-- `clone`, which rebuilds the flag bits the parser leaves zero. -/
def clone (header : IPv4Header) : IPv4Header :=
  { header with
    flag :=
      (if header.mayFragment then 0x40 else 0) |||
        (if header.lastFragment then 0x20 else 0)
    protocol := protocolOf header.ipv4Protocol }

/-- `headerData`: a header of fewer than five words has no room for the
fields. -/
def headerData (header : IPv4Header) : Except JavaException (List UInt8) :=
  if header.internetHeaderLength < 5 then
    .error .indexOutOfBounds
  else
    .ok
      ([byteOf header.internetHeaderLength &&& 0xF ||| 0x40,
          byteOf (header.dscpOrTypeOfService * 4) &&& byteOf header.ecn,
          byteOf (header.getTotalLength / 256),
          byteOf header.getTotalLength,
          byteOf (header.identification / 256),
          byteOf header.identification,
          byteOf (header.fragmentOffset / 256) &&& 0x1F ||| header.flag,
          byteOf header.fragmentOffset,
          byteOf header.timeToLive,
          byteOf header.ipv4Protocol,
          byteOf (header.headerChecksum / 256),
          byteOf header.headerChecksum] ++
        header.sourceIP.getBytes.take 4 ++
        header.destinationIP.getBytes.take 4 ++
        List.replicate (4 * (header.internetHeaderLength - 5)) 0)

end IPv4Header

structure IPv6Header where
  ipVersion : Int
  trafficClass : Int
  flowLabel : Int
  payloadLength : Int
  nextHeader : Int
  protocol : Option IPProtocol
  hopLimit : Int
  sourceIP : IPAddress
  destinationIP : IPAddress
  deriving DecidableEq, Repr

namespace IPv6Header

/-- `setNextHeader`. -/
def protocolOf (nextHeader : Int) : Option IPProtocol :=
  protocolOfNumber 58 nextHeader

/-- The parsing constructor `IPv6Header(ByteBuffer)`. -/
def ofStream : Reading IPv6Header := do
  let stream ← get
  if stream.remaining < 40 then
    Reading.throw
      (.packetHeader
        ("Minimum IPv6 header is 40 bytes. There are less " ++
          "than 40 bytes from start position to the end of array."))
  else
    let versionAndTrafficClass ← Reading.getByte
    let ipVersion := versionAndTrafficClass / 16
    if ipVersion ≠ 6 then
      Reading.throw
        (.packetHeader
          ("Invalid IPv6 header. IP version should be 6 but was " ++
            toString ipVersion))
    else
      let trafficClassAndFlowLabel ← Reading.getByte
      let flowLabelLow ← Reading.getShort
      let payloadLength ← Reading.getShort
      let nextHeader ← Reading.getByte
      let hopLimit ← Reading.getByte
      let sourceIP ← IPAddress.ofStream 16
      let destinationIP ← IPAddress.ofStream 16
      return {
        ipVersion
        trafficClass :=
          signed8
            (versionAndTrafficClass % 16 * 16 +
              trafficClassAndFlowLabel / 16)
        flowLabel := trafficClassAndFlowLabel * 65536 + flowLabelLow
        payloadLength
        nextHeader
        protocol := protocolOf nextHeader
        hopLimit
        sourceIP
        destinationIP }

def getTotalLength (header : IPv6Header) : Int :=
  40 + header.payloadLength

def clone (header : IPv6Header) : IPv6Header :=
  { header with protocol := protocolOf header.nextHeader }

def headerData (header : IPv6Header) : List UInt8 :=
  [byteOf (header.ipVersion * 16) ||| byteOf header.trafficClass,
      byteOf (header.trafficClass % 16 * 16) |||
        byteOf (header.flowLabel % 16),
      byteOf (header.flowLabel / 256),
      byteOf header.flowLabel,
      byteOf (header.payloadLength / 256),
      byteOf header.payloadLength,
      byteOf header.nextHeader,
      byteOf header.hopLimit] ++
    header.sourceIP.getBytes.take 16 ++
    header.destinationIP.getBytes.take 16

end IPv6Header

/-- The abstract class `IPHeader` and its two subclasses. -/
inductive IPHeader where
  | v4 (header : IPv4Header)
  | v6 (header : IPv6Header)
  deriving DecidableEq, Repr

namespace IPHeader

def getIpVersion : IPHeader → Int
  | v4 header => header.ipVersion
  | v6 header => header.ipVersion

def getProtocol : IPHeader → Option IPProtocol
  | v4 header => header.protocol
  | v6 header => header.protocol

def getSourceIP : IPHeader → IPAddress
  | v4 header => header.sourceIP
  | v6 header => header.sourceIP

def getDestinationIP : IPHeader → IPAddress
  | v4 header => header.destinationIP
  | v6 header => header.destinationIP

def setSourceIP (ip : IPAddress) : IPHeader → IPHeader
  | v4 header => v4 { header with sourceIP := ip }
  | v6 header => v6 { header with sourceIP := ip }

def setDestinationIP (ip : IPAddress) : IPHeader → IPHeader
  | v4 header => v4 { header with destinationIP := ip }
  | v6 header => v6 { header with destinationIP := ip }

def setPayloadLength (length : Int) : IPHeader → IPHeader
  | v4 header => v4 { header with payloadLength := length }
  | v6 header => v6 { header with payloadLength := length }

/-- The other half of IPv4's `setPayloadLength`, which takes a number from
`PacketUtil.getPacketId`. -/
def setIdentification (packetId : Int) : IPHeader → IPHeader
  | v4 header => v4 { header with identification := packetId }
  | v6 header => v6 header

def getTotalLength : IPHeader → Int
  | v4 header => header.getTotalLength
  | v6 header => header.getTotalLength

def clone : IPHeader → IPHeader
  | v4 header => v4 header.clone
  | v6 header => v6 header.clone

def headerData : IPHeader → Except JavaException (List UInt8)
  | v4 header => header.headerData
  | v6 header => .ok header.headerData

/-- `getTcpPseudoHeader` as the whole array of the buffer it fills. -/
def getTcpPseudoHeader (tcpLength : Int) :
    IPHeader → Except JavaException (List UInt8)
  | v4 header =>
      .ok
        (header.sourceIP.getBytes ++ header.destinationIP.getBytes ++
          [0, 6] ++ toBigEndian 2 tcpLength)
  | v6 header =>
      if signed16 tcpLength + 40 < 0 then
        .error (.illegalArgument "capacity < 0")
      else do
        let buffer ←
          (ByteBuffer.allocate (signed16 tcpLength + 40).toNat).put
            (header.sourceIP.getBytes ++ header.destinationIP.getBytes ++
              toBigEndian 4 (signed16 tcpLength) ++ [0, 0, 0, 6])
        return buffer.array

end IPHeader

/-- `IPPacketFactory.createIPHeader`. -/
def createIPHeader : Reading IPHeader := do
  let versionAndHeaderLength ← Reading.getByte
  let ipVersion := versionAndHeaderLength / 16
  modify ByteBuffer.rewind
  if ipVersion = 4 then
    return .v4 (← IPv4Header.ofStream)
  else
    return .v6 (← IPv6Header.ofStream)

end LanShield.Transport
