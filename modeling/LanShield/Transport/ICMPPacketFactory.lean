import LanShield.Transport.PacketUtil

/-!
# ICMP packets

`ICMPPacket` and `ICMPPacketFactory`.  Only echo requests and replies can be
serialised.
-/

namespace LanShield.Transport

open LanShield.Library LanShield.Java

structure ICMPPacket where
  ipVersion : Int
  type : Int
  code : Int
  checksum : Int
  identifier : Int
  sequenceNumber : Int
  data : List UInt8
  deriving DecidableEq, Repr

namespace ICMPPacket

def typeIPv4Request : Int := 8
def typeIPv4Reply : Int := 0
def typeIPv6Request : Int := 128
def typeIPv6Reply : Int := 129
def typeIPv6RouterSolicitation : Int := 133
def typeIPv4DestinationUnreachable : Int := 3
def typeIPv6DestinationUnreachable : Int := 1

/-- The type is `ipv4` over IPv4, and `ipv6` over any other version. -/
def hasType (ipv4 ipv6 : Int) (packet : ICMPPacket) : Bool :=
  if packet.ipVersion = 4 then
    decide (packet.type = ipv4)
  else
    decide (packet.type = ipv6)

def isPingRequest : ICMPPacket → Bool :=
  hasType typeIPv4Request typeIPv6Request

def isPingReply : ICMPPacket → Bool :=
  hasType typeIPv4Reply typeIPv6Reply

def isUnreachable : ICMPPacket → Bool :=
  hasType typeIPv4DestinationUnreachable typeIPv6DestinationUnreachable

def isRouterSolicitation (packet : ICMPPacket) : Bool :=
  decide (packet.ipVersion = 6) &&
    decide (packet.type = typeIPv6RouterSolicitation)

end ICMPPacket

namespace ICMPPacketFactory

/-- `parseICMPPacket`. -/
def parseICMPPacket (ipVersion : Int) : Reading ICMPPacket := do
  let type ← Reading.getByte
  let code ← Reading.getByte
  let checksum ← Reading.getShort
  let identifier ← Reading.getShort
  let sequenceNumber ← Reading.getShort
  let stream ← get
  let data ← Reading.getBytes stream.remaining
  return {
    ipVersion
    type := type % 256
    code := code % 256
    checksum
    identifier
    sequenceNumber
    data }

/-- `buildSuccessPacket`. -/
def buildSuccessPacket (ipVersion : Int) (requestPacket : ICMPPacket) :
    ICMPPacket where
  ipVersion := ipVersion
  type :=
    if ipVersion = 4 then
      ICMPPacket.typeIPv4Reply
    else
      ICMPPacket.typeIPv6Reply
  code := 0
  checksum := 0
  identifier := requestPacket.identifier
  sequenceNumber := requestPacket.sequenceNumber
  data := requestPacket.data

/-- `asShortBytes`. -/
def asShortBytes (value : Int) : List UInt8 :=
  toBigEndian 2 value

/-- The bytes of an echo packet around its checksum field. -/
def echoBytes (packet : ICMPPacket) (checksum : List UInt8) : List UInt8 :=
  [byteOf packet.type, byteOf packet.code] ++ checksum ++
    (asShortBytes packet.identifier ++ asShortBytes packet.sequenceNumber ++
      packet.data)

/-- `packetToBuffer`.  The checksum replaces the placeholder behind the two
bytes of type and code. -/
def packetToBuffer (ipHeader : IPHeader) (packet : ICMPPacket) :
    Except JavaException (List UInt8) := do
  let ipData ← ipHeader.headerData
  if packet.isPingRequest || packet.isPingReply then
    let icmpPacketData := echoBytes packet (asShortBytes 0)
    let checksum :=
      PacketUtil.calculateChecksum icmpPacketData 0 icmpPacketData.length
    return PacketUtil.overwrite (ipData ++ icmpPacketData)
      (ipData.length + 2) checksum
  else
    throw
      (.packetHeader "Can't serialize unrecognized ICMP packet type")

end ICMPPacketFactory

end LanShield.Transport
