import LanShield.Java.ByteBuffer

/-!
# The firewall's packet parser

`org.distrinet.lanshield.vpnservice.IPHeader`, on which the allow or block
decision and the app lookup are made.
-/

namespace LanShield.VpnService

open LanShield.Library LanShield.Java

/-- `java.net.InetAddress`. -/
inductive InetAddress where
  | v4 (address : List UInt8)
  | v6 (address : List UInt8)
  deriving DecidableEq, Repr

namespace InetAddress

/-- `InetAddress.getByAddress`, which turns an IPv4-mapped IPv6 address into
an IPv4 address. -/
def getByAddress (addr : List UInt8) : Except JavaException InetAddress :=
  if addr.length = 4 then
    .ok (.v4 addr)
  else if addr.length = 16 then
    if addr.take 12 = List.replicate 10 0 ++ [255, 255] then
      .ok (.v4 (addr.drop 12))
    else
      .ok (.v6 addr)
  else
    .error .unknownHost

end InetAddress

/-- `java.net.InetSocketAddress`. -/
structure InetSocketAddress where
  address : InetAddress
  port : Nat
  deriving DecidableEq, Repr

structure IPHeader where
  source : InetSocketAddress
  destination : InetSocketAddress
  protocol : Nat
  ipVersion : Nat
  size : Int
  canDoDpi : Bool
  deriving DecidableEq, Repr

namespace IPHeader

def hasPayloadForDpi (header : IPHeader) : Bool :=
  header.canDoDpi

/-- `parseInetAddress`. -/
def parseInetAddress (addressSize : Nat) : Reading InetAddress := do
  let addressBytes ← Reading.getBytes addressSize
  fun buffer =>
    (InetAddress.getByAddress addressBytes).map fun value => (value, buffer)

/-- The two ports, read where the caller expects them. -/
def parsePorts (protocol sourcePortOffset : Nat) : Reading (Nat × Nat) :=
  if protocol = 6 ∨ protocol = 17 then do
    Reading.setPosition sourcePortOffset
    let sourcePort ← Reading.getShort
    let destinationPort ← Reading.getShort
    return ((sourcePort % 65536).toNat, (destinationPort % 65536).toNat)
  else
    return (0, 0)

/-- Whether the packet is longer than its IP and TCP headers. -/
def parseCanDoDpi (protocol version : Nat) (size : Int) :
    Reading Bool :=
  if protocol = 6 then do
    let ipHeaderLength ←
      if version = 4 then do
        let first ← Reading.absolute (·.getAt 0)
        pure (first.toNat % 16 * 4)
      else
        pure 40
    let rawPacket ← get
    if rawPacket.limit < ipHeaderLength + 13 then
      Reading.throw (.illegalArgument "Truncated TCP packet")
    else
      let dataOffsetAndNs ← Reading.absolute (·.getAt (ipHeaderLength + 12))
      let tcpHeaderLength := dataOffsetAndNs.toNat / 16 * 4
      return decide (((ipHeaderLength + tcpHeaderLength : Nat) : Int) < size)
  else
    return true

/-- `parseIPHeader`. -/
def parseIPHeader
    (addressSize sourceOffset protocolOffset sourcePortOffset : Nat)
    (version : Nat) : Reading IPHeader := do
  Reading.setPosition protocolOffset
  let protocolByte ← Reading.getByte
  let protocol := (protocolByte % 256).toNat
  Reading.setPosition sourceOffset
  let sourceIp ← parseInetAddress addressSize
  let destinationIp ← parseInetAddress addressSize
  let length ←
    Reading.absolute (·.getShortAt (if version = 4 then 2 else 4))
  let size := if version = 4 then length else length % 65536 + 40
  let (sourcePort, destinationPort) ← parsePorts protocol sourcePortOffset
  let canDoDpi ← parseCanDoDpi protocol version size
  return {
    source := ⟨sourceIp, sourcePort⟩
    destination := ⟨destinationIp, destinationPort⟩
    protocol
    ipVersion := version
    size
    canDoDpi }

/-- The constructor `IPHeader(ByteBuffer)`. -/
def ofPacket : Reading IPHeader := do
  let packetBuffer ← get
  if packetBuffer.limit < 24 then
    Reading.throw (.illegalArgument "Failed requirement.")
  else
    let first ← Reading.absolute (·.getAt 0)
    if first.toNat / 16 = 4 then
      parseIPHeader 4 12 9 20 4
    else if first.toNat / 16 = 6 then
      if packetBuffer.limit < 44 then
        Reading.throw (.illegalArgument "Failed requirement.")
      else
        parseIPHeader 16 8 6 40 6
    else
      let ipVersion : Int :=
        if first.toNat < 128 then
          first.toNat / 16
        else
          2 ^ 28 - 16 + first.toNat / 16
      Reading.throw
        (.illegalArgument ("Invalid IP version: " ++ toString ipVersion))

end IPHeader

end LanShield.VpnService
