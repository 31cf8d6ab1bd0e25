import LanShield.Transport.PacketUtil

/-!
# `UDPHeader` and `UDPPacketFactory`

The builder works on header objects its caller keeps, so it is an action on
those objects: `ip` and `udp` are the request's, `ipHeader` is the clone it
makes.  The number `PacketUtil.getPacketId` hands out is an argument.
-/

namespace LanShield.Transport

open LanShield.Library LanShield.Java

structure UDPHeader where
  sourcePort : Nat
  destinationPort : Nat
  length : Nat
  checksum : Int
  deriving DecidableEq, Repr

namespace UDPPacketFactory

/-- `createUDPHeader`. -/
def createUDPHeader : Reading UDPHeader := do
  let stream ← get
  if stream.remaining < 8 then
    Reading.throw (.packetHeader "Minimum UDP header is 8 bytes.")
  else
    let srcPort ← Reading.getShort
    let destPort ← Reading.getShort
    let length ← Reading.getShort
    let checksum ← Reading.getShort
    return {
      sourcePort := (srcPort % 65536).toNat
      destinationPort := (destPort % 65536).toNat
      length := (length % 65536).toNat
      checksum }

/-- The header objects `createResponsePacket` reaches. -/
structure HeaderObjects where
  ip : IPHeader
  udp : UDPHeader
  ipHeader : IPHeader
  deriving DecidableEq, Repr

abbrev Building :=
  StateT HeaderObjects (Except JavaException)

/-- A setter of the object behind `ipHeader`. -/
def onClone (set : IPHeader → IPHeader) : Building Unit :=
  modify fun objects =>
    { objects with ipHeader := set objects.ipHeader }

/-- `intContainer` with a value, and its last two bytes copied to the
buffer. -/
def writeShort (value : Int) (start : Nat) (buffer : List UInt8) :
    List UInt8 :=
  let intContainer :=
    PacketUtil.writeIntToBytes value (List.replicate 4 0) 0
  PacketUtil.overwrite buffer start (slice intContainer 2 2)

/-- `createResponsePacket`. -/
def createResponsePacket (packetId : Int) (packetData : List UInt8) :
    Building (List UInt8) := do
  let udpLen : Nat := 8 + packetData.length
  let udp := (← get).udp
  let srcPort := udp.destinationPort
  let destPort := udp.sourcePort
  let checksum : Int := 0
  modify fun objects => { objects with ipHeader := objects.ip.clone }
  let srcIp := (← get).ip.getDestinationIP
  let destIp := (← get).ip.getSourceIP
  onClone (IPHeader.setSourceIP srcIp)
  onClone (IPHeader.setDestinationIP destIp)
  onClone (IPHeader.setPayloadLength udpLen)
  onClone (IPHeader.setIdentification packetId)
  let totalLength := (← get).ipHeader.getTotalLength
  let buffer := List.replicate totalLength.toNat 0
  let ipData ← (← get).ipHeader.headerData
  let ipData := PacketUtil.overwrite ipData 10 [0, 0]
  let ipChecksum := PacketUtil.calculateChecksum ipData 0 ipData.length
  let ipData := PacketUtil.overwrite ipData 10 ipChecksum
  let buffer := PacketUtil.overwrite buffer 0 ipData
  let start := ipData.length
  let buffer := writeShort srcPort start buffer
  let buffer := writeShort destPort (start + 2) buffer
  let buffer := writeShort udpLen (start + 4) buffer
  let buffer := writeShort checksum (start + 6) buffer
  return PacketUtil.overwrite buffer (start + 8) packetData

end UDPPacketFactory

end LanShield.Transport
