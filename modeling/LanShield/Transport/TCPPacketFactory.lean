import LanShield.Transport.PacketUtil
import LanShield.Transport.TCPHeader

/-!
# `TCPPacketFactory`

Parsing of TCP headers and the packet builders.  A builder returns a
`Packet`; `Packet.getBuffer` is the array the source keeps in it.  The clock
a builder reads and the number `PacketUtil.getPacketId` hands out are
arguments.
-/

namespace LanShield.Transport

open LanShield.Library LanShield.Java

namespace TCPPacketFactory

/-- `skipRemainingOptions`. -/
def skipRemainingOptions (size : Int) : Reading Unit := do
  let _ ← Reading.getBytes (size - 2).toNat
  return ()

/-- The loop of `handleTcpOptions`.  Every round takes at least one byte, so
a round more than there are bytes left finds the buffer empty. -/
def handleTcpOptions (optionsSize : Int) :
    (rounds : Nat) → (index : Int) → TCPHeader → Reading TCPHeader
  | 0, index, header =>
      if index < optionsSize then
        Reading.throw .bufferUnderflow
      else
        return header
  | rounds + 1, index, header =>
      if index < optionsSize then do
        let optionKind ← Reading.getByte
        if optionKind = 0 ∨ optionKind = 1 then
          handleTcpOptions optionsSize rounds (index + 1) header
        else
          let size ← Reading.getByte
          if optionKind = 2 then
            let maxSegmentSize ← Reading.getShort
            handleTcpOptions optionsSize rounds (index + 4)
              { header with maxSegmentSize }
          else if optionKind = 3 then
            let windowScale ← Reading.getByte
            handleTcpOptions optionsSize rounds (index + 3)
              { header with windowScale }
          else if optionKind = 4 then
            handleTcpOptions optionsSize rounds (index + 2)
              { header with isSelectiveAckPermitted := true }
          else if optionKind = 8 then
            let timeStampSender ← Reading.getInt
            let timeStampReplyTo ← Reading.getInt
            handleTcpOptions optionsSize rounds (index + 10)
              { header with timeStampSender, timeStampReplyTo }
          else
            skipRemainingOptions size
            handleTcpOptions optionsSize rounds (index + 2 + size - 2) header
      else
        return header

/-- `createTCPHeader`. -/
def createTCPHeader : Reading TCPHeader := do
  let stream ← get
  if stream.remaining < 20 then
    Reading.throw
      (.packetHeader
        ("There is not enough space for TCP header from " ++
          "provided starting position"))
  else
    let sourcePort ← Reading.getShort
    let destPort ← Reading.getShort
    let sequenceNumber ← Reading.getInt
    let ackNumber ← Reading.getInt
    let dataOffsetAndNs ← Reading.getByte
    let dataOffset := (dataOffsetAndNs % 256 / 16).toNat
    let stream ← get
    if (stream.remaining : Int) < ((dataOffset : Int) - 5) * 4 then
      Reading.throw
        (.packetHeader
          ("invalid array size for TCP header from " ++
            "given starting position"))
    else
      let tcpFlag ← Reading.getByte
      let windowSize ← Reading.getShort
      let checksum ← Reading.getShort
      let urgentPointer ← Reading.getShort
      let header :=
        TCPHeader.create (sourcePort % 65536).toNat (destPort % 65536).toNat
          sequenceNumber ackNumber dataOffset (bitSet dataOffsetAndNs 0)
          (byteOf tcpFlag) windowSize checksum urgentPointer
      if 5 < dataOffset then
        let stream ← get
        handleTcpOptions (dataOffset * 4 - 20) stream.remaining 0 header
      else
        return header

/-- The loop of `createTCPHeaderData` that writes the two timestamps into
the option bytes.  A loop that runs for more rounds than there are bytes is
at some index for the second time, and never ends. -/
def stampOptions (sender replyTo : Int) :
    (rounds : Nat) → (index : Int) → List UInt8 →
      Except JavaException (List UInt8)
  | 0, _, _ => .error .nonterminating
  | rounds + 1, index, options =>
      if (options.length : Int) ≤ index then
        .ok options
      else if index < 0 then
        .error .indexOutOfBounds
      else
        let kind := signed8 (options.getD index.toNat 0).toNat
        if kind ≤ 1 then
          stampOptions sender replyTo rounds (index + 1) options
        else if kind = 8 then
          if index + 2 + 7 < options.length then
            .ok
              (PacketUtil.writeIntToBytes replyTo
                (PacketUtil.writeIntToBytes sender options
                  (index.toNat + 2))
                (index.toNat + 6))
          else
            .ok options
        else if index + 1 < options.length then
          let length := signed8 (options.getD (index.toNat + 1) 0).toNat
          stampOptions sender replyTo rounds (index + length) options
        else
          stampOptions sender replyTo rounds (index + 1) options

/-- The twenty bytes `createTCPHeaderData` writes for the fixed fields. -/
def fixedFields (header : TCPHeader) : List UInt8 :=
  toBigEndian 2 header.sourcePort ++
    toBigEndian 2 header.destinationPort ++
    toBigEndian 4 header.sequenceNumber ++
    toBigEndian 4 header.ackNumber ++
    [byteOf (header.dataOffset * 16) ||| (if header.isNS then 1 else 0),
      header.tcpFlags] ++
    toBigEndian 2 header.windowSize ++
    toBigEndian 2 header.checksum ++
    toBigEndian 2 header.urgentPointer

@[simp]
theorem length_fixedFields (header : TCPHeader) :
    (fixedFields header).length = 20 := by
  simp [fixedFields]

/-- `createTCPHeaderData`. -/
def createTCPHeaderData (header : TCPHeader) :
    Except JavaException (List UInt8) :=
  if header.dataOffset < 5 then
    .error .indexOutOfBounds
  else
    match header.options with
    | none =>
        .ok
          (fixedFields header ++
            List.replicate (header.getTCPHeaderLength - 20) 0)
    | some options => do
        let options ←
          stampOptions header.timeStampSender header.timeStampReplyTo
            (options.length + 1) 0 options
        if header.getTCPHeaderLength < 20 + options.length then
          .error .indexOutOfBounds
        else
          .ok
            (fixedFields header ++ options ++
              List.replicate
                (header.getTCPHeaderLength - 20 - options.length) 0)

/-- `createPacketData`. -/
def createPacketData
    (packetId : Int) (ipHeader : IPHeader) (tcpheader : TCPHeader)
    (data : List UInt8) : Except JavaException (List UInt8) := do
  let ipHeader :=
    (ipHeader.setPayloadLength
      (tcpheader.getTCPHeaderLength + data.length)).setIdentification
        packetId
  let ipBuffer ← ipHeader.headerData
  let tcpBuffer ← createTCPHeaderData tcpheader
  let tcpStart := ipBuffer.length
  let buffer := List.replicate ipHeader.getTotalLength.toNat 0
  let buffer := PacketUtil.overwrite buffer 0 ipBuffer
  let buffer := PacketUtil.overwrite buffer tcpStart tcpBuffer
  let buffer :=
    PacketUtil.overwrite buffer (tcpStart + tcpBuffer.length) data
  let buffer := PacketUtil.calculateIpChecksum ipHeader buffer
  let buffer := PacketUtil.overwrite buffer (tcpStart + 16) [0, 0]
  let tcpChecksum ←
    PacketUtil.calculateTCPHeaderChecksum buffer tcpStart
      (tcpBuffer.length + data.length) ipHeader
  return PacketUtil.overwrite buffer (tcpStart + 16) tcpChecksum

end TCPPacketFactory

/-- `Packet`, with the payload in place of the serialised array. -/
structure Packet where
  ipHeader : IPHeader
  transportHeader : TCPHeader
  data : List UInt8
  deriving DecidableEq, Repr

/-- `Packet.getBuffer`. -/
def Packet.getBuffer (packetId : Int) (packet : Packet) :
    Except JavaException (List UInt8) :=
  TCPPacketFactory.createPacketData packetId packet.ipHeader
    packet.transportHeader packet.data

namespace TCPPacketFactory

/-- `copyTCPHeader`. -/
def copyTCPHeader (tcpheader : TCPHeader) : TCPHeader :=
  { TCPHeader.create tcpheader.sourcePort tcpheader.destinationPort
      tcpheader.sequenceNumber tcpheader.ackNumber tcpheader.dataOffset
      tcpheader.isNS tcpheader.tcpFlags tcpheader.windowSize
      tcpheader.checksum tcpheader.urgentPointer with
    maxSegmentSize := tcpheader.maxSegmentSize
    windowScale := tcpheader.windowScale
    isSelectiveAckPermitted := tcpheader.isSelectiveAckPermitted
    timeStampSender := tcpheader.timeStampSender
    timeStampReplyTo := tcpheader.timeStampReplyTo }

/-- "flip IP from source to dest and vice-versa", for the addresses. -/
def flipIP (ip : IPHeader) : IPHeader :=
  (ip.setDestinationIP ip.getSourceIP).setSourceIP ip.getDestinationIP

/-- The same flip for the ports. -/
def flipPorts (tcp : TCPHeader) : TCPHeader :=
  { tcp with
    destinationPort := tcp.sourcePort
    sourcePort := tcp.destinationPort }

/-- `createFinAckData`. -/
def createFinAckData
    (ipHeader : IPHeader) (tcpHeader : TCPHeader)
    (ackToClient seqToClient : Int) (isFin isAck : Bool)
    (currentTime : Int) : Packet :=
  let ip := flipIP ipHeader.clone
  let tcp := flipPorts (copyTCPHeader tcpHeader)
  let tcp :=
    { tcp with ackNumber := ackToClient, sequenceNumber := seqToClient }
  let tcp :=
    (((tcp.setIsACK isAck).setIsSYN false).setIsPSH false).setIsFIN isFin
  let tcp :=
    { tcp with
      timeStampReplyTo := tcp.timeStampSender
      timeStampSender := signed32 currentTime }
  { ipHeader := ip.setPayloadLength tcp.getTCPHeaderLength
    transportHeader := tcp
    data := [] }

/-- The flag setters `createFinData` and `createRstData` share, down to the
empty options and the zero window. -/
def clearControl (isRst isAck isFin : Bool) (tcp : TCPHeader) : TCPHeader :=
  let tcp :=
    (((((((((tcp.setIsRST isRst).setIsACK isAck).setIsSYN false).setIsPSH
      false).setIsCWR false).setIsECE false).setIsFIN isFin).setIsNS
        false).setIsURG false)
  { tcp with options := none, windowSize := 0 }

/-- `createFinData`.  It works on the headers it is given, not on copies:
the headers of the packet it returns are what the caller's headers have
become. -/
def createFinData
    (ip : IPHeader) (tcp : TCPHeader) (ackNumber seqNumber : Int)
    (timeSender timeReplyTo : Int) : Packet :=
  let sourcePort := tcp.destinationPort
  let destPort := tcp.sourcePort
  let tcp :=
    { tcp with
      ackNumber
      sequenceNumber := seqNumber
      timeStampReplyTo := timeReplyTo
      timeStampSender := timeSender
      destinationPort := destPort
      sourcePort }
  let tcp := clearControl false true true tcp
  { ipHeader := (flipIP ip).setPayloadLength tcp.getTCPHeaderLength
    transportHeader := tcp
    data := [] }

/-- `createRstData`. -/
def createRstData
    (ipheader : IPHeader) (tcpheader : TCPHeader) (datalength : Nat) :
    Packet :=
  let ip := flipIP ipheader.clone
  let tcp := copyTCPHeader tcpheader
  let seqNumber := if 0 < tcp.ackNumber then tcp.ackNumber else 0
  let ackNumber :=
    if 0 < tcp.ackNumber then 0 else tcp.sequenceNumber + datalength
  let tcp :=
    { flipPorts tcp with ackNumber, sequenceNumber := seqNumber }
  let tcp := clearControl true false false tcp
  { ipHeader := ip.setPayloadLength tcp.getTCPHeaderLength
    transportHeader := tcp
    data := [] }

/-- `createResponseAckData`. -/
def createResponseAckData
    (ipHeader : IPHeader) (tcpheader : TCPHeader) (ackToClient : Int)
    (currentTime : Int) : Packet :=
  let ip := flipIP ipHeader.clone
  let tcp := copyTCPHeader tcpheader
  let seqNumber := tcp.ackNumber
  let tcp :=
    { flipPorts tcp with
      ackNumber := ackToClient
      sequenceNumber := seqNumber }
  let tcp :=
    (((tcp.setIsACK true).setIsSYN false).setIsPSH false).setIsFIN false
  let tcp :=
    { tcp with
      timeStampReplyTo := tcp.timeStampSender
      timeStampSender := signed32 currentTime }
  { ipHeader := ip.setPayloadLength tcp.getTCPHeaderLength
    transportHeader := tcp
    data := [] }

/-- `createResponsePacketData`. -/
def createResponsePacketData
    (ip : IPHeader) (tcp : TCPHeader) (packetData : List UInt8)
    (isPsh : Bool) (ackNumber seqNumber : Int)
    (timeSender timeReplyto : Int) : Packet :=
  let ipHeader := flipIP ip.clone
  let tcpHeader :=
    { flipPorts (copyTCPHeader tcp) with
      ackNumber
      sequenceNumber := seqNumber }
  let tcpHeader :=
    (((tcpHeader.setIsACK true).setIsSYN false).setIsPSH isPsh).setIsFIN
      false
  let tcpHeader :=
    { tcpHeader with
      timeStampSender := timeSender
      timeStampReplyTo := timeReplyto }
  { ipHeader :=
      ipHeader.setPayloadLength
        (tcpHeader.getTCPHeaderLength + packetData.length)
    transportHeader := tcpHeader
    data := packetData }

/-- `createSynAckPacketData`; `random` is the `int` the generator returns.
-/
def createSynAckPacketData
    (ip : IPHeader) (tcp : TCPHeader) (random currentTime : Int) : Packet :=
  let ipheader := flipIP ip.clone
  let tcpheader := copyTCPHeader tcp
  let ackNumber := tcpheader.sequenceNumber + 1
  let seqNumber := if random < 0 then random * -1 else random
  let tcpheader :=
    { flipPorts tcpheader with
      ackNumber
      sequenceNumber := seqNumber }
  let tcpheader := (tcpheader.setIsACK true).setIsSYN true
  let tcpheader :=
    { tcpheader with
      timeStampReplyTo := tcpheader.timeStampSender
      timeStampSender := signed32 currentTime }
  { ipHeader :=
      ipheader.setPayloadLength tcpheader.getTCPHeaderLength
    transportHeader := tcpheader
    data := [] }

end TCPPacketFactory

end LanShield.Transport
