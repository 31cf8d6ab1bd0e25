import LanShield.Vpn.SessionManager
import LanShield.Vpn.SocketNIODataService

/-!
# The NIO thread

`SocketChannelReader`, `SocketChannelWriter` and `SocketNIODataService` on
the session objects of the engine, for both kinds of channel.  A builder
throws where it cannot build its array, and what it throws ends the method
that called it.
-/

namespace LanShield.Vpn

open LanShield.Library LanShield.Java LanShield.Transport

/-- `DataConst.MTU`. -/
def mtu : Nat :=
  1500

namespace NioThread

open SocketNIODataService

/-- One round of the loop of `pumpToClient`, for the bytes it has taken. -/
def sendSegment (ipHeader : IPHeader) (tcpheader : TCPHeader)
    (packetBody : List UInt8) (id : Nat) : Running Unit := do
  let before ← readSession id
  updateSession id fun session =>
    { session with sendNext := session.sendNext + packetBody.length }
  let session ← readSession id
  let psh := session.hasReceivedLastSegment && !session.hasReceivedData
  sendPacket
    (TCPPacketFactory.createResponsePacketData ipHeader tcpheader packetBody
      psh session.recSequence (unsigned32 before.sendNext)
      session.timestampSender session.timestampReplyto)

/-- The loop of `pumpToClient`. -/
def pumpStaged (ipHeader : IPHeader) (tcpheader : TCPHeader)
    (segMax : Int) (id : Nat) : (rounds : Nat) → Running Unit
  | 0 => return
  | rounds + 1 => do
      let session ← readSession id
      if session.hasReceivedData then
        let inFlight := unsigned32 (session.sendNext - session.sendUnack)
        let room := session.clientWindow - inFlight
        if room ≤ 0 then
          return
        else do
          let chunk := (min room segMax).toNat
          let packetBody := (session.getReceivedData chunk).1
          updateSession id fun session => (session.getReceivedData chunk).2
          if packetBody.isEmpty then
            return
          else do
            sendSegment ipHeader tcpheader packetBody id
            pumpStaged ipHeader tcpheader segMax id rounds
      else
        return

/-- The packet `sendFin` builds. -/
def finPacket (ipHeader : IPHeader) (tcpheader : TCPHeader)
    (session : Session) : Packet :=
  TCPPacketFactory.createFinData ipHeader tcpheader session.recSequence
    session.sendNext session.timestampSender session.timestampReplyto

/-- The headers of a packet become the last headers. -/
def takeHeaders (packet : Packet) (session : Session) : Session :=
  { session with
    lastIpHeader := some packet.ipHeader
    lastTcpHeader := some packet.transportHeader }

/-- `sendFin`, whose builder sets the fields of the session's last headers
before it serialises them. -/
def sendFin (id : Nat) : Running Unit := do
  let session ← readSession id
  match session.lastIpHeader, session.lastTcpHeader with
  | some ipHeader, some tcpheader => do
      let packet := finPacket ipHeader tcpheader session
      updateSession id (takeHeaders packet)
      sendPacket packet
  | _, _ => throw .nullPointer

/-- What `pumpToClient` does behind its loop. -/
def afterPump (id : Nat) : Running Unit := do
  let session ← readSession id
  if session.upstreamEof && !session.hasReceivedData &&
      !session.abortingConnection then do
    sendFin id
    setAbortingConnection id
  else if !session.upstreamEof &&
      decide (session.receivingStreamSize < SocketChannelReader.stagingCap)
      then
    subscribeKey .read id
  else
    return

/-- `pumpToClient`. -/
def pumpToClient (id : Nat) : Running Unit := do
  let session ← readSession id
  match session.lastIpHeader, session.lastTcpHeader with
  | some ipHeader, some tcpheader => do
      pumpStaged ipHeader tcpheader (SocketChannelReader.maxSegment session)
        id session.receivingStreamSize
      afterPump id
  | _, _ => return

/-- `sendToRequester`. -/
def sendToRequester (chunk : Chunk) (id : Nat) : Running Unit := do
  updateSession id fun session =>
    { session with
      hasReceivedLastSegment :=
        decide
          (chunk.bytes.length < maxReceiveBufferSize) }.addReceivedData
      chunk.bytes
  pumpToClient id

/-- What `readTCP` does when the upstream stream has ended. -/
def endUpstream (id : Nat) : Running Unit := do
  updateSession id fun session => { session with upstreamEof := true }
  pumpToClient id

/-- The catch clauses of `readTCP` and `readUDP`, which differ in the
exceptions `logged` but not aborted for. -/
def readFailed (logged : SocketException → Bool)
    (exception : SocketException) (id : Nat) : Running Unit :=
  if logged exception then return else setAbortingConnection id

/-- The exceptions `readTCP` only logs. -/
def loggedByTCP : SocketException → Bool
  | .notYetConnected | .closedByInterrupt | .closedChannel => true
  | .other => false

/-- The exceptions `readUDP` only logs. -/
def loggedByUDP : SocketException → Bool
  | .notYetConnected => true
  | .closedByInterrupt | .closedChannel | .other => false

/-- The loop of `readTCP`. -/
def readTCPLoop (id : Nat) :
    List ReadOutcome → SocketChannel → Running Nat
  | outcomes, channel => do
      let session ← readSession id
      if SocketChannelReader.stagingCap ≤ session.receivingStreamSize then do
        unsubscribeKey .read id
        return 0
      else
        match outcomes with
        | [] => return 0
        | outcome :: later => do
            updateSocket id fun channel => (channel.read outcome).2
            match (channel.read outcome).1 with
            | .data chunk => do
                sendToRequester chunk id
                let bytesRead ←
                  readTCPLoop id later (channel.read outcome).2
                return chunk.bytes.length + bytesRead
            | .nothing => return 0
            | .endOfStream => do
                endUpstream id
                return 0
            | .failure exception => do
                readFailed loggedByTCP exception id
                return 0

/-- `readTCP`. -/
def readTCP (outcomes : List ReadOutcome) (channel : SocketChannel)
    (id : Nat) : Running Nat := do
  let session ← readSession id
  if session.abortingConnection then
    return 0
  else
    readTCPLoop id outcomes channel

/-- `UDPPacketFactory.createResponsePacket` on the last headers of the
session. -/
def buildUdpResponse (data : List UInt8) (id : Nat) :
    Running (List UInt8) := do
  let session ← readSession id
  match session.lastIpHeader, session.lastUdpHeader with
  | some ip, some udp => do
      let packetId ← getPacketId
      built
        ((UDPPacketFactory.createResponsePacket packetId data
          { ip, udp, ipHeader := ip }).map Prod.fst)
  | _, _ => throw .nullPointer

/-- A response is written unless the link cannot carry it; the number of
bytes that count as read. -/
def sendUdpResponse (data : List UInt8) (id : Nat) : Running Nat := do
  let packetData ← buildUdpResponse data id
  if mtu < packetData.length then
    return 0
  else do
    write packetData
    return data.length

/-- The loop of `readUDP`.  A datagram channel reports neither the end of a
stream nor fewer bytes than the datagram has, up to the buffer's size. -/
def readUDP (id : Nat) : List ReadOutcome → Running Nat
  | [] => return 0
  | outcome :: later => do
      let session ← readSession id
      if session.abortingConnection then
        return 0
      else
        match outcome with
        | .data chunk => do
            updateDatagram id fun channel =>
              { channel with received := channel.received ++ [chunk.bytes] }
            let counted ← sendUdpResponse chunk.bytes id
            let bytesRead ← readUDP id later
            return counted + bytesRead
        | .nothing | .endOfStream => return 0
        | .failure exception => do
            readFailed loggedByUDP exception id
            return 0

def closeIfConnected (id : Nat) : Running Unit := do
  let object ← readObject id
  if object.channel.isConnected then
    modify (Engine.updateObject id SessionObject.closeChannel)
  else
    return

/-- The end of `read` and of `write` for an aborting session. -/
def removeAborted (id : Nat) : Running Unit := do
  let session ← readSession id
  if session.abortingConnection then do
    cancelKey id
    closeIfConnected id
    closeSessionOf id
  else
    return

/-- The new subscription in `read`. -/
def resubscribe (id : Nat) : Running Unit := do
  let object ← readObject id
  if !object.channel.isSocket ||
      decide
        (object.session.receivingStreamSize < SocketChannelReader.stagingCap)
      then
    subscribeKey .read id
  else
    return

/-- The branch of `read` on the kind of channel. -/
def readChannel (outcomes : List ReadOutcome) (id : Nat) : Running Nat := do
  let object ← readObject id
  match object.channel with
  | .socket channel => readTCP outcomes channel id
  | .datagram _ => readUDP id outcomes

/-- `SocketChannelReader.read`. -/
def read (outcomes : List ReadOutcome) (id : Nat) : Running Nat := do
  let bytesRead ← readChannel outcomes id
  resubscribe id
  removeAborted id
  return bytesRead

/-- All is written: the key waits for no `OP_WRITE` any more. -/
def allWritten (id : Nat) : Running Unit := do
  updateSession id fun session =>
    { session with isDataForSendingReady := false }
  unsubscribeKey .write id

/-- What `writePendingData` does with the buffer behind its loop. -/
def settleBuffer (buffer : ByteBuffer) (id : Nat) : Running Unit :=
  if buffer.hasRemaining then do
    updateSession id fun session => (session.setSendingData buffer.compact).2
    subscribeKey .write id
  else
    allWritten id

/-- `writePendingData`, with the exception of the channel as a value. -/
def writePendingData (outcomes : List WriteOutcome)
    (channel : SocketChannel) (id : Nat) :
    Running (Except SocketException Nat) := do
  let session ← readSession id
  if session.hasDataToSend then do
    let (data, _) := session.getSendingData
    updateSession id fun session => session.getSendingData.2
    let (buffer, _, thrown) :=
      SocketChannelWriter.writeLoop outcomes (ByteBuffer.wrap data) channel
    updateSocket id fun channel =>
      (SocketChannelWriter.writeLoop outcomes (ByteBuffer.wrap data)
        channel).2.1
    match thrown with
    | some exception => return .error exception
    | none => do
        settleBuffer buffer id
        return .ok buffer.position
  else
    return .ok 0

/-- The `IOException` clause of `writeTCP`. -/
def writeFailed (id : Nat) : Running Unit := do
  let session ← readSession id
  match session.lastIpHeader, session.lastTcpHeader with
  | some ipHeader, some tcpheader => do
      sendPacket (TCPPacketFactory.createRstData ipHeader tcpheader 0)
      setAbortingConnection id
  | _, _ => throw .nullPointer

/-- `writeTCP`. -/
def writeTCP (outcomes : List WriteOutcome) (channel : SocketChannel)
    (id : Nat) : Running Nat := do
  let result ← writePendingData outcomes channel id
  match result with
  | .ok amountBytes => return amountBytes
  | .error .notYetConnected => return 0
  | .error _ => do
      writeFailed id
      return 0

/-- One `channel.write` of a datagram takes all of it or nothing. -/
def writeDatagram (outcomes : List WriteOutcome) (datagram : List UInt8)
    (id : Nat) : Running (Except SocketException Nat) :=
  match outcomes with
  | .failure exception :: _ => return .error exception
  | .accepted (_ + 1) :: _ => do
      updateDatagram id fun channel =>
        { channel with sent := channel.sent ++ [datagram] }
      return .ok datagram.length
  | .accepted 0 :: _ | [] => return .ok 0

/-- `writePendingUDPData`, with the exception of the channel as a value. -/
def writePendingUDPData (outcomes : List WriteOutcome) (id : Nat) :
    Running (Except SocketException Nat) := do
  let session ← readSession id
  match session.sendingDatagrams with
  | [] => do
      allWritten id
      return .ok 0
  | datagram :: queued => do
      updateSession id fun session =>
        { session with sendingDatagrams := queued }
      let result ← writeDatagram outcomes datagram id
      match result with
      | .error exception => return .error exception
      | .ok 0 => do
          updateSession id fun session =>
            { session with
              sendingDatagrams := datagram :: session.sendingDatagrams }
          subscribeKey .write id
          return .ok 0
      | .ok bytesWritten =>
          if queued.isEmpty then do
            allWritten id
            return .ok bytesWritten
          else do
            subscribeKey .write id
            return .ok bytesWritten

/-- `writeUDP`. -/
def writeUDP (outcomes : List WriteOutcome) (id : Nat) :
    Running Nat := do
  let result ← writePendingUDPData outcomes id
  match result with
  | .ok amountBytes => return amountBytes
  | .error _ => do
      setAbortingConnection id
      return 0

/-- The branch of `write` on the kind of channel. -/
def writeChannel (outcomes : List WriteOutcome) (id : Nat) :
    Running Nat := do
  let object ← readObject id
  match object.channel with
  | .socket channel => writeTCP outcomes channel id
  | .datagram _ => writeUDP outcomes id

/-- `SocketChannelWriter.write`. -/
def writeUpstream (outcomes : List WriteOutcome) (id : Nat) :
    Running Nat := do
  let bytesWritten ← writeChannel outcomes id
  removeAborted id
  return bytesWritten

/-- A session object with a key of its channel. -/
def registered (object : SessionObject) : SessionObject :=
  { object with
    session :=
      { object.session with
        selectionkey :=
          { isValid := true
            interestRead := object.channel.isConnected
            interestWrite := false
            interestConnect := !object.channel.isConnected } }
    isRegistered := true }

/-- `registerSession`, which throws for a closed channel. -/
def registerSession (answers : Answers) (id : Nat) : Running Unit := do
  platformCall .registerSession answers
  let object ← readObject id
  if object.channel.isOpen then
    modify (Engine.updateObject id registered)
  else
    throw .io

/-- `processSelectorRead`. -/
def processSelectorRead (ready : Readiness) (id : Nat) : Running Unit := do
  let session ← readSession id
  if session.selectionkey.isValid && ready.isReadable then do
    let bytesRead ← read ready.reads id
    updateSession id fun session =>
      { session with flow := session.flow.increaseIngress 1 bytesRead }
  else
    return

/-- `processPendingWrite`. -/
def processPendingWrite (ready : Readiness) (id : Nat) : Running Unit := do
  let session ← readSession id
  if !session.hasDataToSend || !session.isDataForSendingReady then
    unsubscribeKey .write id
  else if session.selectionkey.isValid && ready.isWritable then do
    unsubscribeKey .write id
    let bytesWritten ← writeUpstream ready.writes id
    updateSession id fun session =>
      { session with flow := session.flow.increaseEgress 1 bytesWritten }
  else
    return

/-- `processConnectedSelection`. -/
def processConnectedSelection (ready : Readiness) (id : Nat) :
    Running Unit := do
  unsubscribeKey .connect id
  subscribeKey .read id
  processSelectorRead ready id
  processPendingWrite ready id

/-- `finishConnect` has returned `connected`. -/
def connectAnswered (connected : Bool) (object : SessionObject) :
    SessionObject :=
  { object with
    channel :=
      object.channel.mapSocket (SocketChannel.finishConnect (some connected))
    session :=
      { object.session with
        isConnected := connected
        flow :=
          { object.session.flow with
            tcpEstablishedReached :=
              object.session.flow.tcpEstablishedReached || connected } } }

/-- The part of `processSelectionKey` for a session that is not connected
yet.  A `finishConnect` that throws closes the channel. -/
def finishConnecting (ready : Readiness) (channel : SocketChannel)
    (id : Nat) : Running Unit :=
  if channel.isConnectionPending then
    match ready.connected with
    | none => do
        modify (Engine.updateObject id SessionObject.closeChannel)
        throw .io
    | some connected =>
        modify (Engine.updateObject id (connectAnswered connected))
  else
    throw
      (.java
        (.illegalState
          "TCP channels must either be connected or pending connection"))

/-- The branch of `processSelectionKey` for a connectable socket channel. -/
def processConnectable (ready : Readiness) (id : Nat) : Running Unit := do
  let object ← readObject id
  match object.channel with
  | .socket channel =>
      if !object.session.isConnected && ready.isConnectable then
        finishConnecting ready channel id
      else
        return
  | .datagram _ => return

/-- `processSelectionKey`. -/
def processSelectionKey (ready : Readiness) (id : Nat) : Running Unit := do
  let session ← readSession id
  if session.selectionkey.isValid then do
    processConnectable ready id
    let object ← readObject id
    if object.channel.isConnected then
      processConnectedSelection ready id
    else
      return
  else
    return

/-- The body of the loop of `runTask` for the key of one session: an
`IOException` cancels the key, any other exception ends the thread. -/
def runSelectedKey (ready : Readiness) (id : Nat) (engine : Engine) :
    Engine :=
  match (processSelectionKey ready id).outcome engine with
  | (.ok _, after) => after
  | (.error .io, after) =>
      after.updateObject id (SessionObject.updateSession Session.cancelKey)
  | (.error exception, after) =>
      { after with nioThread := .dead exception }

end NioThread

end LanShield.Vpn
