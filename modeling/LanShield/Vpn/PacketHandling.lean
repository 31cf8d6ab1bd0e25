import LanShield.Vpn.NioThread

/-!
# The packet thread

`SessionHandler.handlePacket` on the session objects of the engine, for any
buffer.  The handling of a packet is cut where the source takes a session's
monitor or reads the table outside one: each part returns where the thread
stands next.
-/

namespace LanShield.Vpn

open LanShield.Library LanShield.Java LanShield.Transport

namespace PacketHandling

/-- `sendAck`. -/
def sendAck (segment : TcpSegment) (acceptedDataLength : Nat)
    (currentTime : Int) (id : Nat) : Running Unit := do
  let session ← readSession id
  let acknumber := session.recSequence + acceptedDataLength
  updateSession id fun session => { session with recSequence := acknumber }
  sendPacket
    (TCPPacketFactory.createResponseAckData segment.ipHeader
      segment.tcpheader acknumber currentTime)

/-- `resendAck`. -/
def resendAck (currentTime : Int) (id : Nat) : Running Unit := do
  let session ← readSession id
  match session.lastIpHeader, session.lastTcpHeader with
  | some ipHeader, some tcpheader =>
      sendPacket
        (TCPPacketFactory.createResponseAckData ipHeader tcpheader
          session.recSequence currentTime)
  | _, _ => throw .nullPointer

/-- `sendAckForDisorder`. -/
def sendAckForDisorder (segment : TcpSegment) (acceptedDataLength : Nat)
    (currentTime : Int) : Running Unit :=
  let ackNumber := segment.tcpheader.sequenceNumber + acceptedDataLength
  sendPacket
    (TCPPacketFactory.createResponseAckData segment.ipHeader
      segment.tcpheader ackNumber currentTime)

/-- `sendFinAck`. -/
def sendFinAck (segment : TcpSegment) (currentTime : Int) (id : Nat) :
    Running Unit := do
  let ack := segment.tcpheader.sequenceNumber
  let seq := segment.tcpheader.ackNumber
  sendPacket
    (TCPPacketFactory.createFinAckData segment.ipHeader segment.tcpheader
      ack seq true false currentTime)
  updateSession id fun session =>
    { session with sendNext := seq + 1, closingConnection := false }

/-- The packet `ackFinAck` writes. -/
def writeFinAck (segment : TcpSegment) (currentTime : Int) :
    Running Unit :=
  sendPacket
    (TCPPacketFactory.createFinAckData segment.ipHeader segment.tcpheader
      (segment.tcpheader.sequenceNumber + 1) segment.tcpheader.ackNumber
      true true currentTime)

/-- `ackFinAck` for a session. -/
def ackFinAck (segment : TcpSegment) (currentTime : Int) (id : Nat) :
    Running Unit := do
  writeFinAck segment currentTime
  cancelKey id
  closeSessionOf id
  setAbortingConnection id

/-- `sendLastAck`. -/
def sendLastAck (segment : TcpSegment) (currentTime : Int) :
    Running Unit :=
  sendPacket
    (TCPPacketFactory.createResponseAckData segment.ipHeader
      segment.tcpheader (segment.tcpheader.sequenceNumber + 1) currentTime)

/-- `sendRstPacket`. -/
def sendRstPacket (segment : TcpSegment) : Running Unit :=
  sendPacket
    (TCPPacketFactory.createRstData segment.ipHeader segment.tcpheader
      segment.data.remaining)

/-- `pushDataToDestination`. -/
def pushDataToDestination (tcp : TCPHeader) (currentTime : Int)
    (id : Nat) : Running Unit := do
  updateSession id fun session =>
    { session with
      isDataForSendingReady := true
      timestampReplyto := tcp.timeStampSender
      timestampSender := signed32 currentTime }
  subscribeKey .write id

/-- `resetTCPConnection` inside the monitor of the segment's session. -/
def resetTCPConnection (segment : TcpSegment) : Running Unit := do
  let session ← getSession segment.sessionKey
  match session with
  | none => return
  | some id => setAbortingConnection id

/-- The first lines: last headers and advertised window. -/
def noteSegment (segment : TcpSegment) (session : Session) : Session :=
  { session with
    lastIpHeader := some segment.ipHeader
    lastTcpHeader := some segment.tcpheader
    clientWindow :=
      shiftLeft64 segment.tcpheader.unsignedWindow
        session.clientWindowScale }

/-- The branch for a segment with data. -/
def handleData (segment : TcpSegment) (currentTime : Int) (id : Nat) :
    Running Unit := do
  let session ← readSession id
  if SessionHandler.Accepts session segment.tcpheader.sequenceNumber then do
    let addedLength ← addClientData segment.data id
    sendAck segment addedLength currentTime id
  else
    sendAckForDisorder segment segment.data.remaining currentTime

/-- The branch for a segment without data. -/
def handleAck (segment : TcpSegment) (currentTime : Int) (id : Nat) :
    Running Unit := do
  updateSession id (SessionHandler.acceptAck segment.tcpheader currentTime)
  let session ← readSession id
  if session.closingConnection then
    sendFinAck segment currentTime id
  else if session.isAckedToFin && !segment.tcpheader.isFIN then
    closeSession segment.sessionKey
  else
    return

/-- The branch on the flags PSH, FIN and RST. -/
def handleFlags (segment : TcpSegment) (currentTime : Int) (id : Nat) :
    Running Unit :=
  if segment.tcpheader.isPSH then
    pushDataToDestination segment.tcpheader currentTime id
  else if segment.tcpheader.isFIN then
    ackFinAck segment currentTime id
  else if segment.tcpheader.isRST then
    resetTCPConnection segment
  else
    return

/-- The end of the block. -/
def finishSegment (id : Nat) : Running Unit := do
  let session ← readSession id
  if session.abortingConnection then
    return
  else do
    keepSessionAlive id
    NioThread.pumpToClient id

/-- The block down to the branch on the flags. -/
def handleBody (segment : TcpSegment) (currentTime : Int) (id : Nat) :
    Running Unit := do
  updateSession id (noteSegment segment)
  if 0 < segment.data.remaining then
    handleData segment currentTime id
  else
    handleAck segment currentTime id

/-- The monitor block of `handleTCPPacket`. -/
def handleSessionSegment (segment : TcpSegment) (currentTime : Int)
    (id : Nat) : Running Unit := do
  handleBody segment currentTime id
  handleFlags segment currentTime id
  finishSegment id

/-- The last headers of a datagram's session. -/
def noteDatagram (datagram : UdpDatagram) (session : Session) : Session :=
  { session with
    lastIpHeader := some datagram.ipHeader
    lastUdpHeader := some datagram.udpheader }

/-- The monitor block of `handleUDPPacket`. -/
def handleDatagram (datagram : UdpDatagram) (newSession : Bool)
    (answers : Answers) (id : Nat) : Running Unit := do
  updateSession id (noteDatagram datagram)
  let _ ← addClientData datagram.data id
  updateSession id fun session =>
    { session with isDataForSendingReady := true }
  if newSession then do
    NioThread.registerSession answers id
    subscribeKey .write id
  else
    subscribeKey .write id

/-- The fields `replySynAck` gives a new session. -/
def populateSession (syn : TcpSegment) (tcpheader : TCPHeader)
    (session : Session) : Session :=
  { session with
    maxSegmentSize := tcpheader.maxSegmentSize
    sendUnack := tcpheader.sequenceNumber
    sendNext := tcpheader.sequenceNumber + 1
    recSequence := tcpheader.ackNumber
    clientWindowScale := syn.tcpheader.windowScale
    clientWindow := syn.tcpheader.unsignedWindow
    lastIpHeader := some syn.ipHeader
    lastTcpHeader := some syn.tcpheader }

/-- The monitor block of `replySynAck`. -/
def populate (syn : TcpSegment) (packet : Packet) (data : List UInt8)
    (answers : Answers) (id : Nat) : Running Unit := do
  updateSession id (populateSession syn packet.transportHeader)
  NioThread.registerSession answers id
  write data

/-- The answer to a segment with ACK when the table has no session for it.
-/
def handleUnknown (segment : TcpSegment) (currentTime : Int) :
    Running Unit :=
  if segment.tcpheader.isFIN then
    sendLastAck segment currentTime
  else if segment.tcpheader.isRST then
    return
  else
    sendRstPacket segment

/-- `handleTCPPacket` down to what the table has for the segment.  For a SYN
that is the packet `replySynAck` builds first. -/
def handleTCPPacket (segment : TcpSegment) (answers : Answers) :
    Running PacketThread :=
  if segment.tcpheader.isSYN then do
    let packet :=
      TCPPacketFactory.createSynAckPacketData segment.ipHeader
        segment.tcpheader answers.random answers.currentTime
    let data ← buildPacket packet
    return .createTcp segment packet data
  else if segment.tcpheader.isACK then do
    let session ← getSession segment.sessionKey
    match session with
    | some id => return .enterTcp segment id
    | none => do
        handleUnknown segment answers.currentTime
        return .idle
  else if segment.tcpheader.isFIN then do
    let session ← getSession segment.sessionKey
    match session with
    | some id => return .keepFin id
    | none => do
        writeFinAck segment answers.currentTime
        return .idle
  else if segment.tcpheader.isRST then do
    let session ← getSession segment.sessionKey
    match session with
    | some id => return .abort id
    | none => return .idle
  else
    return .idle

/-- `handleUDPPacket` down to what the table has for the datagram. -/
def handleUDPPacket (datagram : UdpDatagram) : Running PacketThread := do
  let session ← getSession datagram.sessionKey
  match session with
  | some id => return .enterUdp datagram false id
  | none => return .createUdp datagram

/-- What a parser comes to, with the buffer behind the header. -/
def parsed {Header : Type} (header : Reading Header) (stream : ByteBuffer) :
    Running (Header × ByteBuffer) :=
  match header stream with
  | .ok result => return result
  | .error exception => throw (.java exception)

/-- `handlePacket`.  ICMP reaches no session. -/
def handlePacket (stream : ByteBuffer) (answers : Answers) :
    Running PacketThread := do
  let (ipHeader, stream) ← parsed createIPHeader stream.rewind
  match ipHeader.getProtocol with
  | some .tcp => do
      let (tcpheader, data) ← parsed TCPPacketFactory.createTCPHeader stream
      handleTCPPacket { ipHeader, tcpheader, data } answers
  | some .udp => do
      let (udpheader, data) ← parsed UDPPacketFactory.createUDPHeader stream
      handleUDPPacket { ipHeader, udpheader, data }
  | some .icmp | some .unknown | none => return .idle

/-- `replySynAck` down to what `createNewTCPSession` returns. -/
def createTcp (syn : TcpSegment) (packet : Packet) (data : List UInt8)
    (answers : Answers) : Running PacketThread := do
  let id ←
    createNewTCPSession syn.sessionKey syn.ipHeader.getTotalLength answers
  let session ← readSession id
  if session.lastIpHeader.isSome then
    return .resendAck id
  else
    return .populate syn packet data id

/-- What the thread does next, and where it stands then. -/
def proceed (answers : Answers) : PacketThread → Running PacketThread
  | .idle => return .idle
  | .createUdp datagram => do
      let id ←
        createNewUDPSession datagram.sessionKey
          datagram.ipHeader.getTotalLength answers
      return .enterUdp datagram true id
  | .enterUdp datagram newSession id => do
      handleDatagram datagram newSession answers id
      return .keepUdp id
  | .keepUdp id => do
      keepSessionAlive id
      return .idle
  | .createTcp syn packet data => createTcp syn packet data answers
  | .resendAck id => do
      resendAck answers.currentTime id
      return .idle
  | .populate syn packet data id => do
      populate syn packet data answers id
      return .idle
  | .enterTcp segment id => do
      handleSessionSegment segment answers.currentTime id
      return .idle
  | .keepFin id => do
      keepSessionAlive id
      return .idle
  | .abort id => do
      setAbortingConnection id
      return .idle

/-- One step of the thread.  An exception ends the handling of the packet
and is swallowed by the loop that called `handlePacket`. -/
def runPacketStep (program : Running PacketThread) (engine : Engine) :
    Engine :=
  match program.outcome engine with
  | (.ok next, after) => { after with packetThread := next }
  | (.error _, after) => { after with packetThread := .idle }

end PacketHandling

inductive EngineEvent where
  | handlePacket (stream : ByteBuffer) (answers : Answers)
  | proceed (answers : Answers)
  | select (ready : SocketNIODataService.Readiness) (id : Nat)

/-- A step of either thread.  A packet waits for the one before it, and the
selector only has keys of registered channels. -/
def engineStep (engine : Engine) : EngineEvent → Engine
  | .handlePacket stream answers =>
      if engine.packetThread = .idle then
        PacketHandling.runPacketStep
          (PacketHandling.handlePacket stream answers) engine
      else
        engine
  | .proceed answers =>
      PacketHandling.runPacketStep
        (PacketHandling.proceed answers engine.packetThread) engine
  | .select ready id =>
      if engine.nioThread = .running ∧
          (engine.sessions id).isRegistered = true then
        NioThread.runSelectedKey ready id engine
      else
        engine

/-- The engine before its first packet. -/
def Engine.start (packetIds : Nat → Int) : Engine where
  sessions := fun _ => newUdpObject ⟨.udp, ⟨[]⟩, 0, ⟨[]⟩, 0⟩
  allocated := 0
  table := fun _ => none
  closed := []
  written := []
  packetIds := packetIds
  packetThread := .idle
  nioThread := .running

/-- Nothing fails, and a TCP channel is connected at once. -/
def quickAnswers : Answers where
  random := 1
  currentTime := 0
  connected := true
  failure := none

end LanShield.Vpn
