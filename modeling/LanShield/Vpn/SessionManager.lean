import Mathlib.Logic.Function.Basic
import LanShield.Library.Programs
import LanShield.Vpn.SessionHandler

/-!
# `SessionManager` and the state of the engine

All session objects, the table of the live ones, and where the two threads
stand.  An object is known by its number, so two sessions of one 5-tuple are
different objects.  A method that may throw is a `Running`: what it has
written before the throw stays.
-/

namespace LanShield.Vpn

open LanShield.Library LanShield.Java LanShield.Transport

/-- The 5-tuple `Session.getSessionKey` makes its string of. -/
structure SessionKey where
  protocol : SessionProtocol
  destIp : IPAddress
  destPort : Nat
  sourceIp : IPAddress
  sourcePort : Nat
  deriving DecidableEq, Repr

/-- `getSessionKey` of a session. -/
def Session.getSessionKey (session : Session) : SessionKey where
  protocol := session.protocol
  destIp := session.destIp
  destPort := session.destPort
  sourceIp := session.sourceIp
  sourcePort := session.sourcePort

/-- A connected `DatagramChannel`, with the datagrams it has returned and
taken so far. -/
structure DatagramChannel where
  isOpen : Bool
  isConnected : Bool
  received : List (List UInt8)
  sent : List (List UInt8)
  deriving DecidableEq, Repr

/-- The two kinds of `AbstractSelectableChannel` a session can have. -/
inductive SelectableChannel where
  | socket (channel : SocketChannel)
  | datagram (channel : DatagramChannel)
  deriving DecidableEq, Repr

namespace SelectableChannel

def isSocket : SelectableChannel → Bool
  | socket _ => true
  | datagram _ => false

def isOpen : SelectableChannel → Bool
  | socket channel => channel.isOpen
  | datagram channel => channel.isOpen

def isConnected : SelectableChannel → Bool
  | socket channel => channel.isConnected
  | datagram channel => channel.isConnected

def mapSocket (update : SocketChannel → SocketChannel) :
    SelectableChannel → SelectableChannel
  | socket channel => socket (update channel)
  | datagram channel => datagram channel

def mapDatagram (update : DatagramChannel → DatagramChannel) :
    SelectableChannel → SelectableChannel
  | socket channel => socket channel
  | datagram channel => datagram (update channel)

def close : SelectableChannel → SelectableChannel
  | socket channel => socket channel.close
  | datagram channel =>
      datagram { channel with isOpen := false, isConnected := false }

end SelectableChannel

/-- A session with its channel.  Until the channel is registered with the
selector the session has no key. -/
structure SessionObject where
  session : Session
  channel : SelectableChannel
  isRegistered : Bool
  deriving DecidableEq, Repr

namespace SessionObject

def updateSession (update : Session → Session) (object : SessionObject) :
    SessionObject :=
  { object with session := update object.session }

/-- Closing a channel also cancels its key. -/
def closeChannel (object : SessionObject) : SessionObject :=
  { object with
    session := object.session.cancelKey
    channel := object.channel.close }

end SessionObject

/-- A client packet behind its parsed IP and TCP headers: `data` is the
packet buffer with its position behind them. -/
structure TcpSegment where
  ipHeader : IPHeader
  tcpheader : TCPHeader
  data : ByteBuffer
  deriving DecidableEq

/-- The same for UDP. -/
structure UdpDatagram where
  ipHeader : IPHeader
  udpheader : UDPHeader
  data : ByteBuffer
  deriving DecidableEq

def TcpSegment.sessionKey (segment : TcpSegment) : SessionKey where
  protocol := .tcp
  destIp := segment.ipHeader.getDestinationIP
  destPort := segment.tcpheader.destinationPort
  sourceIp := segment.ipHeader.getSourceIP
  sourcePort := segment.tcpheader.sourcePort

def UdpDatagram.sessionKey (datagram : UdpDatagram) : SessionKey where
  protocol := .udp
  destIp := datagram.ipHeader.getDestinationIP
  destPort := datagram.udpheader.destinationPort
  sourceIp := datagram.ipHeader.getSourceIP
  sourcePort := datagram.udpheader.sourcePort

/-- What the packet thread does next.  It stands between two accesses to
what it shares with the NIO thread: the table, or a session's monitor. -/
inductive PacketThread where
  | idle
  | createUdp (datagram : UdpDatagram)
  | enterUdp (datagram : UdpDatagram) (newSession : Bool) (session : Nat)
  | keepUdp (session : Nat)
  | createTcp (syn : TcpSegment) (packet : Packet) (data : List UInt8)
  | resendAck (session : Nat)
  | populate (syn : TcpSegment) (packet : Packet) (data : List UInt8)
      (session : Nat)
  | enterTcp (segment : TcpSegment) (session : Nat)
  | keepFin (session : Nat)
  | abort (session : Nat)
  deriving DecidableEq

/-- The exceptions that leave the methods of the engine. -/
inductive ThreadException where
  | java (exception : JavaException)
  | nullPointer
  | io
  deriving DecidableEq, Repr

inductive NioThread where
  | running
  | dead (exception : ThreadException)
  deriving DecidableEq, Repr

/-- `sessions` gives every session object created so far, and `allocated`
their number.  `closed` is the history of the objects `closeSession` has
removed, `written` what `ClientPacketWriter.write` has been handed, and
`packetIds` the numbers `PacketUtil.getPacketId` will hand out for the
arrays still to be built. -/
structure Engine where
  sessions : Nat → SessionObject
  allocated : Nat
  table : SessionKey → Option Nat
  closed : List Nat
  written : List (List UInt8)
  packetIds : Nat → Int
  packetThread : PacketThread
  nioThread : NioThread

abbrev Running :=
  Program Engine ThreadException

namespace Engine

def updateObject (id : Nat) (update : SessionObject → SessionObject)
    (engine : Engine) : Engine :=
  { engine with
    sessions :=
      Function.update engine.sessions id (update (engine.sessions id)) }

def getSessionKey (engine : Engine) (id : Nat) : SessionKey :=
  (engine.sessions id).session.getSessionKey

/-- `SessionManager.keepSessionAlive`. -/
def keepSessionAlive (id : Nat) (engine : Engine) : Engine :=
  { engine with
    table :=
      Function.update engine.table (engine.getSessionKey id) (some id) }

/-- `SessionManager.closeSession`. -/
def closeSession (key : SessionKey) (engine : Engine) : Engine :=
  match engine.table key with
  | none => engine
  | some removed =>
      { engine.updateObject removed SessionObject.closeChannel with
        table := Function.update engine.table key none
        closed := engine.closed ++ [removed] }

/-- A new session with the channel opened for it. -/
def allocate (object : SessionObject) (engine : Engine) : Engine :=
  { engine with
    sessions := Function.update engine.sessions engine.allocated object
    allocated := engine.allocated + 1 }

end Engine

def readObject (id : Nat) : Running SessionObject := do
  let engine ← get
  return engine.sessions id

def readSession (id : Nat) : Running Session := do
  let engine ← get
  return (engine.sessions id).session

def updateSession (id : Nat) (update : Session → Session) : Running Unit :=
  modify (Engine.updateObject id (SessionObject.updateSession update))

def updateSocket (id : Nat) (update : SocketChannel → SocketChannel) :
    Running Unit :=
  modify
    (Engine.updateObject id fun object =>
      { object with channel := object.channel.mapSocket update })

def updateDatagram (id : Nat) (update : DatagramChannel → DatagramChannel) :
    Running Unit :=
  modify
    (Engine.updateObject id fun object =>
      { object with channel := object.channel.mapDatagram update })

/-- The methods of `Session` that synchronise on its selection key. -/
def updateKey (id : Nat) (update : Session → Session) : Running Unit := do
  let object ← readObject id
  if object.isRegistered then
    updateSession id update
  else
    throw .nullPointer

def cancelKey (id : Nat) : Running Unit :=
  updateKey id Session.cancelKey

def subscribeKey (op : SelectionOp) (id : Nat) : Running Unit :=
  updateKey id (Session.subscribeKey op)

def unsubscribeKey (op : SelectionOp) (id : Nat) : Running Unit :=
  updateKey id (Session.unsubscribeKey op)

def setAbortingConnection (id : Nat) : Running Unit :=
  updateSession id fun session => { session with abortingConnection := true }

/-- `PacketUtil.getPacketId`. -/
def getPacketId : Running Int := do
  let engine ← get
  set { engine with packetIds := fun index => engine.packetIds (index + 1) }
  return engine.packetIds 0

/-- A call of `ClientPacketWriter.write`, which drops a packet that is longer
than `MAX_WRITE_PACKET_SIZE`. -/
def write (data : List UInt8) : Running Unit :=
  modify fun engine => { engine with written := engine.written ++ [data] }

/-- What a builder comes to, which may be an exception. -/
def built (bytes : Except JavaException (List UInt8)) :
    Running (List UInt8) :=
  match bytes with
  | .ok data => return data
  | .error exception => throw (.java exception)

/-- The array of a packet. -/
def buildPacket (packet : Packet) : Running (List UInt8) := do
  let packetId ← getPacketId
  built (packet.getBuffer packetId)

/-- Build a packet and write it to the client. -/
def sendPacket (packet : Packet) : Running Unit := do
  let data ← buildPacket packet
  write data

/-- The calls that can fail while a session is opened. -/
inductive OpeningCall where
  | openChannel
  | configureChannel
  | connect
  | insertFlow
  | registerSession
  deriving DecidableEq, Repr

/-- What the platform answers while the packet thread takes one step: the
clock, the random generator, whether a TCP channel is connected at once,
and the call that fails, if one does. -/
structure Answers extends SessionHandler.Opening where
  failure : Option OpeningCall
  deriving DecidableEq, Repr

/-- A call of the platform, which fails when the platform says so. -/
def platformCall (call : OpeningCall) (answers : Answers) : Running Unit :=
  if answers.failure = some call then throw .io else return

def keepSessionAlive (id : Nat) : Running Unit :=
  modify (Engine.keepSessionAlive id)

/-- `getSession` and `getSessionByKey`. -/
def getSession (key : SessionKey) : Running (Option Nat) := do
  let engine ← get
  return engine.table key

def closeSession (key : SessionKey) : Running Unit :=
  modify (Engine.closeSession key)

/-- `closeSession(Session)`. -/
def closeSessionOf (id : Nat) : Running Unit := do
  let session ← readSession id
  closeSession session.getSessionKey

/-- `addClientData`. -/
def addClientData (buffer : ByteBuffer) (id : Nat) : Running Nat :=
  if buffer.limit ≤ buffer.position then
    return 0
  else do
    updateSession id fun session => (session.setSendingData buffer).2
    return buffer.remaining

def allocateSession (object : SessionObject) : Running Nat := do
  let engine ← get
  set (engine.allocate object)
  return engine.allocated

/-- The constructor of `Session`; the key and the flow come later. -/
def newSession (key : SessionKey) : Session :=
  Session.create key.protocol key.sourceIp key.sourcePort key.destIp
    key.destPort
    { isValid := false
      interestRead := false
      interestWrite := false
      interestConnect := false }
    { packetCountEgress := 0
      packetCountIngress := 0
      dataIngress := 0
      dataEgress := 0
      tcpEstablishedReached := false }

/-- `LANFlow.fromHttpToolkitSession` and the first `increaseEgress`. -/
def startFlow (length : Int) (connected : Bool) (id : Nat) : Running Unit :=
  updateSession id fun session =>
    { session with
      flow :=
        { session.flow.increaseEgress 1 length with
          tcpEstablishedReached := connected } }

/-- A session whose datagram channel has just been opened. -/
def newUdpObject (key : SessionKey) : SessionObject where
  session := newSession key
  channel :=
    .datagram
      { isOpen := true
        isConnected := false
        received := []
        sent := [] }
  isRegistered := false

/-- A session whose socket channel has just been opened. -/
def newTcpObject (key : SessionKey) : SessionObject where
  session := newSession key
  channel :=
    .socket
      { isOpen := true
        isConnected := false
        isConnectionPending := false
        atEnd := false
        received := []
        sent := [] }
  isRegistered := false

/-- `channel.connect` of a datagram channel. -/
def connectUdp (object : SessionObject) : SessionObject :=
  { object with
    session := { object.session with isConnected := true }
    channel :=
      object.channel.mapDatagram fun channel =>
        { channel with isConnected := true } }

/-- `channel.connect` of a non-blocking socket channel. -/
def connectTcp (connected : Bool) (object : SessionObject) : SessionObject :=
  { object with
    session := { object.session with isConnected := connected }
    channel :=
      object.channel.mapSocket fun channel =>
        { channel with
          isConnected := connected
          isConnectionPending := !connected } }

/-- The call of `connect` in `createNewTCPSession`, which closes its channel
before it throws. -/
def connectSocket (answers : Answers) (id : Nat) : Running Unit :=
  if answers.failure = some .connect then do
    modify (Engine.updateObject id SessionObject.closeChannel)
    throw .io
  else
    modify (Engine.updateObject id (connectTcp answers.connected))

/-- `createNewUDPSession`.  Deep packet inspection, which only writes its
report to the flow, is left out. -/
def createNewUDPSession (key : SessionKey) (length : Int)
    (answers : Answers) : Running Nat := do
  let existingSession ← getSession key
  match existingSession with
  | some id => return id
  | none => do
      platformCall .openChannel answers
      let id ← allocateSession (newUdpObject key)
      platformCall .configureChannel answers
      platformCall .connect answers
      modify (Engine.updateObject id connectUdp)
      keepSessionAlive id
      startFlow length false id
      platformCall .insertFlow answers
      return id

/-- `createNewTCPSession`. -/
def createNewTCPSession (key : SessionKey) (length : Int)
    (answers : Answers) : Running Nat := do
  let existingSession ← getSession key
  match existingSession with
  | some id => return id
  | none => do
      platformCall .openChannel answers
      let id ← allocateSession (newTcpObject key)
      platformCall .configureChannel answers
      connectSocket answers id
      startFlow length answers.connected id
      platformCall .insertFlow answers
      keepSessionAlive id
      return id

end LanShield.Vpn
