import LanShield.Transport.TCPPacketFactory
import LanShield.Transport.UDPPacketFactory

/-!
# `Session`

The state of one client connection.  A `ByteArrayOutputStream` is the list
of bytes written to it, the datagram queue a list with its head first; the
`long` counters are exact integers.
-/

namespace LanShield.Vpn

open LanShield.Library LanShield.Java LanShield.Transport

inductive SessionProtocol where
  | tcp
  | udp
  deriving DecidableEq, Repr

/-- The operations of `java.nio.channels.SelectionKey`. -/
inductive SelectionOp where
  | read
  | write
  | connect
  deriving DecidableEq, Repr

/-- A selection key: whether it is valid, and its interest set. -/
structure SelectionKey where
  isValid : Bool
  interestRead : Bool
  interestWrite : Bool
  interestConnect : Bool
  deriving DecidableEq, Repr

namespace SelectionKey

def setInterest (op : SelectionOp) (interested : Bool)
    (key : SelectionKey) : SelectionKey :=
  match op with
  | .read => { key with interestRead := interested }
  | .write => { key with interestWrite := interested }
  | .connect => { key with interestConnect := interested }

/-- `interestOps` on a valid key; an invalid one is left alone. -/
def changeInterest (op : SelectionOp) (interested : Bool)
    (key : SelectionKey) : SelectionKey :=
  if key.isValid then key.setInterest op interested else key

def cancel (key : SelectionKey) : SelectionKey :=
  { key with isValid := false }

@[simp]
theorem isValid_changeInterest (op : SelectionOp) (interested : Bool)
    (key : SelectionKey) :
    (key.changeInterest op interested).isValid = key.isValid := by
  rw [changeInterest]
  split
  · cases op <;> rfl
  · rfl

def interest (op : SelectionOp) (key : SelectionKey) : Bool :=
  match op with
  | .read => key.interestRead
  | .write => key.interestWrite
  | .connect => key.interestConnect

/-- A change of one operation sets the interest in it. -/
theorem interest_changeInterest_self {key : SelectionKey}
    (valid : key.isValid = true) (op : SelectionOp) (interested : Bool) :
    (key.changeInterest op interested).interest op = interested := by
  rw [changeInterest]
  rw [if_pos valid]
  cases op <;> rfl

/-- A change of one operation leaves the interest in another alone. -/
theorem interest_changeInterest_other {op other : SelectionOp}
    (different : op ≠ other) (interested : Bool) (key : SelectionKey) :
    (key.changeInterest op interested).interest other =
      key.interest other := by
  rw [changeInterest]
  split
  · cases op <;> cases other <;> first | rfl | exact (different rfl).elim
  · rfl

end SelectionKey

/-- The counters of `LANFlow` the engine updates. -/
structure LANFlow where
  packetCountEgress : Int
  packetCountIngress : Int
  dataIngress : Int
  dataEgress : Int
  tcpEstablishedReached : Bool
  deriving DecidableEq, Repr

namespace LANFlow

def increaseEgress (amountPackets amountBytes : Int) (flow : LANFlow) :
    LANFlow :=
  { flow with
    packetCountEgress := flow.packetCountEgress + amountPackets
    dataEgress := flow.dataEgress + amountBytes }

def increaseIngress (amountPackets amountBytes : Int) (flow : LANFlow) :
    LANFlow :=
  { flow with
    packetCountIngress := flow.packetCountIngress + amountPackets
    dataIngress := flow.dataIngress + amountBytes }

end LANFlow

structure Session where
  protocol : SessionProtocol
  destIp : IPAddress
  destPort : Nat
  sourceIp : IPAddress
  sourcePort : Nat
  recSequence : Int
  sendUnack : Int
  isacked : Bool
  sendNext : Int
  maxSegmentSize : Int
  isConnected : Bool
  receivingStream : List UInt8
  sendingStream : List UInt8
  sendingDatagrams : List (List UInt8)
  hasReceivedLastSegment : Bool
  lastIpHeader : Option IPHeader
  lastTcpHeader : Option TCPHeader
  lastUdpHeader : Option UDPHeader
  closingConnection : Bool
  isDataForSendingReady : Bool
  clientWindow : Int
  clientWindowScale : Int
  upstreamEof : Bool
  packetCorrupted : Bool
  timestampSender : Int
  timestampReplyto : Int
  abortingConnection : Bool
  selectionkey : SelectionKey
  flow : LANFlow
  deriving DecidableEq, Repr

namespace Session

/-- The constructor, with the key and the flow its caller attaches. -/
def create
    (protocol : SessionProtocol) (sourceIp : IPAddress) (sourcePort : Nat)
    (destinationIp : IPAddress) (destinationPort : Nat)
    (selectionkey : SelectionKey) (flow : LANFlow) : Session where
  protocol := protocol
  destIp := destinationIp
  destPort := destinationPort
  sourceIp := sourceIp
  sourcePort := sourcePort
  recSequence := 0
  sendUnack := 0
  isacked := false
  sendNext := 0
  maxSegmentSize := 0
  isConnected := false
  receivingStream := []
  sendingStream := []
  sendingDatagrams := []
  hasReceivedLastSegment := false
  lastIpHeader := none
  lastTcpHeader := none
  lastUdpHeader := none
  closingConnection := false
  isDataForSendingReady := false
  clientWindow := 0
  clientWindowScale := 0
  upstreamEof := false
  packetCorrupted := false
  timestampSender := 0
  timestampReplyto := 0
  abortingConnection := false
  selectionkey := selectionkey
  flow := flow

/-- `private final boolean ackedToFin = false`. -/
def isAckedToFin (_ : Session) : Bool :=
  false

def addReceivedData (data : List UInt8) (session : Session) : Session :=
  { session with receivingStream := session.receivingStream ++ data }

def getReceivedData (maxSize : Nat) (session : Session) :
    List UInt8 × Session :=
  (session.receivingStream.take maxSize,
    { session with
      receivingStream := session.receivingStream.drop maxSize })

def hasReceivedData (session : Session) : Bool :=
  decide (0 < session.receivingStream.length)

def receivingStreamSize (session : Session) : Nat :=
  session.receivingStream.length

/-- `setSendingData`: the number of bytes accepted, and the session. -/
def setSendingData (data : ByteBuffer) (session : Session) :
    Nat × Session :=
  match session.protocol with
  | .udp =>
      (data.remaining,
        { session with
          sendingDatagrams := session.sendingDatagrams ++ [data.unread] })
  | .tcp =>
      (data.remaining,
        { session with
          sendingStream := session.sendingStream ++ data.unread })

theorem setSendingData_tcp {session : Session}
    (tcp : session.protocol = .tcp) (data : ByteBuffer) :
    session.setSendingData data =
      (data.remaining,
        { session with
          sendingStream := session.sendingStream ++ data.unread }) := by
  rw [setSendingData]
  split
  · next udp =>
    rw [tcp] at udp
    cases udp
  · rfl

theorem setSendingData_udp {session : Session}
    (udp : session.protocol = .udp) (data : ByteBuffer) :
    session.setSendingData data =
      (data.remaining,
        { session with
          sendingDatagrams := session.sendingDatagrams ++ [data.unread] }) := by
  rw [setSendingData]
  split
  · rfl
  · next tcp =>
    rw [udp] at tcp
    cases tcp

def getSendingData (session : Session) : List UInt8 × Session :=
  (session.sendingStream, { session with sendingStream := [] })

def hasDataToSend (session : Session) : Bool :=
  match session.protocol with
  | .udp => !session.sendingDatagrams.isEmpty
  | .tcp => decide (0 < session.sendingStream.length)

def cancelKey (session : Session) : Session :=
  { session with selectionkey := session.selectionkey.cancel }

def subscribeKey (op : SelectionOp) (session : Session) : Session :=
  { session with
    selectionkey := session.selectionkey.changeInterest op true }

def unsubscribeKey (op : SelectionOp) (session : Session) : Session :=
  { session with
    selectionkey := session.selectionkey.changeInterest op false }

end Session

end LanShield.Vpn
