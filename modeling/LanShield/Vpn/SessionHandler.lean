import LanShield.Vpn.SocketChannelReader

/-!
# `SessionHandler`

What the packet thread does with a client segment of one TCP session, under
the session's monitor.
-/

namespace LanShield.Vpn

open LanShield.Library LanShield.Java LanShield.Transport

/-- A client segment behind its parsed headers: `data` is the packet buffer
with its position behind the TCP header.  The bounds are those of the wire
fields. -/
structure ClientSegment where
  ipHeader : IPHeader
  tcpheader : TCPHeader
  data : ByteBuffer
  dataOffset_le : tcpheader.dataOffset ≤ 15
  sequenceNumber_ge : -2 ^ 31 ≤ tcpheader.sequenceNumber
  sequenceNumber_lt : tcpheader.sequenceNumber < 2 ^ 31
  ackNumber_ge : -2 ^ 31 ≤ tcpheader.ackNumber
  ackNumber_lt : tcpheader.ackNumber < 2 ^ 31

namespace ClientSegment

def payload (segment : ClientSegment) : List UInt8 :=
  segment.data.unread

/-- `clientPacketData.limit() - clientPacketData.position()`. -/
def dataLength (segment : ClientSegment) : Nat :=
  segment.data.remaining

/-- The builders can copy both headers: there is room in them for their own
fields. -/
structure Complete (segment : ClientSegment) : Prop where
  ip : segment.ipHeader.Complete
  tcp : segment.tcpheader.Complete

/-- Parsed headers are complete unless their own length field is too small.
-/
theorem complete_of_parsed {segment : ClientSegment}
    {packet stream after : ByteBuffer}
    (ip : createIPHeader packet = .ok (segment.ipHeader, stream))
    (tcp :
      TCPPacketFactory.createTCPHeader stream =
        .ok (segment.tcpheader, after))
    (ipRoom : segment.ipHeader.HasRoom)
    (tcpRoom : segment.tcpheader.HasRoom) : segment.Complete :=
  ⟨createIPHeader_complete ip ipRoom,
    (TCPPacketFactory.createTCPHeader_parsed tcp).complete tcpRoom⟩

@[simp]
theorem length_payload (segment : ClientSegment) :
    segment.payload.length = segment.dataLength :=
  segment.data.length_unread

end ClientSegment

namespace SessionHandler

/-- `sendAck`. -/
def sendAck (segment : ClientSegment) (acceptedDataLength : Nat)
    (currentTime : Int) (connection : TcpConnection) : TcpConnection :=
  let acknumber := connection.session.recSequence + acceptedDataLength
  (connection.updateSession fun session =>
    { session with recSequence := acknumber }).write .sendAck
    (TCPPacketFactory.createResponseAckData segment.ipHeader
      segment.tcpheader acknumber currentTime)

/-- `resendAck`. -/
def resendAck (currentTime : Int) (connection : TcpConnection) :
    TcpConnection :=
  match connection.session.lastIpHeader, connection.session.lastTcpHeader with
  | some ipHeader, some tcpheader =>
      connection.write .resendAck
        (TCPPacketFactory.createResponseAckData ipHeader tcpheader
          connection.session.recSequence currentTime)
  | _, _ => connection

/-- `sendAckForDisorder`. -/
def sendAckForDisorder (segment : ClientSegment) (acceptedDataLength : Nat)
    (currentTime : Int) (connection : TcpConnection) : TcpConnection :=
  let ackNumber := segment.tcpheader.sequenceNumber + acceptedDataLength
  connection.write .sendAckForDisorder
    (TCPPacketFactory.createResponseAckData segment.ipHeader
      segment.tcpheader ackNumber currentTime)

/-- The loop of `PacketUtil.isPacketCorrupted`.  No header the engine parses
or copies has option bytes, so indices outside them do not matter. -/
def corruptedFrom (options : List UInt8) :
    (rounds : Nat) → (index : Int) → Bool
  | 0, _ => false
  | rounds + 1, index =>
      if index < options.length then
        let kind := options.getD index.toNat 0
        if kind = 0 ∨ kind = 1 then
          corruptedFrom options rounds (index + 1)
        else if kind = 2 then
          corruptedFrom options rounds (index + 4)
        else if kind = 3 ∨ kind = 14 then
          corruptedFrom options rounds (index + 3)
        else if kind = 4 then
          corruptedFrom options rounds (index + 2)
        else if kind = 5 ∨ kind = 15 then
          let length := signed8 (options.getD (index.toNat + 1) 0).toNat
          corruptedFrom options rounds (index + length - 1)
        else if kind = 8 then
          corruptedFrom options rounds (index + 10)
        else if kind = 23 then
          true
        else
          corruptedFrom options rounds (index + 1)
      else
        false

/-- `PacketUtil.isPacketCorrupted`. -/
def isPacketCorrupted (tcpHeader : TCPHeader) : Bool :=
  match tcpHeader.options with
  | none => false
  | some options => corruptedFrom options (options.length + 1) 0

/-- `acceptAck`. -/
def acceptAck (tcpHeader : TCPHeader) (currentTime : Int)
    (session : Session) : Session :=
  let session :=
    { session with packetCorrupted := isPacketCorrupted tcpHeader }
  let sendNextAbs := session.sendNext
  let unackedSpan :=
    unsigned32 (sendNextAbs - unsigned32 tcpHeader.ackNumber)
  let ackAbs := sendNextAbs - unackedSpan
  if session.sendUnack < ackAbs ∨ ackAbs = sendNextAbs then
    { session with
      isacked := true
      sendUnack := ackAbs
      recSequence := tcpHeader.sequenceNumber
      timestampReplyto := tcpHeader.timeStampSender
      timestampSender := signed32 currentTime }
  else
    { session with isacked := false }

/-- The acknowledgment moves `sendUnack` forward, or acknowledges all that
was sent. -/
def Advances (session : Session) (tcpHeader : TCPHeader) : Prop :=
  session.sendUnack < reconstruct session.sendNext tcpHeader.ackNumber ∨
    reconstruct session.sendNext tcpHeader.ackNumber = session.sendNext

instance (session : Session) (tcpHeader : TCPHeader) :
    Decidable (Advances session tcpHeader) :=
  inferInstanceAs (Decidable (_ ∨ _))

theorem acceptAck_advances
    {tcpHeader : TCPHeader} {session : Session}
    (advances : Advances session tcpHeader) (currentTime : Int) :
    acceptAck tcpHeader currentTime session =
      { session with
        packetCorrupted := isPacketCorrupted tcpHeader
        isacked := true
        sendUnack := reconstruct session.sendNext tcpHeader.ackNumber
        recSequence := tcpHeader.sequenceNumber
        timestampReplyto := tcpHeader.timeStampSender
        timestampSender := signed32 currentTime } :=
  if_pos advances

theorem acceptAck_stale
    {tcpHeader : TCPHeader} {session : Session}
    (stale : ¬ Advances session tcpHeader) (currentTime : Int) :
    acceptAck tcpHeader currentTime session =
      { session with
        packetCorrupted := isPacketCorrupted tcpHeader
        isacked := false } :=
  if_neg stale

/-- `sendFinAck`; parsing the packet again for the log changes nothing. -/
def sendFinAck (segment : ClientSegment) (currentTime : Int)
    (connection : TcpConnection) : TcpConnection :=
  let ack := segment.tcpheader.sequenceNumber
  let seq := segment.tcpheader.ackNumber
  (connection.write .sendFinAck
    (TCPPacketFactory.createFinAckData segment.ipHeader segment.tcpheader
      ack seq true false currentTime)).updateSession
    fun session =>
      { session with sendNext := seq + 1, closingConnection := false }

/-- The packet `ackFinAck` writes. -/
def writeFinAck (segment : ClientSegment) (currentTime : Int)
    (connection : TcpConnection) : TcpConnection :=
  connection.write .ackFinAck
    (TCPPacketFactory.createFinAckData segment.ipHeader segment.tcpheader
      (segment.tcpheader.sequenceNumber + 1) segment.tcpheader.ackNumber
      true true currentTime)

/-- `ackFinAck` for a session. -/
def ackFinAck (segment : ClientSegment) (currentTime : Int)
    (connection : TcpConnection) : TcpConnection :=
  let cancelled :=
    (writeFinAck segment currentTime connection).updateSession
      Session.cancelKey
  cancelled.closeSession.updateSession fun session =>
    { session with abortingConnection := true }

/-- `sendLastAck`. -/
def sendLastAck (segment : ClientSegment) (currentTime : Int)
    (connection : TcpConnection) : TcpConnection :=
  connection.write .sendLastAck
    (TCPPacketFactory.createResponseAckData segment.ipHeader
      segment.tcpheader (segment.tcpheader.sequenceNumber + 1) currentTime)

/-- `sendRstPacket`. -/
def sendRstPacket (segment : ClientSegment) (connection : TcpConnection) :
    TcpConnection :=
  connection.write .sendRstPacket
    (TCPPacketFactory.createRstData segment.ipHeader segment.tcpheader
      segment.dataLength)

/-- `pushDataToDestination`. -/
def pushDataToDestination (tcp : TCPHeader) (currentTime : Int)
    (session : Session) : Session :=
  { session with
    isDataForSendingReady := true
    timestampReplyto := tcp.timeStampSender
    timestampSender := signed32 currentTime }.subscribeKey .write

/-- `resetTCPConnection`. -/
def resetTCPConnection (connection : TcpConnection) : TcpConnection :=
  if connection.tracked then
    connection.updateSession fun session =>
      { session with abortingConnection := true }
  else
    connection

/-- Whether the data branch appends the payload of a segment with this
sequence number. -/
def Accepts (session : Session) (sequenceNumber : Int) : Prop :=
  session.recSequence = 0 ∨ session.recSequence ≤ sequenceNumber

instance (session : Session) (sequenceNumber : Int) :
    Decidable (Accepts session sequenceNumber) :=
  inferInstanceAs (Decidable (_ ∨ _))

/-- The first lines of the session's monitor block: last headers and
advertised window. -/
def noteSegment (segment : ClientSegment) (session : Session) : Session :=
  { session with
    lastIpHeader := some segment.ipHeader
    lastTcpHeader := some segment.tcpheader
    clientWindow :=
      shiftLeft64 segment.tcpheader.unsignedWindow
        session.clientWindowScale }

/-- The branch for a segment with data.  Deep packet inspection, which only
writes its report to the flow, is left out. -/
def handleData (segment : ClientSegment) (currentTime : Int)
    (connection : TcpConnection) : TcpConnection :=
  if Accepts connection.session segment.tcpheader.sequenceNumber then
    let (addedLength, connection) :=
      connection.addClientData segment.tcpheader.sequenceNumber segment.data
    sendAck segment addedLength currentTime connection
  else
    sendAckForDisorder segment segment.dataLength currentTime connection

/-- The branch for a segment without data. -/
def handleAck (segment : ClientSegment) (currentTime : Int)
    (connection : TcpConnection) : TcpConnection :=
  let connection :=
    connection.updateSession (acceptAck segment.tcpheader currentTime)
  if connection.session.closingConnection then
    sendFinAck segment currentTime connection
  else if connection.session.isAckedToFin && !segment.tcpheader.isFIN then
    connection.closeSession
  else
    connection

/-- The branch on the flags PSH, FIN and RST. -/
def handleFlags (segment : ClientSegment) (currentTime : Int)
    (connection : TcpConnection) : TcpConnection :=
  if segment.tcpheader.isPSH then
    connection.updateSession
      (pushDataToDestination segment.tcpheader currentTime)
  else if segment.tcpheader.isFIN then
    ackFinAck segment currentTime connection
  else if segment.tcpheader.isRST then
    resetTCPConnection connection
  else
    connection

/-- The end of the monitor block. -/
def finishSegment (connection : TcpConnection) : TcpConnection :=
  if connection.session.abortingConnection then
    connection
  else
    SocketChannelReader.pumpToClient connection.keepSessionAlive

/-- The monitor block down to the branch on the flags. -/
def handleBody (segment : ClientSegment) (currentTime : Int)
    (connection : TcpConnection) : TcpConnection :=
  let noted := connection.updateSession (noteSegment segment)
  if 0 < segment.dataLength then
    handleData segment currentTime noted
  else
    handleAck segment currentTime noted

/-- The monitor block of `handleTCPPacket`, for a segment with ACK of a
session in the table. -/
def handleSessionSegment (segment : ClientSegment) (currentTime : Int)
    (connection : TcpConnection) : TcpConnection :=
  finishSegment
    (handleFlags segment currentTime
      (handleBody segment currentTime connection))

/-- The answer to a segment with ACK when the table has no session for it.
-/
def handleUnknown (segment : ClientSegment) (currentTime : Int)
    (connection : TcpConnection) : TcpConnection :=
  if segment.tcpheader.isFIN then
    sendLastAck segment currentTime connection
  else if segment.tcpheader.isRST then
    connection
  else
    sendRstPacket segment connection

/-- `handleTCPPacket`, for the segments of one client endpoint and server
endpoint.  A SYN that finds no session in the table opens another one and
leaves this one alone. -/
def handleTCPPacket (segment : ClientSegment) (currentTime : Int)
    (connection : TcpConnection) : TcpConnection :=
  if segment.tcpheader.isSYN then
    if connection.tracked then
      resendAck currentTime connection
    else
      connection
  else if segment.tcpheader.isACK then
    if connection.tracked then
      handleSessionSegment segment currentTime connection
    else
      handleUnknown segment currentTime connection
  else if segment.tcpheader.isFIN then
    if connection.tracked then
      connection.keepSessionAlive
    else
      writeFinAck segment currentTime connection
  else if segment.tcpheader.isRST then
    resetTCPConnection connection
  else
    connection

/-- The segment is handled in the session's monitor block. -/
def Reaches (connection : TcpConnection) (segment : ClientSegment) : Prop :=
  connection.tracked = true ∧
    segment.tcpheader.isSYN = false ∧
    segment.tcpheader.isACK = true

instance (connection : TcpConnection) (segment : ClientSegment) :
    Decidable (Reaches connection segment) :=
  inferInstanceAs (Decidable (_ ∧ _))

theorem handleTCPPacket_reaches
    {connection : TcpConnection} {segment : ClientSegment}
    (reaches : Reaches connection segment) (currentTime : Int) :
    handleTCPPacket segment currentTime connection =
      handleSessionSegment segment currentTime connection := by
  obtain ⟨tracked, notSyn, ack⟩ := reaches
  rw [handleTCPPacket]
  rw [if_neg (Bool.eq_false_iff.mp notSyn), if_pos ack, if_pos tracked]

/-- What the platform answers while a session is opened: the `int` of the
random generator, the clock, and whether `connect` finished at once. -/
structure Opening where
  random : Int
  currentTime : Int
  connected : Bool
  deriving DecidableEq, Repr

/-- `SessionManager.createNewTCPSession`, for an endpoint pair the table
does not have. -/
def createNewTCPSession (syn : ClientSegment) (connected : Bool) :
    TcpConnection where
  session :=
    { Session.create .tcp syn.ipHeader.getSourceIP syn.tcpheader.sourcePort
        syn.ipHeader.getDestinationIP syn.tcpheader.destinationPort
        { isValid := false
          interestRead := false
          interestWrite := false
          interestConnect := false }
        { packetCountEgress := 1
          packetCountIngress := 0
          dataIngress := 0
          dataEgress := syn.ipHeader.getTotalLength
          tcpEstablishedReached := connected } with
      isConnected := connected }
  channel :=
    { isOpen := true
      isConnected := connected
      isConnectionPending := !connected
      atEnd := false
      received := []
      sent := [] }
  tracked := true
  written := []
  appended := []

/-- `SocketNIODataService.registerSession`. -/
def registerSession (connection : TcpConnection) : TcpConnection :=
  connection.updateSession fun session =>
    { session with
      selectionkey :=
        { isValid := true
          interestRead := connection.channel.isConnected
          interestWrite := false
          interestConnect := !connection.channel.isConnected } }

/-- `replySynAck`, for a SYN that opens a session. -/
def replySynAck (syn : ClientSegment) (opening : Opening) :
    TcpConnection :=
  let packet :=
    TCPPacketFactory.createSynAckPacketData syn.ipHeader syn.tcpheader
      opening.random opening.currentTime
  let tcpheader := packet.transportHeader
  let created := createNewTCPSession syn opening.connected
  let populated :=
    created.updateSession fun session =>
      { session with
        maxSegmentSize := tcpheader.maxSegmentSize
        sendUnack := tcpheader.sequenceNumber
        sendNext := tcpheader.sequenceNumber + 1
        recSequence := tcpheader.ackNumber
        clientWindowScale := syn.tcpheader.windowScale
        clientWindow := syn.tcpheader.unsignedWindow
        lastIpHeader := some syn.ipHeader
        lastTcpHeader := some syn.tcpheader }
  (registerSession populated).write .replySynAck packet

end SessionHandler

/-- A segment between two fixed endpoints with the given control fields. -/
def ClientSegment.plain
    (tcpFlags : UInt8) (sequenceNumber ackNumber windowSize : Int)
    (payload : List UInt8) : ClientSegment where
  ipHeader :=
    .v4
      { ipVersion := 4
        internetHeaderLength := 5
        dscpOrTypeOfService := 0
        ecn := 0
        payloadLength := 20 + payload.length
        identification := 0
        flag := 0
        mayFragment := false
        lastFragment := false
        fragmentOffset := 0
        timeToLive := 64
        ipv4Protocol := 6
        protocol := some .tcp
        headerChecksum := 0
        sourceIP := ⟨[10, 0, 0, 1]⟩
        destinationIP := ⟨[10, 0, 0, 2]⟩ }
  tcpheader :=
    TCPHeader.create 1024 80 (signed32 sequenceNumber)
      (signed32 ackNumber) 5 false tcpFlags windowSize 0 0
  data := ByteBuffer.wrap payload
  dataOffset_le := Nat.le_add_left 5 10
  sequenceNumber_ge := neg_le_signed32 _
  sequenceNumber_lt := signed32_lt _
  ackNumber_ge := neg_le_signed32 _
  ackNumber_lt := signed32_lt _

theorem ClientSegment.plain_complete
    (tcpFlags : UInt8) (sequenceNumber ackNumber windowSize : Int)
    (payload : List UInt8) :
    (ClientSegment.plain tcpFlags sequenceNumber ackNumber windowSize
      payload).Complete :=
  ⟨⟨le_rfl, Nat.le_add_right 5 10, rfl, rfl⟩,
    ⟨le_rfl, Nat.le_add_right 5 10, rfl⟩⟩

/-- The session opened by a SYN with this sequence number, connected to its
server at once. -/
def SessionHandler.openedConnection (clientSequence : Int) :
    TcpConnection :=
  replySynAck (ClientSegment.plain 0x02 clientSequence 0 1000 [])
    { random := 100, currentTime := 0, connected := true }

end LanShield.Vpn
