import LanShield.Vpn.TcpConnection

/-!
# `SocketChannelReader`

Reading from the upstream channel into the staging buffer, and the pump that
sends staged bytes to the client.
-/

namespace LanShield.Vpn.SocketChannelReader

open LanShield.Library LanShield.Java LanShield.Transport

/-- `STAGING_CAP`. -/
def stagingCap : Nat :=
  2 * maxReceiveBufferSize

/-- `maxSegment`. -/
def maxSegment (session : Session) : Int :=
  let max := session.maxSegmentSize - 60
  if max < 1 then 1024 else max

/-- A segment has room for a byte, with or without the fallback. -/
theorem maxSegment_pos (session : Session) : 1 ≤ maxSegment session := by
  rw [maxSegment]
  split
  · norm_num
  · omega

/-- One round of the loop of `pumpToClient`: a segment of `packetBody`,
which has just been taken from the staging buffer. -/
def sendSegment
    (ipHeader : IPHeader) (tcpheader : TCPHeader)
    (packetBody : List UInt8) (connection : TcpConnection) :
    TcpConnection :=
  let session := connection.session
  let seq := unsigned32 session.sendNext
  let session :=
    { session with sendNext := session.sendNext + packetBody.length }
  let psh := session.hasReceivedLastSegment && !session.hasReceivedData
  ({ connection with session }).write .pumpToClient
    (TCPPacketFactory.createResponsePacketData ipHeader tcpheader packetBody
      psh session.recSequence seq session.timestampSender
      session.timestampReplyto)

/-- The loop of `pumpToClient`.  Every round sends at least one byte, so
after as many rounds as there are staged bytes none is left. -/
def pumpStaged (ipHeader : IPHeader) (tcpheader : TCPHeader)
    (segMax : Int) : (rounds : Nat) → TcpConnection → TcpConnection
  | 0, connection => connection
  | rounds + 1, connection =>
      if connection.session.hasReceivedData then
        let session := connection.session
        let inFlight := unsigned32 (session.sendNext - session.sendUnack)
        let room := session.clientWindow - inFlight
        if room ≤ 0 then
          connection
        else
          let chunk := (min room segMax).toNat
          let (packetBody, session) := session.getReceivedData chunk
          let connection := { connection with session }
          if packetBody.isEmpty then
            connection
          else
            pumpStaged ipHeader tcpheader segMax rounds
              (sendSegment ipHeader tcpheader packetBody connection)
      else
        connection

/-- `sendFin`, whose builder changes the session's last headers. -/
def sendFin (ipHeader : IPHeader) (tcpheader : TCPHeader)
    (connection : TcpConnection) : TcpConnection :=
  let session := connection.session
  let packet :=
    TCPPacketFactory.createFinData ipHeader tcpheader session.recSequence
      session.sendNext session.timestampSender session.timestampReplyto
  ({ connection with
      session :=
        { session with
          lastIpHeader := some packet.ipHeader
          lastTcpHeader := some packet.transportHeader } }).write
    .sendFin packet

/-- What `pumpToClient` does behind its loop. -/
def afterPump (ipHeader : IPHeader) (tcpheader : TCPHeader)
    (connection : TcpConnection) : TcpConnection :=
  let session := connection.session
  if session.upstreamEof && !session.hasReceivedData &&
      !session.abortingConnection then
    (sendFin ipHeader tcpheader connection).updateSession fun session =>
      { session with abortingConnection := true }
  else if !session.upstreamEof &&
      decide (session.receivingStreamSize < stagingCap) then
    connection.updateSession (Session.subscribeKey .read)
  else
    connection

/-- `pumpToClient`. -/
def pumpToClient (connection : TcpConnection) : TcpConnection :=
  match connection.session.lastIpHeader, connection.session.lastTcpHeader with
  | some ipHeader, some tcpheader =>
      afterPump ipHeader tcpheader
        (pumpStaged ipHeader tcpheader (maxSegment connection.session)
          connection.session.receivingStreamSize connection)
  | _, _ => connection

/-- `sendToRequester`. -/
def sendToRequester (chunk : Chunk) (connection : TcpConnection) :
    TcpConnection :=
  pumpToClient
    (connection.updateSession fun session =>
      { session with
        hasReceivedLastSegment :=
          decide
            (chunk.bytes.length < maxReceiveBufferSize) }.addReceivedData
        chunk.bytes)

/-- What `readTCP` does when the upstream stream has ended. -/
def endUpstream (connection : TcpConnection) : TcpConnection :=
  pumpToClient
    (connection.updateSession fun session =>
      { session with upstreamEof := true })

/-- The catch clauses of `readTCP`. -/
def readFailed (exception : SocketException)
    (connection : TcpConnection) : TcpConnection :=
  match exception with
  | .notYetConnected | .closedByInterrupt | .closedChannel => connection
  | .other =>
      connection.updateSession fun session =>
        { session with abortingConnection := true }

/-- The loop of `readTCP`, and the number of bytes read.  When the outcomes
run out the channel has no more to read. -/
def readLoop : List ReadOutcome → TcpConnection → TcpConnection × Nat
  | outcomes, connection =>
      if stagingCap ≤ connection.session.receivingStreamSize then
        (connection.updateSession (Session.unsubscribeKey .read), 0)
      else
        match outcomes with
        | [] => (connection, 0)
        | outcome :: later =>
            let (result, channel) := connection.channel.read outcome
            let connection := { connection with channel }
            match result with
            | .data chunk =>
                let (connection, bytesRead) :=
                  readLoop later (sendToRequester chunk connection)
                (connection, chunk.bytes.length + bytesRead)
            | .nothing => (connection, 0)
            | .endOfStream => (endUpstream connection, 0)
            | .failure exception => (readFailed exception connection, 0)

/-- `readTCP`. -/
def readTCP (outcomes : List ReadOutcome) (connection : TcpConnection) :
    TcpConnection × Nat :=
  if connection.session.abortingConnection then
    (connection, 0)
  else
    readLoop outcomes connection

/-- `read`, for a `SocketChannel`. -/
def read (outcomes : List ReadOutcome) (connection : TcpConnection) :
    TcpConnection × Nat :=
  let (connection, bytesRead) := readTCP outcomes connection
  let connection :=
    if connection.session.receivingStreamSize < stagingCap then
      connection.updateSession (Session.subscribeKey .read)
    else
      connection
  if connection.session.abortingConnection then
    (connection.removeAborted, bytesRead)
  else
    (connection, bytesRead)

end LanShield.Vpn.SocketChannelReader
