import LanShield.Vpn.TcpConnection

/-!
# `SocketChannelWriter`

Writing buffered client data to the upstream channel.
-/

namespace LanShield.Vpn.SocketChannelWriter

open LanShield.Library LanShield.Java LanShield.Transport

/-- The loop of `writePendingData`: the buffer and the channel it leaves,
and the exception that ended it, if one did.  When the outcomes run out the
channel takes no more. -/
def writeLoop : List WriteOutcome → ByteBuffer → SocketChannel →
    ByteBuffer × SocketChannel × Option SocketException
  | [], buffer, channel => (buffer, channel, none)
  | outcome :: later, buffer, channel =>
      if buffer.hasRemaining then
        match outcome with
        | .failure exception => (buffer, channel, some exception)
        | .accepted count =>
            if min count buffer.remaining = 0 then
              (buffer, channel, none)
            else
              writeLoop later (buffer.advance count)
                { channel with
                  sent := channel.sent ++ buffer.unread.take count }
      else
        (buffer, channel, none)

/-- What `writePendingData` does with the buffer behind its loop. -/
def settleBuffer (buffer : ByteBuffer) (session : Session) : Session :=
  if buffer.hasRemaining then
    ((session.setSendingData buffer.compact).2).subscribeKey .write
  else
    { session with isDataForSendingReady := false }.unsubscribeKey .write

/-- `writePendingData`: the connection, and the number of bytes written or
the exception thrown. -/
def writePendingData (outcomes : List WriteOutcome)
    (connection : TcpConnection) :
    TcpConnection × Except SocketException Nat :=
  if connection.session.hasDataToSend then
    let (data, session) := connection.session.getSendingData
    let (buffer, channel, thrown) :=
      writeLoop outcomes (ByteBuffer.wrap data) connection.channel
    match thrown with
    | some exception =>
        ({ connection with session, channel }, .error exception)
    | none =>
        ({ connection with
            session := settleBuffer buffer session
            channel },
          .ok buffer.position)
  else
    (connection, .ok 0)

/-- The `IOException` clause of `writeTCP`. -/
def writeFailed (connection : TcpConnection) : TcpConnection :=
  match connection.session.lastIpHeader, connection.session.lastTcpHeader with
  | some ipHeader, some tcpheader =>
      (connection.write .writeTCP
        (TCPPacketFactory.createRstData ipHeader tcpheader 0)).updateSession
          fun session => { session with abortingConnection := true }
  | _, _ => connection

/-- `writeTCP`. -/
def writeTCP (outcomes : List WriteOutcome) (connection : TcpConnection) :
    TcpConnection × Nat :=
  match writePendingData outcomes connection with
  | (connection, .ok amountBytes) => (connection, amountBytes)
  | (connection, .error .notYetConnected) => (connection, 0)
  | (connection, .error _) => (writeFailed connection, 0)

/-- `write`, for a `SocketChannel`. -/
def write (outcomes : List WriteOutcome) (connection : TcpConnection) :
    TcpConnection × Nat :=
  let (connection, bytesWritten) := writeTCP outcomes connection
  if connection.session.abortingConnection then
    (connection.removeAborted, bytesWritten)
  else
    (connection, bytesWritten)

/-- `writeTCP` leaves what `writePendingData` does, or a reset and an
aborting session behind it. -/
theorem writeTCP_ends
    (outcomes : List WriteOutcome) (connection : TcpConnection) :
    (writeTCP outcomes connection).1 =
        (writePendingData outcomes connection).1 ∨
      ∃ ipHeader tcpheader,
        (writeTCP outcomes connection).1 =
          ((writePendingData outcomes connection).1.write .writeTCP
            (TCPPacketFactory.createRstData ipHeader tcpheader
              0)).updateSession fun session =>
                { session with abortingConnection := true } := by
  rw [writeTCP]
  split
  · next result =>
    rw [result]
    exact Or.inl rfl
  · next result =>
    rw [result]
    exact Or.inl rfl
  · next result =>
    rw [result, writeFailed]
    split
    · next ipHeader tcpheader _ _ =>
      exact Or.inr ⟨ipHeader, tcpheader, rfl⟩
    · exact Or.inl rfl

theorem writeLoop_channel
    (outcomes : List WriteOutcome) (buffer : ByteBuffer)
    (channel : SocketChannel) :
    (writeLoop outcomes buffer channel).2.1 =
      { channel with
        sent := (writeLoop outcomes buffer channel).2.1.sent } := by
  induction outcomes generalizing buffer channel with
  | nil => rfl
  | cons outcome later inductionHypothesis =>
      unfold writeLoop
      split
      · cases outcome with
        | failure exception => rfl
        | accepted count =>
            dsimp only
            split
            · rfl
            · rw [inductionHypothesis]
      · rfl

/-- The loop of `writePendingData` ends alike on every channel. -/
theorem writeLoop_congr (outcomes : List WriteOutcome) (buffer : ByteBuffer)
    (channel other : SocketChannel) :
    (writeLoop outcomes buffer channel).1 =
        (writeLoop outcomes buffer other).1 ∧
      (writeLoop outcomes buffer channel).2.2 =
        (writeLoop outcomes buffer other).2.2 := by
  induction outcomes generalizing buffer channel other with
  | nil => exact ⟨rfl, rfl⟩
  | cons outcome later inductionHypothesis =>
      simp only [writeLoop]
      split
      · cases outcome with
        | failure exception => exact ⟨rfl, rfl⟩
        | accepted count =>
            dsimp only
            split
            · exact ⟨rfl, rfl⟩
            · exact inductionHypothesis _ _ _
      · exact ⟨rfl, rfl⟩

private theorem settleBuffer_session (buffer : ByteBuffer)
    (session : Session) :
    settleBuffer buffer session =
      { session with
        sendingStream := (settleBuffer buffer session).sendingStream
        sendingDatagrams := (settleBuffer buffer session).sendingDatagrams
        isDataForSendingReady :=
          (settleBuffer buffer session).isDataForSendingReady
        selectionkey := (settleBuffer buffer session).selectionkey } := by
  rw [settleBuffer]
  split
  · rw [Session.setSendingData]
    cases session.protocol with
    | tcp => rfl
    | udp => rfl
  · rfl

private theorem settleBuffer_isValid (buffer : ByteBuffer)
    (session : Session) :
    (settleBuffer buffer session).selectionkey.isValid =
      session.selectionkey.isValid := by
  rw [settleBuffer]
  split
  · refine (SelectionKey.isValid_changeInterest .write true _).trans ?_
    rw [Session.setSendingData]
    cases session.protocol with
    | tcp => rfl
    | udp => rfl
  · exact SelectionKey.isValid_changeInterest .write false _

/-- `writePendingData` changes the data to send, its flag, the interest set
and what the channel has sent. -/
theorem writePendingData_connection
    (outcomes : List WriteOutcome) (connection : TcpConnection) :
    let after := (writePendingData outcomes connection).1
    after =
      { connection with
        session :=
          { connection.session with
            sendingStream := after.session.sendingStream
            sendingDatagrams := after.session.sendingDatagrams
            isDataForSendingReady := after.session.isDataForSendingReady
            selectionkey := after.session.selectionkey }
        channel :=
          { connection.channel with sent := after.channel.sent } } := by
  intro after
  have after_eq :
      after = (writePendingData outcomes connection).1 := rfl
  rw [writePendingData] at after_eq
  split at after_eq
  · have channel_eq :=
      writeLoop_channel outcomes
        (ByteBuffer.wrap connection.session.sendingStream)
        connection.channel
    dsimp only [Session.getSendingData] at after_eq
    split at after_eq
    · rw [after_eq, channel_eq]
    · rw [after_eq, channel_eq, settleBuffer_session]
  · rw [after_eq]

theorem writePendingData_isValid
    (outcomes : List WriteOutcome) (connection : TcpConnection) :
    (writePendingData outcomes
        connection).1.session.selectionkey.isValid =
      connection.session.selectionkey.isValid := by
  rw [writePendingData, Session.getSendingData]
  split
  · dsimp only
    split
    · rfl
    · exact settleBuffer_isValid _ _
  · rfl

end LanShield.Vpn.SocketChannelWriter
