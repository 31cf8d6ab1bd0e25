import LanShield.Vpn.SocketNIODataService

/-!
# The failures the NIO thread sees upstream

While a selected key is processed, `finishConnect`, `channel.read` and
`channel.write` can each throw an `IOException`.  The definitions follow the
calls of `SocketNIODataService` and collect what is thrown.
-/

namespace LanShield.Vpn

open LanShield.Library LanShield.Java LanShield.Transport

/-- `NotYetConnectedException` is an `IllegalStateException`. -/
def SocketException.isIOException (exception : SocketException) : Bool :=
  decide (exception ≠ .notYetConnected)

inductive UpstreamFailure where
  | finishConnect
  | read (exception : SocketException)
  | write (exception : SocketException)
  deriving DecidableEq, Repr

namespace UpstreamFailure

def isIOException : UpstreamFailure → Bool
  | .finishConnect => true
  | .read exception => exception.isIOException
  | .write exception => exception.isIOException

end UpstreamFailure

namespace SocketChannelReader

/-- What `channel.read` throws in the loop of `readTCP`. -/
def readLoopThrows :
    List ReadOutcome → TcpConnection → Option SocketException
  | outcomes, connection =>
      if stagingCap ≤ connection.session.receivingStreamSize then
        none
      else
        match outcomes with
        | [] => none
        | outcome :: later =>
            let (result, channel) := connection.channel.read outcome
            let connection := { connection with channel }
            match result with
            | .data chunk =>
                readLoopThrows later (sendToRequester chunk connection)
            | .nothing | .endOfStream => none
            | .failure exception => some exception

/-- What `channel.read` throws in `readTCP`. -/
def readTCPThrows (outcomes : List ReadOutcome)
    (connection : TcpConnection) : Option SocketException :=
  if connection.session.abortingConnection then
    none
  else
    readLoopThrows outcomes connection

end SocketChannelReader

namespace SocketChannelWriter

/-- What `channel.write` throws in `writePendingData`. -/
def writePendingDataThrows (outcomes : List WriteOutcome)
    (connection : TcpConnection) : Option SocketException :=
  if connection.session.hasDataToSend then
    (writeLoop outcomes
      (ByteBuffer.wrap connection.session.sendingStream)
      connection.channel).2.2
  else
    none

theorem writePendingData_throws
    {outcomes : List WriteOutcome} {connection : TcpConnection}
    {exception : SocketException} :
    (writePendingData outcomes connection).2 = .error exception ↔
      writePendingDataThrows outcomes connection = some exception := by
  rw [writePendingData, writePendingDataThrows, Session.getSendingData]
  by_cases pending : connection.session.hasDataToSend = true
  · simp only [if_pos pending]
    cases (writeLoop outcomes
        (ByteBuffer.wrap connection.session.sendingStream)
        connection.channel).2.2 with
    | none => simp
    | some thrown => simp
  · simp [if_neg pending]

theorem writeTCP_unfailed {outcomes : List WriteOutcome}
    {connection : TcpConnection}
    (succeeds :
      ∀ exception,
        writePendingDataThrows outcomes connection = some exception →
          exception.isIOException = false) :
    (writeTCP outcomes connection).1 =
      (writePendingData outcomes connection).1 := by
  have thrown := @writePendingData_throws outcomes connection
  rw [writeTCP]
  split
  · next written amount result => rw [result]
  · next written result => rw [result]
  · next written exception io result =>
    rw [result] at thrown
    have other := succeeds exception (thrown.mp rfl)
    exact (io (not_not.mp (of_decide_eq_false other))).elim

theorem writeTCP_failed {outcomes : List WriteOutcome}
    {connection : TcpConnection}
    {exception : SocketException}
    (thrown :
      writePendingDataThrows outcomes connection = some exception)
    (io : exception.isIOException = true) :
    (writeTCP outcomes connection).1 =
      writeFailed (writePendingData outcomes connection).1 := by
  have result :
      writePendingData outcomes connection =
        ((writePendingData outcomes connection).1, .error exception) :=
    Prod.ext rfl (writePendingData_throws.mpr thrown)
  rw [writeTCP]
  rw [result]
  cases exception with
  | notYetConnected => cases io
  | closedByInterrupt => rfl
  | closedChannel => rfl
  | other => rfl

end SocketChannelWriter

namespace SocketNIODataService

/-- What `processSelectorRead` throws. -/
def selectorReadThrows (ready : Readiness) (connection : TcpConnection) :
    Option SocketException :=
  if connection.session.selectionkey.isValid && ready.isReadable then
    SocketChannelReader.readTCPThrows ready.reads connection
  else
    none

/-- What `processPendingWrite` throws. -/
def pendingWriteThrows (ready : Readiness) (connection : TcpConnection) :
    Option SocketException :=
  if !connection.session.hasDataToSend ||
      !connection.session.isDataForSendingReady then
    none
  else if connection.session.selectionkey.isValid && ready.isWritable then
    SocketChannelWriter.writePendingDataThrows ready.writes
      (connection.updateSession (Session.unsubscribeKey .write))
  else
    none

/-- What reading and then writing throw in `processConnectedSelection`. -/
def connectedSelectionThrows
    (ready : Readiness) (connection : TcpConnection) :
    List UpstreamFailure :=
  let subscribed :=
    connection.updateSession fun session =>
      (session.unsubscribeKey .connect).subscribeKey .read
  (selectorReadThrows ready subscribed).toList.map .read ++
    (pendingWriteThrows ready
      (processSelectorRead ready subscribed)).toList.map .write

/-- What the channel throws while the selected key is processed. -/
def selectedKeyThrows (ready : Readiness) (connection : TcpConnection) :
    List UpstreamFailure :=
  if connection.session.selectionkey.isValid then
    if !connection.session.isConnected && ready.isConnectable then
      if connection.channel.isConnectionPending then
        match ready.connected with
        | none => [.finishConnect]
        | some connected =>
            let answered := connectAnswered connected connection
            if answered.channel.isConnected then
              connectedSelectionThrows ready answered
            else
              []
      else
        []
    else if connection.channel.isConnected then
      connectedSelectionThrows ready connection
    else
      []
  else
    []

/-- The upstream failures of one event. -/
def upstreamFailures (ready : Readiness) (connection : TcpConnection) :
    List UpstreamFailure :=
  (selectedKeyThrows ready connection).filter UpstreamFailure.isIOException

/-- The ways in which one selected key is processed, with what is thrown. -/
inductive SelectedThrowing (ready : Readiness) (connection : TcpConnection) :
    TcpConnection → List UpstreamFailure → Prop
  | unchanged : SelectedThrowing ready connection connection []
  | refused :
      ready.connected = none →
      SelectedThrowing ready connection
        (TcpConnection.updateSession Session.cancelKey
          { connection with
            channel := connection.channel.finishConnect none })
        [.finishConnect]
  | waiting :
      SelectedThrowing ready connection (connectAnswered false connection) []
  | selected :
      connection.channel.isConnected = true →
      SelectedThrowing ready connection
        (processConnectedSelection ready connection)
        (connectedSelectionThrows ready connection)
  | answered (connected : Bool) :
      (connectAnswered connected connection).channel.isConnected = true →
      SelectedThrowing ready connection
        (processConnectedSelection ready
          (connectAnswered connected connection))
        (connectedSelectionThrows ready
          (connectAnswered connected connection))

theorem runSelectedKey_throwing
    (ready : Readiness) (connection : TcpConnection) :
    SelectedThrowing ready connection (runSelectedKey ready connection)
      (selectedKeyThrows ready connection) := by
  rw [runSelectedKey, processSelectionKey, selectedKeyThrows]
  by_cases valid : connection.session.selectionkey.isValid = true
  · rw [if_pos valid, if_pos valid]
    by_cases connects :
        (!connection.session.isConnected && ready.isConnectable) = true
    · rw [if_pos connects, if_pos connects]
      rw [finishConnecting]
      by_cases pending : connection.channel.isConnectionPending = true
      · rw [if_pos pending, if_pos pending]
        cases answer : ready.connected with
        | none => exact .refused answer
        | some connected =>
            by_cases reached :
                (connectAnswered connected
                  connection).channel.isConnected = true
            · simp only [if_pos reached]
              exact .answered connected reached
            · simp only [if_neg reached]
              cases connected with
              | true => exact (reached rfl).elim
              | false => exact .waiting
      · rw [if_neg pending, if_neg pending]
        exact .unchanged
    · rw [if_neg connects, if_neg connects]
      by_cases reached : connection.channel.isConnected = true
      · simp only [if_pos reached]
        exact .selected reached
      · simp only [if_neg reached]
        exact .unchanged
  · rw [if_neg valid, if_neg valid]
    exact .unchanged

end SocketNIODataService

end LanShield.Vpn
