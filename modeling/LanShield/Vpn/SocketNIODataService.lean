import LanShield.Vpn.SocketChannelReader
import LanShield.Vpn.SocketChannelWriter

/-!
# `SocketNIODataService`

What the NIO thread does with a selected key, under the session's monitor.
-/

namespace LanShield.Vpn.SocketNIODataService

open LanShield.Transport

/-- What the selector and the channel answer while one selected key is
processed; `connected` is the result of `finishConnect`, or nothing when it
throws. -/
structure Readiness where
  isConnectable : Bool
  isReadable : Bool
  isWritable : Bool
  connected : Option Bool
  reads : List ReadOutcome
  writes : List WriteOutcome
  deriving DecidableEq

/-- The exceptions that leave `processSelectionKey`. -/
inductive SelectionException where
  | connectFailed
  | neitherConnectedNorPending
  deriving DecidableEq, Repr

/-- `processSelectorRead`. -/
def processSelectorRead (ready : Readiness) (connection : TcpConnection) :
    TcpConnection :=
  if connection.session.selectionkey.isValid && ready.isReadable then
    let (connection, bytesRead) :=
      SocketChannelReader.read ready.reads connection
    connection.updateSession fun session =>
      { session with flow := session.flow.increaseIngress 1 bytesRead }
  else
    connection

/-- `processPendingWrite`. -/
def processPendingWrite (ready : Readiness) (connection : TcpConnection) :
    TcpConnection :=
  if !connection.session.hasDataToSend ||
      !connection.session.isDataForSendingReady then
    connection.updateSession (Session.unsubscribeKey .write)
  else if connection.session.selectionkey.isValid && ready.isWritable then
    let (connection, bytesWritten) :=
      SocketChannelWriter.write ready.writes
        (connection.updateSession (Session.unsubscribeKey .write))
    connection.updateSession fun session =>
      { session with flow := session.flow.increaseEgress 1 bytesWritten }
  else
    connection

/-- `processConnectedSelection`. -/
def processConnectedSelection
    (ready : Readiness) (connection : TcpConnection) : TcpConnection :=
  processPendingWrite ready
    (processSelectorRead ready
      (connection.updateSession fun session =>
        (session.unsubscribeKey .connect).subscribeKey .read))

/-- `finishConnect` has returned `connected`. -/
def connectAnswered (connected : Bool) (connection : TcpConnection) :
    TcpConnection :=
  let session := connection.session
  { connection with
    channel := connection.channel.finishConnect (some connected)
    session :=
      { session with
        isConnected := connected
        flow :=
          { session.flow with
            tcpEstablishedReached :=
              session.flow.tcpEstablishedReached || connected } } }

/-- The part of `processSelectionKey` for a session that is not connected
yet. -/
def finishConnecting (ready : Readiness) (connection : TcpConnection) :
    TcpConnection × Option SelectionException :=
  if connection.channel.isConnectionPending then
    match ready.connected with
    | none =>
        ({ connection with channel := connection.channel.finishConnect none },
          some .connectFailed)
    | some connected => (connectAnswered connected connection, none)
  else
    (connection, some .neitherConnectedNorPending)

/-- `processSelectionKey`. -/
def processSelectionKey (ready : Readiness) (connection : TcpConnection) :
    TcpConnection × Option SelectionException :=
  if connection.session.selectionkey.isValid then
    let (connection, thrown) :=
      if !connection.session.isConnected && ready.isConnectable then
        finishConnecting ready connection
      else
        (connection, none)
    match thrown with
    | some exception => (connection, some exception)
    | none =>
        if connection.channel.isConnected then
          (processConnectedSelection ready connection, none)
        else
          (connection, none)
  else
    (connection, none)

/-- The body of the loop of `runTask` for one key: an `IOException` cancels
the key, any other exception ends the thread. -/
def runSelectedKey (ready : Readiness) (connection : TcpConnection) :
    TcpConnection :=
  match processSelectionKey ready connection with
  | (connection, some .connectFailed) =>
      connection.updateSession Session.cancelKey
  | (connection, _) => connection

/-- The ways in which one selected key is processed. -/
inductive Selected (ready : Readiness) (connection : TcpConnection) :
    TcpConnection → Prop
  | unchanged : Selected ready connection connection
  | refused :
      Selected ready connection
        (TcpConnection.updateSession Session.cancelKey
          { connection with
            channel := connection.channel.finishConnect none })
  | waiting :
      Selected ready connection (connectAnswered false connection)
  | selected :
      connection.channel.isConnected = true →
      Selected ready connection
        (processConnectedSelection ready connection)
  | answered (connected : Bool) :
      Selected ready connection
        (processConnectedSelection ready
          (connectAnswered connected connection))

theorem runSelectedKey_selected
    (ready : Readiness) (connection : TcpConnection) :
    Selected ready connection (runSelectedKey ready connection) := by
  rw [runSelectedKey, processSelectionKey]
  by_cases valid : connection.session.selectionkey.isValid = true
  · rw [if_pos valid]
    by_cases connects :
        (!connection.session.isConnected && ready.isConnectable) = true
    · rw [if_pos connects]
      rw [finishConnecting]
      by_cases pending : connection.channel.isConnectionPending = true
      · rw [if_pos pending]
        cases ready.connected with
        | none => exact .refused
        | some connected =>
            by_cases reached :
                (connectAnswered connected
                  connection).channel.isConnected = true
            · simp only [if_pos reached]
              exact .answered connected
            · simp only [if_neg reached]
              cases connected with
              | true => exact (reached rfl).elim
              | false => exact .waiting
      · rw [if_neg pending]
        exact .unchanged
    · rw [if_neg connects]
      by_cases reached : connection.channel.isConnected = true
      · simp only [if_pos reached]
        exact .selected reached
      · simp only [if_neg reached]
        exact .unchanged
  · rw [if_neg valid]
    exact .unchanged

end LanShield.Vpn.SocketNIODataService
