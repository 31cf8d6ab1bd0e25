import LanShield.BackendSync.FlowDao
import LanShield.Library.Runs

/-!
# `syncFlows`

The upload of the unsynchronised flows by `SendToServerWorker`, batch by
batch, while other threads write to the table.
-/

namespace LanShield.BackendSync

open LanShield.Library

/-- What the server returns for one flow.  A field that does not parse
throws, and the loop goes on with the next flow. -/
structure Acknowledgment where
  flowId : Option UUID
  timeEnd : Option Int
  deriving DecidableEq, Repr

/-- The answer to a batch: whether `app_installation_uuid` is that of this
installation, and the flows. -/
structure FlowsResponse where
  sameInstallation : Bool
  flows : List Acknowledgment
  deriving DecidableEq, Repr

/-- Where `syncFlows` stands between two of its database or network calls:
before a query with the cursor, before the answer to a batch, or in the loop
over the acknowledged flows. -/
inductive FlowsWorker where
  | idle
  | query (cursor : UUID)
  | post (batch : List LANFlow)
  | mark (batch : List LANFlow) (remaining : List Acknowledgment)
      (flowIds : List UUID)
  deriving DecidableEq, Repr

/-- `batch.last().uuid`. -/
def lastUuid (batch : List LANFlow) : UUID :=
  (batch.getLast?.map LANFlow.uuid).getD 0

/-- `posted` are the batches of this run of `syncFlows`. -/
structure FlowsState where
  flows : FlowTable
  worker : FlowsWorker
  posted : List (List LANFlow)

namespace FlowsState

/-- `updateFlowsSyncedTime` for the next acknowledged flow. -/
def markNext (entry : Acknowledgment) (flowIds : List UUID)
    (flows : FlowTable) : List UUID × FlowTable :=
  match entry.flowId, entry.timeEnd with
  | none, _ => (flowIds, flows)
  | some flowId, none => (flowIds ++ [flowId], flows)
  | some flowId, some timeEnd =>
      (flowIds ++ [flowId],
        FlowDao.updateFlowsSyncedTime flowId timeEnd flows)

/-- The next call of `syncFlows`. -/
def syncFlows (batchSize : Nat) (response : FlowsResponse)
    (state : FlowsState) : FlowsState :=
  match state.worker with
  | .idle => state
  | .query cursor =>
      let batch :=
        FlowDao.getNotSyncedFlowsAfter cursor batchSize state.flows
      if batch.isEmpty then
        { state with worker := .idle }
      else
        { state with
          worker := .post batch
          posted := state.posted ++ [batch] }
  | .post batch =>
      if response.sameInstallation then
        { state with worker := .mark batch response.flows [] }
      else
        { state with worker := .query (lastUuid batch) }
  | .mark batch [] flowIds =>
      { state with
        flows := FlowDao.removeAllScheduledForDeletionById flowIds state.flows
        worker := .query (lastUuid batch) }
  | .mark batch (entry :: remaining) flowIds =>
      let (flowIds, flows) := markNext entry flowIds state.flows
      { state with
        flows
        worker := .mark batch remaining flowIds }

/-- `syncFlows` is called, unless it is running. -/
def startSync (state : FlowsState) : FlowsState :=
  match state.worker with
  | .idle => { state with worker := .query 0, posted := [] }
  | _ => state

end FlowsState

/-- A statement of another thread. -/
inductive FlowWrite where
  | insertFlow (flow : LANFlow)
  | updateFlow (flow : LANFlow)
  | updateFlowsSyncedTime (flowId : UUID) (timeEndLast : Int)
  | deleteFlow (flow : LANFlow)
  | deleteFlowsWithAppId (appId : String)
  deriving DecidableEq, Repr

def FlowWrite.apply : FlowWrite → FlowTable → FlowTable
  | .insertFlow flow => KeyedTable.insert flow
  | .updateFlow flow => FlowDao.updateFlow flow
  | .updateFlowsSyncedTime flowId timeEndLast =>
      FlowDao.updateFlowsSyncedTime flowId timeEndLast
  | .deleteFlow flow => FlowDao.deleteFlow flow
  | .deleteFlowsWithAppId appId => FlowDao.deleteFlowsWithAppId appId

inductive FlowsEvent where
  | write (write : FlowWrite)
  | startSync
  | worker (response : FlowsResponse)
  deriving DecidableEq, Repr

def flowsStep (batchSize : Nat) (state : FlowsState) :
    FlowsEvent → FlowsState
  | .write write => { state with flows := write.apply state.flows }
  | .startSync => state.startSync
  | .worker response => state.syncFlows batchSize response

end LanShield.BackendSync
