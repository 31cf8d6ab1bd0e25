import LanShield.BackendSync.SyncFlows
import LanShield.Library.OffsetPaging
import LanShield.Library.SerialNumber

/-!
# `exportFlows`

The export of all flows by `LANTrafficViewModel`, page by page, while other
threads write to the table.
-/

namespace LanShield.BackendSync

open LanShield.Library

/-- A statement of another thread, of the upload's too. -/
inductive TableWrite where
  | statement (write : FlowWrite)
  | removeAllScheduledForDeletionById (ids : List UUID)
  deriving DecidableEq, Repr

namespace TableWrite

def apply : TableWrite → FlowTable → FlowTable
  | .statement write => write.apply
  | .removeAllScheduledForDeletionById ids =>
      FlowDao.removeAllScheduledForDeletionById ids

/-- The rows the statement takes from their place: those it deletes, and the
one `insertFlow` replaces. -/
def removes : TableWrite → LANFlow → Bool
  | .statement (.insertFlow flow), row => row.uuid = flow.uuid
  | .statement (.updateFlow _), _ => false
  | .statement (.updateFlowsSyncedTime _ _), _ => false
  | .statement (.deleteFlow flow), row => row.uuid = flow.uuid
  | .statement (.deleteFlowsWithAppId appId), row => row.appId = some appId
  | .removeAllScheduledForDeletionById ids, row =>
      row.uuid ∈ ids ∧ row.scheduledForDeletion = true

/-- The row the statement adds at the end. -/
def inserts : TableWrite → List UUID
  | .statement (.insertFlow flow) => [flow.uuid]
  | _ => []

end TableWrite

/-- `pageSize`. -/
def pageSize : Nat := 1000

/-- Where `exportFlows` stands: before its first query, before a further one,
or behind the last. -/
inductive ExportPhase where
  | idle
  | paging
  | done
  deriving DecidableEq, Repr

/-- `exported` is the array in the file; `steady` are the flows that have
been in the table since the first query, until the last. -/
structure ExportState where
  flows : FlowTable
  phase : ExportPhase
  offset : Int
  exported : List LANFlow
  steady : List UUID

namespace ExportState

def ids (state : ExportState) : List UUID :=
  state.flows.rows.map LANFlow.uuid

def exportedIds (state : ExportState) : List UUID :=
  state.exported.map LANFlow.uuid

/-- The export begins with this table. -/
def start (flows : FlowTable) : ExportState where
  flows
  phase := .idle
  offset := 0
  exported := []
  steady := []

/-- The next page is queried and written; `offset` is an `Int` of 32 bits. -/
def nextPage (state : ExportState) : ExportState :=
  let batch := FlowDao.getFlowsPaged pageSize state.offset state.flows
  if batch.isEmpty then
    { state with phase := .done }
  else
    { state with
      phase := .paging
      exported := state.exported ++ batch
      offset := signed32 (state.offset + pageSize) }

/-- The next query of `exportFlows`. -/
def exportFlows (state : ExportState) : ExportState :=
  match state.phase with
  | .idle => { state with steady := state.ids }.nextPage
  | .paging => state.nextPage
  | .done => state

/-- Another thread's statement. -/
def execute (write : TableWrite) (state : ExportState) : ExportState :=
  let flows := write.apply state.flows
  match state.phase with
  | .paging =>
      { state with
        flows
        steady :=
          state.steady.filter fun id =>
            id ∈ flows.rows.map LANFlow.uuid }
  | _ => { state with flows }

end ExportState

inductive ExportEvent where
  | write (write : TableWrite)
  | query
  deriving DecidableEq, Repr

def exportStep (state : ExportState) : ExportEvent → ExportState
  | .write write => state.execute write
  | .query => state.exportFlows

end LanShield.BackendSync
