import LanShield.BackendSync.SyncFlows

/-!
# Live flows and their upload

The flows of live sessions are objects in memory.  The packet threads count
on them and write the whole object over its row, while `syncFlows` uploads
rows and marks them as synchronised.
-/

namespace LanShield.BackendSync

open LanShield.Library

/-- A change of a flow in memory.  An `increase` call comes at a later
millisecond than the one before, `elapsed` milliseconds later than it
must. -/
inductive FlowChange where
  | increaseEgress (amountPackets amountBytes : Int) (elapsed : Nat)
  | increaseIngress (amountPackets amountBytes : Int) (elapsed : Nat)
  | tcpEstablishedReached (connected : Bool)
  | dpiReport (report : Option String)
  | dpiProtocol (protocol : Option String)
  deriving DecidableEq, Repr

def FlowChange.apply (change : FlowChange) (flow : LANFlow) : LANFlow :=
  match change with
  | .increaseEgress amountPackets amountBytes elapsed =>
      flow.increaseEgress amountPackets amountBytes
        (flow.timeEnd + 1 + elapsed)
  | .increaseIngress amountPackets amountBytes elapsed =>
      flow.increaseIngress amountPackets amountBytes
        (flow.timeEnd + 1 + elapsed)
  | .tcpEstablishedReached connected =>
      { flow with
        tcpEstablishedReached := flow.tcpEstablishedReached || connected }
  | .dpiReport report => { flow with dpiReport := report }
  | .dpiProtocol protocol => { flow with dpiProtocol := protocol }

@[simp]
theorem FlowChange.uuid_apply (change : FlowChange) (flow : LANFlow) :
    (change.apply flow).uuid = flow.uuid := by
  cases change <;> rfl

/-- `live` are the flows in memory; `acknowledged` is what the last upload
the server acknowledged said about each flow. -/
structure LiveState where
  sync : FlowsState
  live : FlowTable
  acknowledged : UUID → Option LANFlow.Report

def LiveState.start : LiveState where
  sync := { flows := .empty, worker := .idle, posted := [] }
  live := .empty
  acknowledged := fun _ => none

/-- A flow as it comes into memory: created, with what its session, or
`logBlockedPacket`, counts on it at once. -/
structure NewFlow where
  flow : LANFlow
  neverSynced : flow.timeEndAtLastSync = 0
  positive : 0 < flow.timeEnd

inductive LiveEvent where
  | newFlow (new : NewFlow)
  | change (uuid : UUID) (change : FlowChange)
  | insertFlow (uuid : UUID)
  | updateFlow (uuid : UUID)
  | deleteFlowsWithAppId (appId : String)
  | startSync
  | worker (response : FlowsResponse)

/-- What the server has acknowledged after its answer to a batch. -/
def acknowledge (batch : List LANFlow) (entries : List Acknowledgment)
    (acknowledged : UUID → Option LANFlow.Report) (id : UUID) :
    Option LANFlow.Report :=
  match batch.find? fun flow => flow.uuid = id with
  | none => acknowledged id
  | some flow =>
      if ∃ entry ∈ entries, entry.flowId = some id then
        some flow.writeJson
      else
        acknowledged id

namespace LiveState

/-- A statement that writes a flow in memory to the table. -/
def store (statement : LANFlow → FlowTable → FlowTable) (uuid : UUID)
    (state : LiveState) : LiveState :=
  match state.live.find uuid with
  | none => state
  | some flow =>
      { state with
        sync :=
          { state.sync with flows := statement flow state.sync.flows } }

/-- A flow comes into memory.  Random identifiers are not used twice. -/
def newFlow (flow : LANFlow) (state : LiveState) : LiveState :=
  match state.live.find flow.uuid with
  | some _ => state
  | none => { state with live := state.live.insert flow }

/-- The server's answer, then the next call of `syncFlows`. -/
def syncFlows (batchSize : Nat) (response : FlowsResponse)
    (state : LiveState) : LiveState :=
  { state with
    sync := state.sync.syncFlows batchSize response
    acknowledged :=
      match state.sync.worker with
      | .post batch =>
          if response.sameInstallation then
            acknowledge batch response.flows state.acknowledged
          else
            state.acknowledged
      | _ => state.acknowledged }

end LiveState

def liveStep (batchSize : Nat) (state : LiveState) : LiveEvent → LiveState
  | .newFlow new => state.newFlow new.flow
  | .change uuid change =>
      { state with
        live :=
          state.live.update (fun flow => flow.uuid = uuid) change.apply
            fun flow _ => change.uuid_apply flow }
  | .insertFlow uuid => state.store KeyedTable.insert uuid
  | .updateFlow uuid => state.store FlowDao.updateFlow uuid
  | .deleteFlowsWithAppId appId =>
      { state with
        sync :=
          { state.sync with
            flows :=
              FlowDao.deleteFlowsWithAppId appId state.sync.flows } }
  | .startSync => { state with sync := state.sync.startSync }
  | .worker response => state.syncFlows batchSize response

/-- Every acknowledged flow is one of the batch, with the `time_end` that
was uploaded. -/
def EchoesTimes (state : LiveState) : LiveEvent → Prop
  | .worker response =>
      match state.sync.worker with
      | .post batch =>
          ∀ entry ∈ response.flows, ∃ flow ∈ batch,
            entry.flowId = some flow.uuid ∧
              entry.timeEnd = some flow.timeEnd
      | _ => True
  | _ => True

instance (state : LiveState) : DecidablePred (EchoesTimes state)
  | .worker response => by
      rw [EchoesTimes]
      cases state.sync.worker <;> infer_instance
  | .newFlow .. => inferInstanceAs (Decidable True)
  | .change .. => inferInstanceAs (Decidable True)
  | .insertFlow .. => inferInstanceAs (Decidable True)
  | .updateFlow .. => inferInstanceAs (Decidable True)
  | .deleteFlowsWithAppId .. => inferInstanceAs (Decidable True)
  | .startSync => inferInstanceAs (Decidable True)

end LanShield.BackendSync
