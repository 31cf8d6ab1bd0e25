import LanShield.Library.KeyedTable
import Mathlib.Algebra.Ring.Nat
import Mathlib.Data.List.Sort
import Mathlib.Order.Fin.Basic

/-!
# The flow table

`LANFlow` as far as it is counted and synchronised, and the statements of
`FlowDao`.
-/

namespace LanShield.BackendSync

open LanShield.Library

/-- A `UUID` by its sixteen bytes as one unsigned number, which is how the
database compares the blobs. -/
abbrev UUID := Fin (2 ^ 128)

instance uuids_neZero : NeZero (2 ^ 128) :=
  ⟨by decide⟩

instance decidableMemUuids (uuid : UUID) (ids : List UUID) :
    Decidable (uuid ∈ ids) :=
  List.instDecidableMemOfLawfulBEq uuid ids

/-- The fields that neither the upload's counters nor its bookkeeping use
are left out. -/
structure LANFlow where
  appId : Option String
  uuid : UUID
  transportLayerProtocol : String
  timeEnd : Int
  packetCountEgress : Int
  packetCountIngress : Int
  dataIngress : Int
  dataEgress : Int
  tcpEstablishedReached : Bool
  timeEndAtLastSync : Int
  scheduledForDeletion : Bool
  dpiReport : Option String
  dpiProtocol : Option String
  deriving DecidableEq, Repr

namespace LANFlow

/-- The counters, the TCP flag and the results of packet inspection as
`writeJson` writes them. -/
structure Report where
  packetCountEgress : Int
  dataEgress : Int
  packetCountIngress : Int
  dataIngress : Int
  dpiReport : String
  dpiProtocol : String
  tcpEstablishedReached : Option Bool
  deriving DecidableEq, Repr

/-- `writeJson`. -/
def writeJson (flow : LANFlow) : Report where
  packetCountEgress := flow.packetCountEgress
  dataEgress := flow.dataEgress
  packetCountIngress := flow.packetCountIngress
  dataIngress := flow.dataIngress
  dpiReport := flow.dpiReport.getD "{}"
  dpiProtocol := flow.dpiProtocol.getD ""
  tcpEstablishedReached :=
    if flow.transportLayerProtocol = "TCP" then
      some flow.tcpEstablishedReached
    else
      none

/-- `createFlow`, at the given time. -/
def createFlow (appId : Option String) (uuid : UUID)
    (transportLayerProtocol : String) (time : Int) : LANFlow where
  appId
  uuid
  transportLayerProtocol
  timeEnd := time
  packetCountEgress := 0
  packetCountIngress := 0
  dataIngress := 0
  dataEgress := 0
  tcpEstablishedReached := false
  timeEndAtLastSync := 0
  scheduledForDeletion := false
  dpiReport := none
  dpiProtocol := none

/-- `increaseEgress`, at the time `now`. -/
def increaseEgress (amountPackets amountBytes now : Int) (flow : LANFlow) :
    LANFlow :=
  { flow with
    packetCountEgress := flow.packetCountEgress + amountPackets
    dataEgress := flow.dataEgress + amountBytes
    timeEnd := now }

/-- `increaseIngress`, at the time `now`. -/
def increaseIngress (amountPackets amountBytes now : Int) (flow : LANFlow) :
    LANFlow :=
  { flow with
    packetCountIngress := flow.packetCountIngress + amountPackets
    dataIngress := flow.dataIngress + amountBytes
    timeEnd := now }

end LANFlow

abbrev FlowTable := KeyedTable LANFlow.uuid

namespace FlowDao

/-- `updateFlow`. -/
def updateFlow (flow : LANFlow) : FlowTable → FlowTable :=
  KeyedTable.update (fun row => row.uuid = flow.uuid) (fun _ => flow)
    fun _ same => (of_decide_eq_true same).symm

/-- The order of `ORDER BY uuid`. -/
def ByUuid (row other : LANFlow) : Prop :=
  row.uuid ≤ other.uuid

instance : DecidableRel ByUuid :=
  fun row other => inferInstanceAs (Decidable (row.uuid ≤ other.uuid))

instance : IsTrans LANFlow ByUuid :=
  ⟨fun _ _ _ first second => le_trans first second⟩

instance : Std.Total ByUuid :=
  ⟨fun row other => le_total row.uuid other.uuid⟩

/-- The rows `getNotSyncedFlowsAfter` takes a page from. -/
def notSyncedFlowsAfter (afterUuid : UUID) (table : FlowTable) :
    List LANFlow :=
  (table.select fun row =>
    row.timeEndAtLastSync < row.timeEnd ∧ afterUuid < row.uuid).insertionSort
      ByUuid

/-- `getNotSyncedFlowsAfter`. -/
def getNotSyncedFlowsAfter (afterUuid : UUID) (limit : Nat)
    (table : FlowTable) : List LANFlow :=
  (notSyncedFlowsAfter afterUuid table).take limit

/-- `getFlowsPaged`.  The rows stand in the order of their `rowid`, as a row
that is inserted gets the highest one; an offset below zero counts as zero. -/
def getFlowsPaged (limit : Nat) (offset : Int) (table : FlowTable) :
    List LANFlow :=
  (table.rows.drop offset.toNat).take limit

/-- `updateFlowsSyncedTime`. -/
def updateFlowsSyncedTime (flowId : UUID) (timeEndLast : Int) :
    FlowTable → FlowTable :=
  KeyedTable.update (fun row => row.uuid = flowId)
    (fun row => { row with timeEndAtLastSync := timeEndLast }) fun _ _ => rfl

/-- `removeAllScheduledForDeletionById`. -/
def removeAllScheduledForDeletionById (ids : List UUID) :
    FlowTable → FlowTable :=
  KeyedTable.deleteWhere fun row =>
    row.uuid ∈ ids ∧ row.scheduledForDeletion = true

/-- `deleteFlow`. -/
def deleteFlow (flow : LANFlow) : FlowTable → FlowTable :=
  KeyedTable.deleteWhere fun row => row.uuid = flow.uuid

/-- `deleteFlowsWithAppId`. -/
def deleteFlowsWithAppId (appId : String) : FlowTable → FlowTable :=
  KeyedTable.deleteWhere fun row => row.appId = some appId

theorem mem_updateFlow {flow row : LANFlow} {table : FlowTable} :
    row ∈ updateFlow flow table ↔
      (∃ old ∈ table, old.uuid = flow.uuid ∧ row = flow) ∨
        row ∈ table ∧ row.uuid ≠ flow.uuid := by
  refine KeyedTable.mem_update.trans ?_
  simp

theorem mem_updateFlowsSyncedTime {flowId : UUID} {timeEndLast : Int}
    {row : LANFlow} {table : FlowTable} :
    row ∈ updateFlowsSyncedTime flowId timeEndLast table ↔
      (∃ old ∈ table, old.uuid = flowId ∧
          row = { old with timeEndAtLastSync := timeEndLast }) ∨
        row ∈ table ∧ row.uuid ≠ flowId := by
  refine KeyedTable.mem_update.trans ?_
  simp

theorem mem_of_mem_removeAll {ids : List UUID} {row : LANFlow}
    {table : FlowTable}
    (inside : row ∈ removeAllScheduledForDeletionById ids table) :
    row ∈ table :=
  (KeyedTable.mem_deleteWhere.mp inside).1

private theorem mem_notSyncedFlowsAfter {afterUuid : UUID} {table : FlowTable}
    {row : LANFlow} :
    row ∈ notSyncedFlowsAfter afterUuid table ↔
      row ∈ table ∧ row.timeEndAtLastSync < row.timeEnd ∧
        afterUuid < row.uuid := by
  rw [notSyncedFlowsAfter]
  rw [List.mem_insertionSort, KeyedTable.mem_select, decide_eq_true_iff]

private theorem pairwise_notSyncedFlowsAfter (afterUuid : UUID)
    (table : FlowTable) :
    (notSyncedFlowsAfter afterUuid table).Pairwise fun row other =>
      row.uuid < other.uuid := by
  have ordered :
      (notSyncedFlowsAfter afterUuid table).Pairwise ByUuid :=
    List.pairwise_insertionSort ByUuid _
  have distinct :
      ((notSyncedFlowsAfter afterUuid table).map LANFlow.uuid).Nodup := by
    rw [notSyncedFlowsAfter]
    rw [((List.perm_insertionSort ByUuid _).map LANFlow.uuid).nodup_iff]
    exact table.nodup_select _
  have different := List.pairwise_map.mp distinct
  exact (ordered.and different).imp fun both => lt_of_le_of_ne both.1 both.2

theorem of_mem_page {afterUuid : UUID} {limit : Nat} {table : FlowTable}
    {row : LANFlow}
    (read : row ∈ getNotSyncedFlowsAfter afterUuid limit table) :
    row ∈ table ∧ row.timeEndAtLastSync < row.timeEnd ∧
      afterUuid < row.uuid :=
  mem_notSyncedFlowsAfter.mp (List.mem_of_mem_take read)

theorem pairwise_page (afterUuid : UUID) (limit : Nat)
    (table : FlowTable) :
    (getNotSyncedFlowsAfter afterUuid limit table).Pairwise
      fun row other => row.uuid < other.uuid :=
  (pairwise_notSyncedFlowsAfter afterUuid table).sublist
    (List.take_sublist _ _)

/-- An unsynchronised flow behind the cursor is on the page or behind it. -/
theorem mem_page_or_behind {afterUuid : UUID} {limit : Nat}
    {table : FlowTable} {row : LANFlow} (inside : row ∈ table)
    (unsynced : row.timeEndAtLastSync < row.timeEnd)
    (behind : afterUuid < row.uuid) :
    row ∈ getNotSyncedFlowsAfter afterUuid limit table ∨
      ∀ other ∈ getNotSyncedFlowsAfter afterUuid limit table,
        other.uuid < row.uuid := by
  have wanted := mem_notSyncedFlowsAfter.mpr ⟨inside, unsynced, behind⟩
  have ordered := pairwise_notSyncedFlowsAfter afterUuid table
  rw [← List.take_append_drop limit
    (notSyncedFlowsAfter afterUuid table)] at wanted ordered
  rcases List.mem_append.mp wanted with taken | left
  · exact Or.inl taken
  · right
    intro other read
    exact (List.pairwise_append.mp ordered).2.2 other read row left

/-- A page is empty only if nothing is behind the cursor. -/
theorem page_ne_nil {afterUuid : UUID} {limit : Nat}
    (positive : 0 < limit) {table : FlowTable} {row : LANFlow}
    (inside : row ∈ table)
    (unsynced : row.timeEndAtLastSync < row.timeEnd)
    (behind : afterUuid < row.uuid) :
    getNotSyncedFlowsAfter afterUuid limit table ≠ [] := by
  have wanted := mem_notSyncedFlowsAfter.mpr ⟨inside, unsynced, behind⟩
  intro empty
  rcases List.take_eq_nil_iff.mp empty with none_taken | none_left
  · exact positive.ne' none_taken
  · rw [none_left] at wanted
    exact List.not_mem_nil wanted

end FlowDao

end LanShield.BackendSync
