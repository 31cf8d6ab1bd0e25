import LanShield.BackendSync.LiveFlows

/-!
# Whether a synchronised flow was uploaded

A row counts as synchronised when `timeEndAtLastSync` has reached `timeEnd`.
The counters move `timeEnd`; the TCP flag and the results of packet
inspection do not.
-/

namespace LanShield.BackendSync

open LanShield.Library

/-! ## Versions of a flow -/

/-- The second is a later version of the first.  Versions of one millisecond
have the same counters. -/
structure Older (first second : LANFlow) : Prop where
  uuid : first.uuid = second.uuid
  protocol :
    first.transportLayerProtocol = second.transportLayerProtocol
  timeEnd : first.timeEnd ≤ second.timeEnd
  counters :
    first.timeEnd = second.timeEnd →
      first.packetCountEgress = second.packetCountEgress ∧
        first.dataEgress = second.dataEgress ∧
        first.packetCountIngress = second.packetCountIngress ∧
        first.dataIngress = second.dataIngress

namespace Older

variable {first second third : LANFlow}

theorem refl (flow : LANFlow) : Older flow flow :=
  ⟨rfl, rfl, le_refl _, fun _ => ⟨rfl, rfl, rfl, rfl⟩⟩

theorem trans (left : Older first second) (right : Older second third) :
    Older first third where
  uuid := left.uuid.trans right.uuid
  protocol := left.protocol.trans right.protocol
  timeEnd := left.timeEnd.trans right.timeEnd
  counters same := by
    have start : first.timeEnd = second.timeEnd :=
      le_antisymm left.timeEnd (same ▸ right.timeEnd)
    obtain ⟨packets, data, inPackets, inData⟩ := left.counters start
    obtain ⟨packets', data', inPackets', inData'⟩ :=
      right.counters (start.symm.trans same)
    exact
      ⟨packets.trans packets', data.trans data',
        inPackets.trans inPackets', inData.trans inData'⟩

/-- The versions of a flow do not depend on when it was synchronised. -/
private theorem synced_right {time : Int} (older : Older first second) :
    Older first { second with timeEndAtLastSync := time } :=
  ⟨older.uuid, older.protocol, older.timeEnd, older.counters⟩

private theorem synced_left {time : Int} (older : Older first second) :
    Older { first with timeEndAtLastSync := time } second :=
  ⟨older.uuid, older.protocol, older.timeEnd, older.counters⟩

end Older

theorem FlowChange.older (change : FlowChange) (flow : LANFlow) :
    Older flow (change.apply flow) := by
  have later (elapsed : Nat) :
      flow.timeEnd < flow.timeEnd + 1 + elapsed := by
    omega
  have counted :
      flow.timeEnd = flow.timeEnd →
        flow.packetCountEgress = flow.packetCountEgress ∧
          flow.dataEgress = flow.dataEgress ∧
          flow.packetCountIngress = flow.packetCountIngress ∧
          flow.dataIngress = flow.dataIngress :=
    fun _ => ⟨rfl, rfl, rfl, rfl⟩
  cases change with
  | increaseEgress amountPackets amountBytes elapsed =>
      exact
        ⟨rfl, rfl, (later elapsed).le,
          fun same => absurd same (later elapsed).ne⟩
  | increaseIngress amountPackets amountBytes elapsed =>
      exact
        ⟨rfl, rfl, (later elapsed).le,
          fun same => absurd same (later elapsed).ne⟩
  | tcpEstablishedReached connected =>
      exact ⟨rfl, rfl, le_refl _, counted⟩
  | dpiReport report => exact ⟨rfl, rfl, le_refl _, counted⟩
  | dpiProtocol protocol => exact ⟨rfl, rfl, le_refl _, counted⟩

theorem FlowChange.fresh {flow : LANFlow}
    (fresh : flow.timeEndAtLastSync = 0 ∧ 0 < flow.timeEnd)
    (change : FlowChange) :
    (change.apply flow).timeEndAtLastSync = 0 ∧
      0 < (change.apply flow).timeEnd := by
  have newer := (change.older flow).timeEnd
  refine ⟨?_, fresh.2.trans_le newer⟩
  cases change with
  | increaseEgress amountPackets amountBytes elapsed => exact fresh.1
  | increaseIngress amountPackets amountBytes elapsed => exact fresh.1
  | tcpEstablishedReached connected => exact fresh.1
  | dpiReport report => exact fresh.1
  | dpiProtocol protocol => exact fresh.1

/-! ## What holds between two calls -/

/-- The batch `syncFlows` has uploaded. -/
def FlowsWorker.batch : FlowsWorker → List LANFlow
  | .idle => []
  | .query _ => []
  | .post batch => batch
  | .mark batch _ _ => batch

structure LiveState.Carried (state : LiveState) : Prop where
  fresh :
    ∀ flow ∈ state.live,
      flow.timeEndAtLastSync = 0 ∧ 0 < flow.timeEnd
  row_live :
    ∀ row ∈ state.sync.flows, ∃ flow ∈ state.live, Older row flow
  distinct : (state.sync.worker.batch.map LANFlow.uuid).Nodup
  batch_live :
    ∀ entry ∈ state.sync.worker.batch, ∃ flow ∈ state.live,
      Older entry flow
  batch_row :
    ∀ entry ∈ state.sync.worker.batch, ∀ row ∈ state.sync.flows,
      row.uuid = entry.uuid → Older entry row
  post_unsynced :
    ∀ batch, state.sync.worker = .post batch →
      ∀ entry ∈ batch, ∀ row ∈ state.sync.flows,
        row.uuid = entry.uuid → row.timeEndAtLastSync < row.timeEnd
  marks :
    ∀ batch remaining flowIds,
      state.sync.worker = .mark batch remaining flowIds →
        ∀ mark ∈ remaining, ∃ entry ∈ batch,
          mark.flowId = some entry.uuid ∧
            mark.timeEnd = some entry.timeEnd ∧
            state.acknowledged entry.uuid = some entry.writeJson

/-- What counts as synchronised was uploaded as it is. -/
def LiveState.Uploaded (state : LiveState) : Prop :=
  ∀ row ∈ state.sync.flows, row.timeEnd ≤ row.timeEndAtLastSync →
    state.acknowledged row.uuid = some row.writeJson

/-- The fields of an upload that do not move `timeEnd`. -/
def SameFlags (first second : LANFlow.Report) : Prop :=
  first.tcpEstablishedReached = second.tcpEstablishedReached ∧
    first.dpiReport = second.dpiReport ∧
    first.dpiProtocol = second.dpiProtocol

instance (first second : LANFlow.Report) :
    Decidable (SameFlags first second) :=
  inferInstanceAs (Decidable (_ ∧ _ ∧ _))

/-- Where `updateFlowsSyncedTime` meets a row of the uploaded `timeEnd`, the
row has the uploaded flag and inspection results. -/
def MarksUploadedFlags (state : LiveState) : LiveEvent → Prop
  | .worker _ =>
      match state.sync.worker with
      | .mark batch (mark :: _) _ =>
          ∀ entry ∈ batch, mark.flowId = some entry.uuid →
            ∀ row ∈ state.sync.flows, row.uuid = entry.uuid →
              row.timeEnd = entry.timeEnd →
                SameFlags entry.writeJson row.writeJson
      | _ => True
  | _ => True

instance (state : LiveState) : DecidablePred (MarksUploadedFlags state)
  | .worker _ =>
      match phase : state.sync.worker with
      | .mark batch (mark :: _) _ =>
          decidable_of_iff
            (∀ entry ∈ batch, mark.flowId = some entry.uuid →
              ∀ row ∈ state.sync.flows, row.uuid = entry.uuid →
                row.timeEnd = entry.timeEnd →
                  SameFlags entry.writeJson row.writeJson)
            (by simp only [MarksUploadedFlags, phase])
      | .idle | .query _ | .post _ | .mark _ [] _ =>
          isTrue (by simp only [MarksUploadedFlags, phase])
  | .newFlow .. => inferInstanceAs (Decidable True)
  | .change .. => inferInstanceAs (Decidable True)
  | .insertFlow .. => inferInstanceAs (Decidable True)
  | .updateFlow .. => inferInstanceAs (Decidable True)
  | .deleteFlowsWithAppId .. => inferInstanceAs (Decidable True)
  | .startSync => inferInstanceAs (Decidable True)

/-- Of two versions of one millisecond, only the flags can differ. -/
private theorem writeJson_eq_iff {entry row : LANFlow}
    (older : Older entry row)
    (same : row.timeEnd = entry.timeEnd) :
    entry.writeJson = row.writeJson ↔
      SameFlags entry.writeJson row.writeJson := by
  obtain ⟨packets, data, inPackets, inData⟩ := older.counters same.symm
  constructor
  · intro equal
    rw [equal]
    exact ⟨rfl, rfl, rfl⟩
  · rintro ⟨established, report, protocol⟩
    rw [LANFlow.writeJson] at *
    dsimp only at established report protocol
    rw [LANFlow.Report.mk.injEq]
    exact
      ⟨packets, data, inPackets, inData, report, protocol, established⟩

/-! ## Steps of the sessions -/

namespace LiveState

variable {state : LiveState}

/-- Flows in memory come and change. -/
theorem Carried.live (carried : state.Carried) {live : FlowTable}
    (grows : ∀ flow ∈ state.live, ∃ newer ∈ live, Older flow newer)
    (fresh :
      ∀ flow ∈ live, flow.timeEndAtLastSync = 0 ∧ 0 < flow.timeEnd) :
    Carried { state with live } where
  fresh := fresh
  row_live row inside := by
    obtain ⟨flow, member, older⟩ := carried.row_live row inside
    obtain ⟨newer, later, grown⟩ := grows flow member
    exact ⟨newer, later, older.trans grown⟩
  distinct := carried.distinct
  batch_live entry inside := by
    obtain ⟨flow, member, older⟩ := carried.batch_live entry inside
    obtain ⟨newer, later, grown⟩ := grows flow member
    exact ⟨newer, later, older.trans grown⟩
  batch_row := carried.batch_row
  post_unsynced := carried.post_unsynced
  marks := carried.marks

/-- Rows go, or are replaced by a flow in memory. -/
theorem Carried.store (carried : state.Carried) {flows : FlowTable}
    (rows : ∀ row ∈ flows, row ∈ state.live ∨ row ∈ state.sync.flows) :
    Carried { state with sync := { state.sync with flows } } where
  fresh := carried.fresh
  row_live row inside := by
    rcases rows row inside with stored | kept
    · exact ⟨row, stored, .refl row⟩
    · exact carried.row_live row kept
  distinct := carried.distinct
  batch_live := carried.batch_live
  batch_row entry member row inside same := by
    rcases rows row inside with stored | kept
    · obtain ⟨flow, found, older⟩ := carried.batch_live entry member
      have equal : flow = row :=
        KeyedTable.eq_of_key found stored (older.uuid.symm.trans same.symm)
      rw [← equal]
      exact older
    · exact carried.batch_row entry member row kept same
  post_unsynced batch phase entry member row inside same := by
    rcases rows row inside with stored | kept
    · obtain ⟨never, positive⟩ := carried.fresh row stored
      rw [never]
      exact positive
    · exact carried.post_unsynced batch phase entry member row kept same
  marks := carried.marks

theorem Uploaded.store (uploaded : state.Uploaded)
    (carried : state.Carried) {flows : FlowTable}
    (rows : ∀ row ∈ flows, row ∈ state.live ∨ row ∈ state.sync.flows) :
    Uploaded { state with sync := { state.sync with flows } } := by
  intro row inside synced
  rcases rows row inside with stored | kept
  · obtain ⟨never, positive⟩ := carried.fresh row stored
    rw [never] at synced
    exact absurd synced (not_le_of_gt positive)
  · exact uploaded row kept synced

/-- A step of a session leaves the worker and the server alone, and writes
only flows in memory to the table. -/
inductive SessionStep (state : LiveState) : LiveState → Prop
  | live (live : FlowTable) :
      (∀ flow ∈ state.live, ∃ newer ∈ live, Older flow newer) →
      (∀ flow ∈ live, flow.timeEndAtLastSync = 0 ∧ 0 < flow.timeEnd) →
      SessionStep state { state with live }
  | store (flows : FlowTable) :
      (∀ row ∈ flows, row ∈ state.live ∨ row ∈ state.sync.flows) →
      SessionStep state { state with sync := { state.sync with flows } }

theorem SessionStep.unchanged (carried : state.Carried) :
    SessionStep state state :=
  .live state.live (fun flow inside => ⟨flow, inside, .refl flow⟩)
    carried.fresh

private theorem newFlow_step (carried : state.Carried) {flow : LANFlow}
    (fresh : flow.timeEndAtLastSync = 0 ∧ 0 < flow.timeEnd) :
    SessionStep state (state.newFlow flow) := by
  rw [newFlow]
  split
  · exact .unchanged carried
  · next unknown =>
    apply SessionStep.live
    · intro other inside
      have different := KeyedTable.find_eq_none_iff.mp unknown other inside
      exact
        ⟨other, KeyedTable.mem_insert.mpr (Or.inr ⟨inside, different⟩),
          .refl other⟩
    · intro other inside
      rcases KeyedTable.mem_insert.mp inside with rfl | ⟨member, _⟩
      · exact fresh
      · exact carried.fresh other member

private theorem change_step (carried : state.Carried) (uuid : UUID)
    (change : FlowChange) (batchSize : Nat) :
    SessionStep state (liveStep batchSize state (.change uuid change)) := by
  apply SessionStep.live
  · intro flow inside
    by_cases chosen : flow.uuid = uuid
    · refine ⟨change.apply flow, KeyedTable.mem_update.mpr ?_, ?_⟩
      · exact Or.inl ⟨flow, inside, decide_eq_true chosen, rfl⟩
      · exact change.older flow
    · refine ⟨flow, KeyedTable.mem_update.mpr ?_, .refl flow⟩
      exact Or.inr ⟨inside, decide_eq_false chosen⟩
  · intro flow inside
    rcases KeyedTable.mem_update.mp inside with
      ⟨old, member, _, rfl⟩ | ⟨member, _⟩
    · exact change.fresh (carried.fresh old member)
    · exact carried.fresh flow member

private theorem store_step (carried : state.Carried)
    {statement : LANFlow → FlowTable → FlowTable}
    (writes :
      ∀ flow table, ∀ row ∈ statement flow table, row = flow ∨ row ∈ table)
    (uuid : UUID) : SessionStep state (state.store statement uuid) := by
  rw [LiveState.store]
  split
  · exact .unchanged carried
  · next flow found =>
    apply SessionStep.store
    intro row inside
    rcases writes flow state.sync.flows row inside with rfl | kept
    · exact Or.inl (KeyedTable.find_eq_some_iff.mp found).1
    · exact Or.inr kept

theorem SessionStep.carried {after : LiveState}
    (step : SessionStep state after) (carried : state.Carried) :
    after.Carried := by
  cases step with
  | live live grows fresh => exact carried.live grows fresh
  | store flows rows => exact carried.store rows

theorem SessionStep.uploaded {after : LiveState}
    (step : SessionStep state after) (carried : state.Carried)
    (uploaded : state.Uploaded) : after.Uploaded := by
  cases step with
  | live live grows fresh => exact uploaded
  | store flows rows => exact uploaded.store carried rows

/-! ## Calls of `syncFlows` -/

/-- `syncFlows` goes on without a batch. -/
private theorem Carried.unbatched (carried : state.Carried)
    {flows : FlowTable}
    {worker : FlowsWorker} {posted : List (List LANFlow)}
    {acknowledged : UUID → Option LANFlow.Report}
    (rows : ∀ row ∈ flows, row ∈ state.sync.flows)
    (waits : worker = .idle ∨ ∃ cursor, worker = .query cursor) :
    Carried
      { state with sync := { flows, worker, posted }, acknowledged } := by
  have empty : worker.batch = [] := by
    rcases waits with rfl | ⟨cursor, rfl⟩
    · rfl
    · rfl
  refine ⟨carried.fresh, ?_, ?_, ?_, ?_, ?_, ?_⟩
  · exact fun row inside => carried.row_live row (rows row inside)
  · rw [empty]
    exact List.nodup_nil
  · intro entry inside
    rw [empty] at inside
    exact absurd inside List.not_mem_nil
  · intro entry inside
    rw [empty] at inside
    exact absurd inside List.not_mem_nil
  · rintro batch rfl
    rcases waits with impossible | ⟨cursor, impossible⟩
    · cases impossible
    · cases impossible
  · rintro batch remaining flowIds rfl
    rcases waits with impossible | ⟨cursor, impossible⟩
    · cases impossible
    · cases impossible

/-- A page has been read. -/
theorem Carried.page (carried : state.Carried) (cursor : UUID)
    (batchSize : Nat) {posted : List (List LANFlow)} :
    Carried
      { state with
        sync :=
          { state.sync with
            worker :=
              .post
                (FlowDao.getNotSyncedFlowsAfter cursor batchSize
                  state.sync.flows)
            posted } } where
  fresh := carried.fresh
  row_live := carried.row_live
  distinct := by
    have ordered :=
      FlowDao.pairwise_page cursor batchSize state.sync.flows
    exact List.pairwise_map.mpr (ordered.imp fun less => ne_of_lt less)
  batch_live entry inside :=
    carried.row_live entry (FlowDao.of_mem_page inside).1
  batch_row entry inside row member same := by
    have read := (FlowDao.of_mem_page inside).1
    rw [KeyedTable.eq_of_key member read same]
    exact .refl entry
  post_unsynced := by
    rintro batch phase entry inside row member same
    obtain rfl := FlowsWorker.post.inj phase
    obtain ⟨read, unsynced, _⟩ := FlowDao.of_mem_page inside
    rw [KeyedTable.eq_of_key member read same]
    exact unsynced
  marks := by
    rintro batch remaining flowIds impossible
    cases impossible

private theorem acknowledge_entry {batch : List LANFlow}
    {entries : List Acknowledgment}
    {acknowledged : UUID → Option LANFlow.Report} {entry : LANFlow}
    (distinct : (batch.map LANFlow.uuid).Nodup) (inside : entry ∈ batch)
    (listed : ∃ mark ∈ entries, mark.flowId = some entry.uuid) :
    acknowledge batch entries acknowledged entry.uuid =
      some entry.writeJson := by
  let table : FlowTable := ⟨batch, distinct⟩
  have member : entry ∈ table := inside
  have found : table.find entry.uuid = some entry :=
    KeyedTable.find_eq_some_iff.mpr ⟨member, rfl⟩
  rw [KeyedTable.find] at found
  rw [acknowledge]
  rw [found]
  exact if_pos listed

private theorem acknowledge_other {batch : List LANFlow}
    {entries : List Acknowledgment}
    {acknowledged : UUID → Option LANFlow.Report} {id : UUID}
    (outside : ∀ entry ∈ batch, entry.uuid ≠ id) :
    acknowledge batch entries acknowledged id = acknowledged id := by
  have absent : batch.find? (fun flow => flow.uuid = id) = none := by
    apply List.find?_eq_none.mpr
    intro entry inside
    simpa using outside entry inside
  rw [acknowledge]
  rw [absent]

section Answers

variable {batch : List LANFlow}

/-- The server has acknowledged flows of the batch. -/
theorem Carried.answer (carried : state.Carried)
    (phase : state.sync.worker = .post batch)
    {entries : List Acknowledgment}
    (echo :
      ∀ mark ∈ entries, ∃ entry ∈ batch,
        mark.flowId = some entry.uuid ∧
          mark.timeEnd = some entry.timeEnd) :
    Carried
      { state with
        sync := { state.sync with worker := .mark batch entries [] }
        acknowledged :=
          acknowledge batch entries state.acknowledged } := by
  obtain ⟨fresh, row_live, distinct, batch_live, batch_row, _, _⟩ := carried
  rw [phase] at distinct batch_live batch_row
  refine ⟨fresh, row_live, distinct, batch_live, batch_row, ?_, ?_⟩
  · rintro other impossible
    cases impossible
  · rintro other remaining flowIds same mark inside
    obtain ⟨rfl, rfl, _⟩ := FlowsWorker.mark.inj same
    obtain ⟨entry, member, named, timed⟩ := echo mark inside
    refine ⟨entry, member, named, timed, ?_⟩
    exact acknowledge_entry distinct member ⟨mark, inside, named⟩

/-- The rows of the batch do not count as synchronised yet. -/
theorem Uploaded.answer (uploaded : state.Uploaded)
    (carried : state.Carried) (phase : state.sync.worker = .post batch)
    (entries : List Acknowledgment) (worker : FlowsWorker) :
    Uploaded
      { state with
        sync := { state.sync with worker }
        acknowledged :=
          acknowledge batch entries state.acknowledged } := by
  intro row inside synced
  have outside : ∀ entry ∈ batch, entry.uuid ≠ row.uuid := by
    intro entry member same
    have unsynced :=
      carried.post_unsynced batch phase entry member row inside same.symm
    exact absurd synced (not_le_of_gt unsynced)
  dsimp only
  rw [acknowledge_other outside]
  exact uploaded row inside synced

/-- `updateFlowsSyncedTime` for an uploaded flow. -/
theorem Carried.mark (carried : state.Carried) {mark : Acknowledgment}
    {remaining : List Acknowledgment} {flowIds : List UUID}
    (phase : state.sync.worker = .mark batch (mark :: remaining) flowIds)
    (entry : LANFlow) (ids : List UUID) :
    Carried
      { state with
        sync :=
          { state.sync with
            flows :=
              FlowDao.updateFlowsSyncedTime entry.uuid entry.timeEnd
                state.sync.flows
            worker := .mark batch remaining ids } } := by
  obtain ⟨fresh, row_live, distinct, batch_live, batch_row, _, marks⟩ :=
    carried
  rw [phase] at distinct batch_live batch_row
  refine ⟨fresh, ?_, distinct, batch_live, ?_, ?_, ?_⟩
  · intro row inside
    rcases FlowDao.mem_updateFlowsSyncedTime.mp inside with
      ⟨old, member, _, rfl⟩ | ⟨member, _⟩
    · obtain ⟨flow, found, older⟩ := row_live old member
      exact ⟨flow, found, older.synced_left⟩
    · exact row_live row member
  · intro other read row inside same
    rcases FlowDao.mem_updateFlowsSyncedTime.mp inside with
      ⟨old, member, _, rfl⟩ | ⟨member, _⟩
    · exact (batch_row other read old member same).synced_right
    · exact batch_row other read row member same
  · rintro other impossible
    cases impossible
  · rintro other left flowIds same later inside
    obtain ⟨rfl, rfl, _⟩ := FlowsWorker.mark.inj same
    exact
      marks batch (mark :: remaining) _ phase later
        (List.mem_cons_of_mem mark inside)

/-- Afterwards everything that counts as synchronised is uploaded exactly
when the row has the uploaded flags, or a later `timeEnd`. -/
private theorem uploaded_mark_iff (uploaded : state.Uploaded)
    (carried : state.Carried) (worker : FlowsWorker) {entry : LANFlow}
    (phase : state.sync.worker.batch = batch) (read : entry ∈ batch)
    (acknowledged :
      state.acknowledged entry.uuid = some entry.writeJson) :
    Uploaded
        { state with
          sync :=
            { state.sync with
              flows :=
                FlowDao.updateFlowsSyncedTime entry.uuid entry.timeEnd
                  state.sync.flows
              worker } } ↔
      ∀ row ∈ state.sync.flows, row.uuid = entry.uuid →
        row.timeEnd = entry.timeEnd →
          SameFlags entry.writeJson row.writeJson := by
  rw [← phase] at read
  constructor
  · intro after row inside same timed
    have older := carried.batch_row entry read row inside same
    have marked :
        { row with timeEndAtLastSync := entry.timeEnd } ∈
          FlowDao.updateFlowsSyncedTime entry.uuid entry.timeEnd
            state.sync.flows :=
      FlowDao.mem_updateFlowsSyncedTime.mpr
        (Or.inl ⟨row, inside, same, rfl⟩)
    have carriedOver := after _ marked timed.le
    have known : state.acknowledged row.uuid = some row.writeJson :=
      carriedOver
    rw [same, acknowledged, Option.some.injEq] at known
    exact (writeJson_eq_iff older timed).mp known
  · intro flags row inside synced
    rcases FlowDao.mem_updateFlowsSyncedTime.mp inside with
      ⟨old, member, same, rfl⟩ | ⟨member, _⟩
    · have older := carried.batch_row entry read old member same
      have timed : old.timeEnd = entry.timeEnd :=
        le_antisymm synced older.timeEnd
      have equal :=
        (writeJson_eq_iff older timed).mpr (flags old member same timed)
      have known : state.acknowledged old.uuid = some old.writeJson := by
        rw [same, acknowledged, equal]
      exact known
    · exact uploaded row member synced

end Answers

/-- What one call of `syncFlows` does when the server echoes the times it
was sent. -/
inductive WorkerStep (batchSize : Nat) (state : LiveState) :
    LiveState → Prop
  | unbatched (flows : FlowTable) (worker : FlowsWorker) :
      (∀ batch mark remaining flowIds,
        state.sync.worker ≠ .mark batch (mark :: remaining) flowIds) →
      (∀ row ∈ flows, row ∈ state.sync.flows) →
      (worker = .idle ∨ ∃ cursor, worker = .query cursor) →
      WorkerStep batchSize state
        { state with sync := { state.sync with flows, worker } }
  | page (cursor : UUID) (posted : List (List LANFlow)) :
      state.sync.worker = .query cursor →
      WorkerStep batchSize state
        { state with
          sync :=
            { state.sync with
              worker :=
                .post
                  (FlowDao.getNotSyncedFlowsAfter cursor batchSize
                    state.sync.flows)
              posted } }
  | answer (batch : List LANFlow) (entries : List Acknowledgment) :
      state.sync.worker = .post batch →
      (∀ mark ∈ entries, ∃ entry ∈ batch,
        mark.flowId = some entry.uuid ∧
          mark.timeEnd = some entry.timeEnd) →
      WorkerStep batchSize state
        { state with
          sync := { state.sync with worker := .mark batch entries [] }
          acknowledged :=
            acknowledge batch entries state.acknowledged }
  | mark (batch : List LANFlow) (mark : Acknowledgment)
      (remaining : List Acknowledgment) (flowIds ids : List UUID)
      (entry : LANFlow) :
      state.sync.worker = .mark batch (mark :: remaining) flowIds →
      entry ∈ batch →
      mark.flowId = some entry.uuid →
      state.acknowledged entry.uuid = some entry.writeJson →
      WorkerStep batchSize state
        { state with
          sync :=
            { state.sync with
              flows :=
                FlowDao.updateFlowsSyncedTime entry.uuid entry.timeEnd
                  state.sync.flows
              worker := .mark batch remaining ids } }

private theorem worker_step {batchSize : Nat} (carried : state.Carried)
    {response : FlowsResponse}
    (echo : EchoesTimes state (.worker response)) :
    WorkerStep batchSize state
      (liveStep batchSize state (.worker response)) := by
  have same_rows : ∀ row ∈ state.sync.flows, row ∈ state.sync.flows :=
    fun _ inside => inside
  rw [EchoesTimes] at echo
  cases phase : state.sync.worker with
  | idle =>
      have stepped :
          liveStep batchSize state (.worker response) =
            { state with sync := { state.sync with worker := .idle } } := by
        simp only [liveStep, syncFlows, FlowsState.syncFlows, phase]
        rw [← phase]
      rw [stepped]
      refine .unbatched state.sync.flows .idle ?_ same_rows (Or.inl rfl)
      simp [phase]
  | query cursor =>
      by_cases empty :
          (FlowDao.getNotSyncedFlowsAfter cursor batchSize
            state.sync.flows).isEmpty = true
      · have stepped :
            liveStep batchSize state (.worker response) =
              { state with
                sync := { state.sync with worker := .idle } } := by
          simp only [liveStep, syncFlows, FlowsState.syncFlows, phase,
            if_pos empty]
        rw [stepped]
        refine .unbatched state.sync.flows .idle ?_ same_rows (Or.inl rfl)
        simp [phase]
      · have stepped :
            liveStep batchSize state (.worker response) =
              { state with
                sync :=
                  { state.sync with
                    worker :=
                      .post
                        (FlowDao.getNotSyncedFlowsAfter cursor batchSize
                          state.sync.flows)
                    posted :=
                      state.sync.posted ++
                        [FlowDao.getNotSyncedFlowsAfter cursor batchSize
                          state.sync.flows] } } := by
          simp only [liveStep, syncFlows, FlowsState.syncFlows, phase,
            if_neg empty]
        rw [stepped]
        exact .page cursor _ phase
  | post batch =>
      rw [phase] at echo
      cases same : response.sameInstallation with
      | false =>
          have stepped :
              liveStep batchSize state (.worker response) =
                { state with
                  sync :=
                    { state.sync with
                      worker := .query (lastUuid batch) } } := by
            simp only [liveStep, syncFlows, FlowsState.syncFlows, phase,
              same, Bool.false_eq_true, if_false]
          rw [stepped]
          refine
            .unbatched state.sync.flows _ ?_ same_rows (Or.inr ⟨_, rfl⟩)
          simp [phase]
      | true =>
          have stepped :
              liveStep batchSize state (.worker response) =
                { state with
                  sync :=
                    { state.sync with
                      worker := .mark batch response.flows [] }
                  acknowledged :=
                    acknowledge batch response.flows
                      state.acknowledged } := by
            simp only [liveStep, syncFlows, FlowsState.syncFlows, phase,
              same, if_true]
          rw [stepped]
          exact .answer batch response.flows phase echo
  | mark batch remaining flowIds =>
      cases remaining with
      | nil =>
          have stepped :
              liveStep batchSize state (.worker response) =
                { state with
                  sync :=
                    { state.sync with
                      flows :=
                        FlowDao.removeAllScheduledForDeletionById flowIds
                          state.sync.flows
                      worker := .query (lastUuid batch) } } := by
            simp only [liveStep, syncFlows, FlowsState.syncFlows, phase]
          rw [stepped]
          refine
            .unbatched _ _ ?_ (fun _ => FlowDao.mem_of_mem_removeAll)
              (Or.inr ⟨_, rfl⟩)
          simp [phase]
      | cons mark remaining =>
          obtain ⟨entry, read, named, timed, acknowledged⟩ :=
            carried.marks batch (mark :: remaining) flowIds phase mark
              List.mem_cons_self
          have stepped :
              liveStep batchSize state (.worker response) =
                { state with
                  sync :=
                    { state.sync with
                      flows :=
                        FlowDao.updateFlowsSyncedTime entry.uuid
                          entry.timeEnd state.sync.flows
                      worker :=
                        .mark batch remaining
                          (flowIds ++ [entry.uuid]) } } := by
            simp only [liveStep, syncFlows, FlowsState.syncFlows,
              FlowsState.markNext, phase, named, timed]
          rw [stepped]
          exact
            .mark batch mark remaining flowIds _ entry phase read named
              acknowledged

theorem WorkerStep.carried {batchSize : Nat} {after : LiveState}
    (step : WorkerStep batchSize state after) (carried : state.Carried) :
    after.Carried := by
  cases step with
  | unbatched flows worker silent rows waits =>
      exact carried.unbatched rows waits
  | page cursor posted phase => exact carried.page cursor batchSize
  | answer batch entries phase echo => exact carried.answer phase echo
  | mark batch mark remaining flowIds ids entry phase read named known =>
      exact carried.mark phase entry ids

private theorem WorkerStep.keepsUploaded_iff {batchSize : Nat}
    {after : LiveState}
    (step : WorkerStep batchSize state after) (carried : state.Carried)
    (uploaded : state.Uploaded) (response : FlowsResponse) :
    after.Uploaded ↔ MarksUploadedFlags state (.worker response) := by
  have silent
      (none :
        ∀ batch mark remaining flowIds,
          state.sync.worker ≠ .mark batch (mark :: remaining) flowIds) :
      MarksUploadedFlags state (.worker response) := by
    unfold MarksUploadedFlags
    dsimp only
    split
    · next batch mark remaining flowIds phase =>
      exact absurd phase (none batch mark remaining flowIds)
    · trivial
  cases step with
  | unbatched flows worker none rows waits =>
      refine iff_of_true ?_ (silent none)
      intro row inside synced
      exact uploaded row (rows row inside) synced
  | page cursor posted phase =>
      refine iff_of_true uploaded (silent ?_)
      simp [phase]
  | answer batch entries phase echo =>
      refine iff_of_true (uploaded.answer carried phase entries _)
        (silent ?_)
      simp [phase]
  | mark batch mark remaining flowIds ids entry phase read named known =>
      have marked :=
        uploaded_mark_iff uploaded carried (.mark batch remaining ids)
          (congrArg FlowsWorker.batch phase) read known
      refine marked.trans ?_
      simp only [MarksUploadedFlags, phase]
      constructor
      · intro flags other member same row inside sameRow timed
        have distinct := carried.distinct
        rw [phase] at distinct
        have equal : other = entry :=
          List.inj_on_of_nodup_map distinct member read
            (Option.some.inj (same.symm.trans named))
        subst equal
        exact flags row inside sameRow timed
      · intro flags row inside same timed
        exact flags entry read named row inside same timed

/-! ## Runs -/

private theorem session_step {batchSize : Nat} (carried : state.Carried)
    {event : LiveEvent} (session : ∀ response, event ≠ .worker response)
    (notSync : event ≠ .startSync) :
    SessionStep state (liveStep batchSize state event) := by
  cases event with
  | newFlow new =>
      exact newFlow_step carried ⟨new.neverSynced, new.positive⟩
  | change uuid change => exact change_step carried uuid change batchSize
  | insertFlow uuid =>
      refine store_step carried (fun flow table row inside => ?_) uuid
      exact (KeyedTable.mem_insert.mp inside).imp_right And.left
  | updateFlow uuid =>
      refine store_step carried (fun flow table row inside => ?_) uuid
      rcases FlowDao.mem_updateFlow.mp inside with
        ⟨_, _, _, rfl⟩ | ⟨member, _⟩
      · exact Or.inl rfl
      · exact Or.inr member
  | deleteFlowsWithAppId appId =>
      refine .store _ fun row inside => Or.inr ?_
      exact (KeyedTable.mem_deleteWhere.mp inside).1
  | startSync => exact absurd rfl notSync
  | worker response => exact absurd rfl (session response)

theorem carried_step {batchSize : Nat} (carried : state.Carried)
    {event : LiveEvent} (echo : EchoesTimes state event) :
    (liveStep batchSize state event).Carried := by
  by_cases session : ∃ response, event = .worker response
  · obtain ⟨response, rfl⟩ := session
    exact (worker_step carried echo).carried carried
  · by_cases sync : event = .startSync
    · subst sync
      unfold liveStep FlowsState.startSync
      dsimp only
      split
      · exact
          carried.unbatched (fun _ inside => inside) (Or.inr ⟨_, rfl⟩)
      · exact carried
    · push Not at session
      exact (session_step carried session sync).carried carried

private theorem uploaded_step {batchSize : Nat} (carried : state.Carried)
    (uploaded : state.Uploaded) {event : LiveEvent}
    (echo : EchoesTimes state event) :
    (liveStep batchSize state event).Uploaded ↔
      MarksUploadedFlags state event := by
  by_cases session : ∃ response, event = .worker response
  · obtain ⟨response, rfl⟩ := session
    exact
      (worker_step carried echo).keepsUploaded_iff carried uploaded response
  · have silent : MarksUploadedFlags state event := by
      unfold MarksUploadedFlags
      split
      · next response => exact absurd ⟨response, rfl⟩ session
      · trivial
    refine iff_of_true ?_ silent
    by_cases sync : event = .startSync
    · subst sync
      unfold liveStep FlowsState.startSync
      dsimp only
      split
      · exact uploaded
      · exact uploaded
    · push Not at session
      exact
        (session_step carried session sync).uploaded carried uploaded

theorem carried_start : LiveState.start.Carried where
  fresh _ inside := absurd inside List.not_mem_nil
  row_live _ inside := absurd inside List.not_mem_nil
  distinct := List.nodup_nil
  batch_live _ inside := absurd inside List.not_mem_nil
  batch_row _ inside := absurd inside List.not_mem_nil
  post_unsynced _ impossible := nomatch impossible
  marks _ _ _ impossible := nomatch impossible

end LiveState

/-- With a server that echoes the times it was sent, whatever counts as
synchronised has been uploaded, in every state of a run, if and only if no
row is marked whose flag or inspection results changed since it was read.
The counters need no such care. -/
theorem uploaded_iff (batchSize : Nat) (events : List LiveEvent)
    (echo :
      StepsMeet (liveStep batchSize) EchoesTimes .start events) :
    (∀ visited, visited <+: events →
      (run (liveStep batchSize) .start visited).Uploaded) ↔
      StepsMeet (liveStep batchSize) MarksUploadedFlags .start events := by
  have exact_run :=
    @forall_prefix_iff_stepsMeet LiveState LiveEvent (liveStep batchSize)
      MarksUploadedFlags
      (fun handled event =>
        EchoesTimes (run (liveStep batchSize) .start handled) event)
      (fun handled state =>
        state = run (liveStep batchSize) .start handled ∧ state.Carried)
      (fun _ state => state.Uploaded)
      (by
        rintro handled state event echo ⟨rfl, carried⟩ uploaded
        exact LiveState.uploaded_step carried uploaded echo)
      (by
        rintro handled state event echo ⟨rfl, carried⟩ _
        exact
          ⟨(run_concat _ _ _ _).symm,
            LiveState.carried_step carried echo⟩)
      events [] LiveState.start
  apply exact_run
  · exact StepsMeet.along echo
  · exact ⟨rfl, LiveState.carried_start⟩
  · exact fun _ inside => absurd inside List.not_mem_nil

/-- The flow of a session whose first packet has been counted. -/
def countedFlow : NewFlow where
  flow := (LANFlow.createFlow none 1 "TCP" 5).increaseEgress 1 40 6
  neverSynced := rfl
  positive := by decide

/-- The flow is uploaded and acknowledged, and a change is written to its
row before it is marked. -/
def changeDuringUpload (change : FlowChange) : List LiveEvent :=
  [.newFlow countedFlow, .insertFlow 1, .startSync,
    .worker ⟨true, []⟩, .worker ⟨true, [⟨some 1, some 6⟩]⟩,
    .change 1 change, .updateFlow 1, .worker ⟨true, []⟩]

/-- The state behind it. -/
def changedDuringUpload (change : FlowChange) : LiveState :=
  run (liveStep 500) .start (changeDuringUpload change)

theorem dpi_not_uploaded :
    StepsMeet (liveStep 500) EchoesTimes .start
        (changeDuringUpload (.dpiProtocol (some "DNS"))) ∧
      ¬ (changedDuringUpload (.dpiProtocol (some "DNS"))).Uploaded := by
  refine ⟨by decide +kernel, fun uploaded => ?_⟩
  have row :
      ∃ row ∈ (changedDuringUpload
          (.dpiProtocol (some "DNS"))).sync.flows,
        row.timeEnd ≤ row.timeEndAtLastSync ∧
          (changedDuringUpload
            (.dpiProtocol (some "DNS"))).acknowledged row.uuid ≠
              some row.writeJson := by
    decide +kernel
  obtain ⟨row, inside, synced, different⟩ := row
  exact different (uploaded row inside synced)

theorem uploaded_of_counted :
    StepsMeet (liveStep 500) EchoesTimes .start
        (changeDuringUpload (.increaseIngress 1 80 0)) ∧
      ∀ visited,
        visited <+: changeDuringUpload (.increaseIngress 1 80 0) →
          (run (liveStep 500) .start visited).Uploaded := by
  have echoes :
      StepsMeet (liveStep 500) EchoesTimes .start
        (changeDuringUpload (.increaseIngress 1 80 0)) := by
    decide +kernel
  refine ⟨echoes, ?_⟩
  apply (uploaded_iff 500 _ echoes).mpr
  decide +kernel

end LanShield.BackendSync
