import LanShield.BackendSync.ExportFlows

/-!
# Which flows are exported

A page is found by its offset, so deleting a flow that has been passed moves
the next one out of sight.  Insertions and updates do no harm.
-/

namespace LanShield.BackendSync

open LanShield.Library

/-- No flow is in the array twice, and in the end every flow that was in the
table from the first query to the last is in it. -/
def ExportState.ExportsOnce (state : ExportState) : Prop :=
  state.exportedIds.Nodup ∧
    (state.phase = .done → ∀ id ∈ state.steady, id ∈ state.exportedIds)

/-- Between the first query and the last, no statement deletes or replaces a
row below the offset while there are rows behind it, nor inserts a flow that
has been exported; and the offset stays an `Int`. -/
def KeepsPassedRows (state : ExportState) : ExportEvent → Prop
  | .write write =>
      state.phase = .paging →
        (state.flows.rows.length ≤ state.offset.toNat ∨
            ∀ row ∈ state.flows.rows.take state.offset.toNat,
              write.removes row = false) ∧
          ∀ id ∈ write.inserts, id ∉ state.exportedIds
  | .query =>
      state.offset.toNat < state.flows.rows.length →
        state.offset + pageSize < 2 ^ 31

/-- The rows a statement does not take from their place keep their order, and
an inserted one is the last. -/
private theorem TableWrite.ids_apply (write : TableWrite)
    (flows : FlowTable) :
    (write.apply flows).rows.map LANFlow.uuid =
      (flows.rows.filter fun row => !write.removes row).map LANFlow.uuid ++
        write.inserts := by
  have unmoved :
      (flows.rows.filter fun _ => !false).map LANFlow.uuid ++ [] =
        flows.rows.map LANFlow.uuid := by
    simp
  cases write with
  | statement write =>
      cases write with
      | insertFlow flow =>
          have inserted :
              (flows.insert flow).rows =
                (flows.rows.filter fun row =>
                  !decide (row.uuid = flow.uuid)) ++ [flow] :=
            rfl
          exact (congrArg (List.map LANFlow.uuid) inserted).trans
            List.map_append
      | updateFlow flow =>
          refine Eq.trans ?_ unmoved.symm
          have keeps (row : LANFlow)
              (same : decide (row.uuid = flow.uuid) = true) :
              flow.uuid = row.uuid :=
            (of_decide_eq_true same).symm
          exact @KeyedTable.keys_update _ _ _ _ _ keeps flows
      | updateFlowsSyncedTime flowId timeEndLast =>
          refine Eq.trans ?_ unmoved.symm
          exact
            @KeyedTable.keys_update _ _ _ _
              (fun row : LANFlow =>
                { row with timeEndAtLastSync := timeEndLast })
              (fun _ _ => rfl) flows
      | deleteFlow flow => exact (List.append_nil _).symm
      | deleteFlowsWithAppId appId => exact (List.append_nil _).symm
  | removeAllScheduledForDeletionById ids =>
      exact (List.append_nil _).symm

namespace ExportState

/-- While pages are read, the flows are read by their offsets; before, none
has been. -/
structure Carried (state : ExportState) : Prop where
  idle : state.phase = .idle → state.exported = [] ∧ state.offset = 0
  paging :
    state.phase = .paging →
      0 ≤ state.offset ∧
        Paged state.steady state.ids state.offset.toNat state.exportedIds

variable {state : ExportState}

private theorem nextPage_done
    (ended : state.flows.rows.drop state.offset.toNat = []) :
    state.nextPage = { state with phase := .done } := by
  have empty :
      (FlowDao.getFlowsPaged pageSize state.offset state.flows).isEmpty =
        true := by
    rw [FlowDao.getFlowsPaged, ended]
    rfl
  exact if_pos empty

private theorem nextPage_more
    (more : state.flows.rows.drop state.offset.toNat ≠ []) :
    state.nextPage =
      { state with
        phase := .paging
        exported :=
          state.exported ++
            FlowDao.getFlowsPaged pageSize state.offset state.flows
        offset := signed32 (state.offset + pageSize) } := by
  have full :
      ¬ (FlowDao.getFlowsPaged pageSize state.offset state.flows).isEmpty =
        true := by
    rw [List.isEmpty_iff, FlowDao.getFlowsPaged, List.take_eq_nil_iff]
    rintro (impossible | ended)
    · exact absurd impossible (by decide)
    · exact more ended
  exact if_neg full

/-- A query that meets its condition reads the next page. -/
private theorem nextPage_spec (nonneg : 0 ≤ state.offset)
    (paged :
      Paged state.steady state.ids state.offset.toNat state.exportedIds)
    (short : KeepsPassedRows state .query) :
    state.nextPage.Carried ∧ state.nextPage.ExportsOnce := by
  by_cases ended : state.flows.rows.drop state.offset.toNat = []
  · rw [nextPage_done ended]
    refine ⟨⟨by simp, by simp⟩, paged.once, fun _ => ?_⟩
    apply paged.complete
    rw [ids, ← List.map_drop, ended]
    rfl
  · have inside : state.offset.toNat < state.flows.rows.length := by
      rwa [List.drop_eq_nil_iff, Nat.not_le] at ended
    have small := short inside
    have next : signed32 (state.offset + pageSize) = state.offset + pageSize := by
      rw [signed32, pageSize] at *
      omega
    have toNat :
        (state.offset + pageSize).toNat = state.offset.toNat + pageSize := by
      rw [pageSize]
      omega
    have page := paged.page pageSize
    have batch :
        (FlowDao.getFlowsPaged pageSize state.offset state.flows).map
            LANFlow.uuid =
          (state.ids.drop state.offset.toNat).take pageSize := by
      rw [FlowDao.getFlowsPaged, ids, ← List.map_drop, ← List.map_take]
    rw [← batch, exportedIds, ← List.map_append, ← toNat] at page
    rw [nextPage_more ended, next]
    have nonnegNext : 0 ≤ state.offset + pageSize := by
      omega
    refine ⟨⟨by simp, fun _ => ⟨nonnegNext, page⟩⟩, ?_⟩
    exact ⟨page.once, by simp⟩

private theorem query_spec (carried : state.Carried)
    (holds : state.ExportsOnce)
    (short : KeepsPassedRows state .query) :
    (exportStep state .query).Carried ∧
      (exportStep state .query).ExportsOnce := by
  rw [exportStep, exportFlows]
  cases phase : state.phase with
  | idle =>
      obtain ⟨exported, offset⟩ := carried.idle phase
      have first :
          Paged state.ids state.ids state.offset.toNat
            state.exportedIds := by
        rw [offset, exportedIds, exported]
        exact Paged.start state.flows.distinct
      exact
        @nextPage_spec { state with steady := state.ids } offset.ge first
          short
  | paging =>
      obtain ⟨nonneg, paged⟩ := carried.paging phase
      exact nextPage_spec nonneg paged short
  | done => exact ⟨carried, holds⟩

/-- A statement between two queries leaves the pages to come. -/
private theorem paged_write {write : TableWrite}
    (paged :
      Paged state.steady state.ids state.offset.toNat state.exportedIds)
    (passed :
      state.flows.rows.length ≤ state.offset.toNat ∨
        ∀ row ∈ state.flows.rows.take state.offset.toNat,
          write.removes row = false)
    (fresh : ∀ id ∈ write.inserts, id ∉ state.exportedIds) :
    Paged
      (state.steady.filter fun id =>
        id ∈ (write.apply state.flows).rows.map LANFlow.uuid)
      ((write.apply state.flows).rows.map LANFlow.uuid)
      state.offset.toNat state.exportedIds := by
  have distinct := (write.apply state.flows).distinct
  rw [write.ids_apply] at distinct ⊢
  apply paged.write distinct
  · exact List.filter_sublist.map _
  · exact fresh
  · rw [ids, List.length_map]
    refine passed.imp_right fun kept => ?_
    have front :
        state.flows.rows.filter (fun row => !write.removes row) =
          state.flows.rows.take state.offset.toNat ++
            (state.flows.rows.drop state.offset.toNat).filter
              fun row => !write.removes row := by
      conv_lhs =>
        rw [← List.take_append_drop state.offset.toNat state.flows.rows]
      rw [List.filter_append]
      congr 1
      apply List.filter_eq_self.mpr
      intro row inside
      rw [kept row inside]
      rfl
    rw [front, List.map_append, ← List.map_take]
    exact List.prefix_append _ _
  · intro id here
    obtain ⟨always, still⟩ := List.mem_filter.mp here
    exact ⟨always, of_decide_eq_true still⟩

private theorem execute_paging (phase : state.phase = .paging)
    (write : TableWrite) :
    state.execute write =
      { state with
        flows := write.apply state.flows
        steady :=
          state.steady.filter fun id =>
            id ∈ (write.apply state.flows).rows.map LANFlow.uuid } := by
  rw [execute]
  simp only [phase]

private theorem execute_other (phase : state.phase ≠ .paging)
    (write : TableWrite) :
    state.execute write =
      { state with flows := write.apply state.flows } := by
  rw [execute]
  split
  · next paging => exact absurd paging phase
  · rfl

private theorem write_spec (carried : state.Carried)
    (holds : state.ExportsOnce)
    {write : TableWrite} (keeps : KeepsPassedRows state (.write write)) :
    (exportStep state (.write write)).Carried ∧
      (exportStep state (.write write)).ExportsOnce := by
  rw [exportStep]
  by_cases phase : state.phase = .paging
  · obtain ⟨passed, fresh⟩ := keeps phase
    obtain ⟨nonneg, paged⟩ := carried.paging phase
    have other : state.phase ≠ .idle ∧ state.phase ≠ .done := by
      simp [phase]
    rw [execute_paging phase]
    refine ⟨⟨?_, ?_⟩, holds.1, ?_⟩
    · exact fun idle => absurd idle other.1
    · exact fun _ => ⟨nonneg, paged_write paged passed fresh⟩
    · exact fun done => absurd done other.2
  · rw [execute_other phase]
    exact
      ⟨⟨carried.idle, fun paging => absurd paging phase⟩, holds⟩

end ExportState

/-- In every run, over any table, no flow is exported twice and every flow
that stays in the table is exported, as long as no statement moves a row that
has been passed. -/
theorem exportsOnce_of_keepsPassedRows (flows : FlowTable)
    (events : List ExportEvent)
    (keeps : StepsMeet exportStep KeepsPassedRows (.start flows) events) :
    ∀ visited, visited <+: events →
      (run exportStep (.start flows) visited).ExportsOnce := by
  intro visited isPrefix
  have carried :=
    @run_guarded_invariant ExportState ExportEvent exportStep
      KeepsPassedRows (fun state => state.Carried ∧ state.ExportsOnce)
      (by
        rintro state event meets ⟨carried, holds⟩
        cases event with
        | write write => exact ExportState.write_spec carried holds meets
        | query => exact ExportState.query_spec carried holds meets)
      visited (.start flows)
      (by
        refine ⟨⟨fun _ => ⟨rfl, rfl⟩, ?_⟩, List.nodup_nil, ?_⟩
        · intro impossible
          cases impossible
        · intro impossible
          cases impossible)
      (keeps.of_isPrefix isPrefix)
  exact carried.2

/-- The flow with this number; only the first one is an app's. -/
def numberedFlow (number : Nat) : LANFlow :=
  LANFlow.createFlow (if number = 0 then some "app" else none)
    (Fin.ofNat _ number) "TCP" 0

/-- A table of this many flows. -/
def numberedFlows (count : Nat) (small : count ≤ 2 ^ 128) : FlowTable where
  rows := (List.range count).map numberedFlow
  distinct := by
    rw [List.map_map]
    apply List.Nodup.map_on _ List.nodup_range
    intro first inside second inside' same
    rw [List.mem_range] at inside inside'
    have values : first % 2 ^ 128 = second % 2 ^ 128 :=
      congrArg Fin.val same
    omega

private theorem mem_numberedFlows {number count : Nat}
    {small : count ≤ 2 ^ 128}
    (inside : number < count) :
    numberedFlow number ∈ numberedFlows count small :=
  List.mem_map.mpr ⟨number, List.mem_range.mpr inside, rfl⟩

private theorem mem_keys {flows : FlowTable} {flow : LANFlow}
    (inside : flow ∈ flows) : flow.uuid ∈ flows.rows.map LANFlow.uuid :=
  List.mem_map_of_mem inside

/-- One flow more than fits on a page. -/
def pageAndOneFlow : FlowTable :=
  numberedFlows 1001 (by decide)

/-- The user deletes the app's only flow after the first page. -/
def deleteDuringExport : List ExportEvent :=
  [.query, .write (.statement (.deleteFlowsWithAppId "app")), .query]

/-- A query changes neither the table nor what is known of it. -/
private theorem ExportState.nextPage_reads (state : ExportState) :
    state.nextPage.flows = state.flows ∧
      state.nextPage.steady = state.steady := by
  rw [nextPage]
  split
  · exact ⟨rfl, rfl⟩
  · exact ⟨rfl, rfl⟩

/-- A flow that one statement between two queries leaves in the table. -/
private theorem steady_of_kept {flows : FlowTable} {flow : LANFlow}
    {write : TableWrite} (stored : flow ∈ flows)
    (kept : flow ∈ write.apply flows)
    (paging : (exportStep (.start flows) .query).phase = .paging) :
    flow.uuid ∈
      (run exportStep (.start flows)
        [.query, .write write, .query]).steady := by
  obtain ⟨same, steady⟩ :=
    ExportState.nextPage_reads
      { ExportState.start flows with
        steady := flows.rows.map LANFlow.uuid }
  have second := ExportState.execute_paging paging write
  have query {state : ExportState} (phase : state.phase = .paging) :
      (exportStep state .query).steady = state.steady := by
    rw [exportStep, ExportState.exportFlows, phase]
    exact state.nextPage_reads.2
  have first :
      (exportStep (.start flows) .query).flows = flows ∧
        (exportStep (.start flows) .query).steady =
          flows.rows.map LANFlow.uuid :=
    ⟨same, steady⟩
  rw [run_cons, run_cons, run_cons, run_nil, query]
  · rw [exportStep, second, first.1, first.2]
    apply List.mem_filter.mpr
    exact ⟨mem_keys stored, decide_eq_true (mem_keys kept)⟩
  · rw [exportStep, second]
    exact paging

/-- The last flow is in the table all the time. -/
private theorem lastFlow_steady :
    (numberedFlow 1000).uuid ∈
      (run exportStep (.start pageAndOneFlow) deleteDuringExport).steady := by
  have stored : numberedFlow 1000 ∈ pageAndOneFlow :=
    mem_numberedFlows (Nat.lt_succ_self 1000)
  apply steady_of_kept stored
  · exact KeyedTable.mem_deleteWhere.mpr ⟨stored, rfl⟩
  · decide +kernel

theorem lastFlow_not_exported :
    (run exportStep (.start pageAndOneFlow) deleteDuringExport).phase =
        .done ∧
      (numberedFlow 1000).uuid ∈
        (run exportStep (.start pageAndOneFlow) deleteDuringExport).steady ∧
      (numberedFlow 1000).uuid ∉
        (run exportStep (.start pageAndOneFlow)
          deleteDuringExport).exportedIds ∧
      ¬ (run exportStep (.start pageAndOneFlow)
          deleteDuringExport).ExportsOnce := by
  have done :
      (run exportStep (.start pageAndOneFlow) deleteDuringExport).phase =
        .done := by
    decide +kernel
  have missing :
      (numberedFlow 1000).uuid ∉
        (run exportStep (.start pageAndOneFlow)
          deleteDuringExport).exportedIds := by
    decide +kernel
  exact
    ⟨done, lastFlow_steady, missing,
      fun holds => missing (holds.2 done _ lastFlow_steady)⟩

/-- After the first page a flow on it is updated, and behind it one is
inserted and one deleted. -/
def updateDuringExport : List ExportEvent :=
  [.query, .write (.statement (.updateFlow (numberedFlow 1))),
    .write (.statement (.insertFlow (numberedFlow 1001))),
    .write (.statement (.deleteFlow (numberedFlow 1000))),
    .query, .query]

theorem exportsOnce_updateDuringExport :
    (run exportStep (.start pageAndOneFlow) updateDuringExport).phase =
        .done ∧
      ∀ visited, visited <+: updateDuringExport →
        (run exportStep (.start pageAndOneFlow) visited).ExportsOnce := by
  refine ⟨by decide +kernel, ?_⟩
  apply exportsOnce_of_keepsPassedRows
  refine ⟨?_, ?_, ?_, ?_, ?_, ?_, trivial⟩
  · exact fun _ => by decide +kernel
  · intro _
    refine ⟨Or.inr (by decide +kernel), fun id added => ?_⟩
    cases added
  · intro _
    refine ⟨Or.inr (by decide +kernel), fun id added => ?_⟩
    rw [List.mem_singleton.mp added]
    decide +kernel
  · intro _
    refine ⟨Or.inr (by decide +kernel), fun id added => ?_⟩
    cases added
  · exact fun _ => by decide +kernel
  · exact fun _ => by decide +kernel

end LanShield.BackendSync
