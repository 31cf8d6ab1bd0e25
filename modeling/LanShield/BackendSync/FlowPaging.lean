import LanShield.BackendSync.SyncFlows
import LanShield.Library.Schedules
import Mathlib.Data.Finset.Card
import Mathlib.Data.Prod.Lex

/-!
# Paging through the unsynchronised flows

Pages are read behind a cursor, and the cursor moves to the last flow of the
page whatever the server answers.
-/

namespace LanShield.BackendSync

open LanShield.Library

/-- The flows posted by this run of `syncFlows`. -/
def FlowsState.postedIds (state : FlowsState) : List UUID :=
  state.posted.flatten.map LANFlow.uuid

/-- The flow is in the table and not synchronised. -/
def FlowsState.Unsynced (id : UUID) (state : FlowsState) : Prop :=
  ∃ row ∈ state.flows, row.uuid = id ∧
    row.timeEndAtLastSync < row.timeEnd

/-- The cursor of a running `syncFlows`. -/
def FlowsWorker.cursor : FlowsWorker → Option UUID
  | .idle => none
  | .query cursor => some cursor
  | .post batch => some (lastUuid batch)
  | .mark batch _ _ => some (lastUuid batch)

/-- How far `syncFlows` is from its next query. -/
def FlowsWorker.rank : FlowsWorker → Nat ×ₗ Nat
  | .idle => toLex (0, 0)
  | .query _ => toLex (0, 0)
  | .post _ => toLex (2, 0)
  | .mark _ remaining _ => toLex (1, remaining.length)

/-- What one call of a running `syncFlows` does: it finds nothing behind
the cursor, or reads a page, or comes closer to its next query behind the
page it has read. -/
inductive SyncCall (batchSize : Nat) (state : FlowsState) :
    FlowsState → Prop
  | finish (cursor : UUID) :
      state.worker = .query cursor →
      FlowDao.getNotSyncedFlowsAfter cursor batchSize state.flows = [] →
      SyncCall batchSize state { state with worker := .idle }
  | page (cursor : UUID) :
      state.worker = .query cursor →
      FlowDao.getNotSyncedFlowsAfter cursor batchSize state.flows ≠ [] →
      SyncCall batchSize state
        { state with
          worker :=
            .post
              (FlowDao.getNotSyncedFlowsAfter cursor batchSize state.flows)
          posted :=
            state.posted ++
              [FlowDao.getNotSyncedFlowsAfter cursor batchSize
                state.flows] }
  | approach (flows : FlowTable) (worker : FlowsWorker) :
      worker.cursor = state.worker.cursor →
      worker.rank < state.worker.rank →
      (∀ row ∈ flows, ∃ old ∈ state.flows, old.uuid = row.uuid) →
      SyncCall batchSize state { state with flows, worker }

private theorem markNext_keys (entry : Acknowledgment) (flowIds : List UUID)
    (flows : FlowTable) :
    ∀ row ∈ (FlowsState.markNext entry flowIds flows).2,
      ∃ old ∈ flows, old.uuid = row.uuid := by
  rw [FlowsState.markNext]
  intro row inside
  split at inside
  · exact ⟨row, inside, rfl⟩
  · exact ⟨row, inside, rfl⟩
  · rcases FlowDao.mem_updateFlowsSyncedTime.mp inside with
      ⟨old, member, _, rfl⟩ | ⟨member, _⟩
    · exact ⟨old, member, rfl⟩
    · exact ⟨row, member, rfl⟩

private theorem syncFlows_call {batchSize : Nat} {state : FlowsState}
    (running : state.worker ≠ .idle) (response : FlowsResponse) :
    SyncCall batchSize state (state.syncFlows batchSize response) := by
  rw [FlowsState.syncFlows]
  split
  · next phase => exact absurd phase running
  · next cursor phase =>
    dsimp only
    split
    · next empty =>
      exact .finish cursor phase (List.isEmpty_iff.mp empty)
    · next found =>
      exact .page cursor phase fun empty =>
        found (List.isEmpty_iff.mpr empty)
  · next batch phase =>
    split
    · apply SyncCall.approach state.flows
      · rw [phase]
        rfl
      · rw [phase]
        exact Prod.Lex.toLex_lt_toLex.mpr (Or.inl Nat.one_lt_two)
      · exact fun row inside => ⟨row, inside, rfl⟩
    · apply SyncCall.approach state.flows
      · rw [phase]
        rfl
      · rw [phase]
        exact Prod.Lex.toLex_lt_toLex.mpr (Or.inl (by decide))
      · exact fun row inside => ⟨row, inside, rfl⟩
  · next batch flowIds phase =>
    apply SyncCall.approach
    · rw [phase]
      rfl
    · rw [phase]
      exact Prod.Lex.toLex_lt_toLex.mpr (Or.inl (by decide))
    · intro row inside
      exact ⟨row, FlowDao.mem_of_mem_removeAll inside, rfl⟩
  · next batch entry remaining flowIds phase =>
    apply SyncCall.approach
    · rw [phase]
      rfl
    · rw [phase]
      exact
        Prod.Lex.toLex_lt_toLex.mpr
          (Or.inr ⟨rfl, Nat.lt_succ_self _⟩)
    · exact markNext_keys entry flowIds state.flows

private theorem lastUuid_concat (earlier : List LANFlow) (last : LANFlow) :
    lastUuid (earlier ++ [last]) = last.uuid := by
  rw [lastUuid]
  rw [List.getLast?_concat]
  rfl

private theorem uuid_le_lastUuid {batch : List LANFlow}
    (increasing : batch.Pairwise fun row other => row.uuid < other.uuid)
    {flow : LANFlow} (inside : flow ∈ batch) :
    flow.uuid ≤ lastUuid batch := by
  rcases List.eq_nil_or_concat batch with rfl | ⟨earlier, last, rfl⟩
  · exact absurd inside List.not_mem_nil
  · rw [List.concat_eq_append] at increasing inside ⊢
    rw [lastUuid_concat]
    rcases List.mem_append.mp inside with before | final
    · have below := (List.pairwise_append.mp increasing).2.2
      exact (below flow before last (List.mem_singleton_self last)).le
    · rw [List.mem_singleton.mp final]

private theorem exists_lastUuid {batch : List LANFlow} (found : batch ≠ []) :
    ∃ flow ∈ batch, flow.uuid = lastUuid batch := by
  rcases List.eq_nil_or_concat batch with rfl | ⟨earlier, last, rfl⟩
  · exact absurd rfl found
  · rw [List.concat_eq_append]
    exact
      ⟨last, List.mem_append_right earlier (List.mem_singleton_self last),
        (lastUuid_concat earlier last).symm⟩

/-- The posted flows are increasing, and none is behind the cursor. -/
structure FlowsState.Paged (state : FlowsState) : Prop where
  increasing : state.postedIds.Pairwise (· < ·)
  passed :
    ∀ cursor, state.worker.cursor = some cursor →
      ∀ id ∈ state.postedIds, id ≤ cursor

private theorem postedIds_append (state : FlowsState) (worker : FlowsWorker)
    (batch : List LANFlow) :
    FlowsState.postedIds
        { state with worker, posted := state.posted ++ [batch] } =
      state.postedIds ++ batch.map LANFlow.uuid := by
  unfold FlowsState.postedIds
  rw [List.flatten_append, List.map_append, List.flatten_singleton]

theorem FlowsState.Paged.call {batchSize : Nat} {state after : FlowsState}
    (paged : state.Paged) (call : SyncCall batchSize state after) :
    after.Paged := by
  cases call with
  | finish cursor phase empty =>
      exact ⟨paged.increasing, fun _ impossible => nomatch impossible⟩
  | page cursor phase found =>
      have passed : ∀ id ∈ state.postedIds, id ≤ cursor :=
        paged.passed cursor (congrArg FlowsWorker.cursor phase)
      have ordered := FlowDao.pairwise_page cursor batchSize state.flows
      constructor
      · rw [postedIds_append, List.pairwise_append]
        refine ⟨paged.increasing, List.pairwise_map.mpr ordered, ?_⟩
        intro id before other later
        obtain ⟨flow, read, rfl⟩ := List.mem_map.mp later
        exact (passed id before).trans_lt (FlowDao.of_mem_page read).2.2
      · rintro last here id posted
        obtain rfl := Option.some.inj here
        rw [postedIds_append] at posted
        rcases List.mem_append.mp posted with before | later
        · obtain ⟨flow, read, last_eq⟩ := exists_lastUuid found
          have further := (FlowDao.of_mem_page read).2.2
          rw [last_eq] at further
          exact (passed id before).trans further.le
        · obtain ⟨flow, read, rfl⟩ := List.mem_map.mp later
          exact uuid_le_lastUuid ordered read
  | approach flows worker same closer keys =>
      exact ⟨paged.increasing, fun cursor here =>
        paged.passed cursor (same.symm.trans here)⟩

theorem FlowsState.Paged.startSync {state : FlowsState}
    (paged : state.Paged) : state.startSync.Paged := by
  rw [FlowsState.startSync]
  split
  · exact ⟨List.Pairwise.nil, fun _ _ _ inside => nomatch inside⟩
  · exact paged

theorem FlowsState.Paged.step {batchSize : Nat} {state : FlowsState}
    (paged : state.Paged) (event : FlowsEvent) :
    (flowsStep batchSize state event).Paged := by
  cases event with
  | write write => exact ⟨paged.increasing, paged.passed⟩
  | startSync => exact paged.startSync
  | worker response =>
      by_cases idle : state.worker = .idle
      · have resting :
            flowsStep batchSize state (.worker response) = state := by
          simp only [flowsStep, FlowsState.syncFlows, idle]
        rw [resting]
        exact paged
      · exact paged.call (syncFlows_call idle response)

/-- The flow has been posted if the cursor has passed it or the run is over.
-/
def FlowsState.Passed (id : UUID) (state : FlowsState) : Prop :=
  match state.worker.cursor with
  | none => id ∈ state.postedIds
  | some cursor => id ≤ cursor → id ∈ state.postedIds

theorem FlowsState.Passed.call {batchSize : Nat} (positive : 0 < batchSize)
    {id : UUID} {state after : FlowsState} (unsynced : state.Unsynced id)
    (passed : state.Passed id) (call : SyncCall batchSize state after) :
    after.Passed id := by
  obtain ⟨row, inside, rfl, dirty⟩ := unsynced
  cases call with
  | finish cursor phase empty =>
      rw [FlowsState.Passed] at passed
      rw [phase] at passed
      apply passed
      by_contra behind
      exact
        FlowDao.page_ne_nil positive inside dirty (lt_of_not_ge behind) empty
  | page cursor phase found =>
      rw [FlowsState.Passed] at passed
      rw [phase] at passed
      intro reached
      rw [postedIds_append]
      by_cases before : row.uuid ≤ cursor
      · exact List.mem_append_left _ (passed before)
      · apply List.mem_append_right
        rcases
            @FlowDao.mem_page_or_behind cursor batchSize state.flows row
              inside dirty (lt_of_not_ge before) with read | later
        · exact List.mem_map_of_mem read
        · obtain ⟨last, member, last_eq⟩ := exists_lastUuid found
          have further := later last member
          rw [last_eq] at further
          exact absurd reached (not_le_of_gt further)
  | approach flows worker same closer keys =>
      rw [FlowsState.Passed] at passed
      rw [FlowsState.Passed]
      dsimp only
      rw [same]
      exact passed

theorem FlowsState.Passed.step {batchSize : Nat} (positive : 0 < batchSize)
    {id : UUID} (notNil : id ≠ 0) {state : FlowsState}
    (unsynced : state.Unsynced id) (passed : state.Passed id)
    (event : FlowsEvent) : (flowsStep batchSize state event).Passed id := by
  cases event with
  | write write => exact passed
  | startSync =>
      unfold flowsStep FlowsState.startSync
      dsimp only
      split
      · exact fun reached => absurd (Fin.le_zero_iff.mp reached) notNil
      · exact passed
  | worker response =>
      by_cases idle : state.worker = .idle
      · have resting :
            flowsStep batchSize state (.worker response) = state := by
          simp only [flowsStep, FlowsState.syncFlows, idle]
        rw [resting]
        exact passed
      · exact passed.call positive unsynced (syncFlows_call idle response)

/-- The flows behind the cursor. -/
def FlowsState.ahead (state : FlowsState) : Finset UUID :=
  (state.flows.rows.map LANFlow.uuid).toFinset.filter fun id =>
    state.worker.cursor.getD 0 < id

private theorem FlowsState.mem_ahead {state : FlowsState} {id : UUID} :
    id ∈ state.ahead ↔
      (∃ row ∈ state.flows, row.uuid = id) ∧
        state.worker.cursor.getD 0 < id := by
  rw [FlowsState.ahead]
  rw [Finset.mem_filter, List.mem_toFinset, List.mem_map]
  rfl

/-- The flows behind the cursor, and the way to the next query. -/
def FlowsState.rank (state : FlowsState) : Nat ×ₗ Nat ×ₗ Nat :=
  toLex (state.ahead.card, state.worker.rank)

private theorem rank_lt_of_fewer {state after : FlowsState}
    (fewer : after.ahead ⊂ state.ahead) : after.rank < state.rank :=
  Prod.Lex.toLex_lt_toLex.mpr (Or.inl (Finset.card_lt_card fewer))

private theorem rank_call {batchSize : Nat} {state after : FlowsState}
    (call : SyncCall batchSize state after) :
    after.worker = .idle ∨ after.rank < state.rank := by
  cases call with
  | finish cursor phase empty => exact Or.inl rfl
  | page cursor phase found =>
      right
      apply rank_lt_of_fewer
      obtain ⟨last, read, last_eq⟩ := exists_lastUuid found
      obtain ⟨inside, _, behind⟩ := FlowDao.of_mem_page read
      have here : state.worker.cursor.getD 0 = cursor := by
        rw [phase]
        rfl
      constructor
      · intro id still
        rw [FlowsState.mem_ahead] at still ⊢
        obtain ⟨listed, further⟩ := still
        refine ⟨listed, ?_⟩
        rw [here]
        rw [last_eq] at behind
        exact behind.trans further
      · intro subset
        have counted : last.uuid ∈ state.ahead := by
          rw [FlowsState.mem_ahead, here]
          exact ⟨⟨last, inside, rfl⟩, behind⟩
        have again := (FlowsState.mem_ahead.mp (subset counted)).2
        rw [last_eq] at again
        exact lt_irrefl _ again
  | approach flows worker same closer keys =>
      right
      have fewer :
          FlowsState.ahead { state with flows, worker } ⊆
            state.ahead := by
        intro id still
        rw [FlowsState.mem_ahead] at still ⊢
        obtain ⟨⟨row, inside, rfl⟩, further⟩ := still
        rw [← same]
        exact ⟨keys row inside, further⟩
      apply Prod.Lex.toLex_lt_toLex.mpr
      rcases (Finset.card_le_card fewer).lt_or_eq with less | equal
      · exact Or.inl less
      · exact Or.inr ⟨equal, closer⟩

/-- A statement that inserts nothing adds no flow. -/
private theorem write_keys {write : FlowWrite}
    (inserts : ∀ flow, write ≠ .insertFlow flow) {table : FlowTable} :
    ∀ row ∈ write.apply table, ∃ old ∈ table, old.uuid = row.uuid := by
  intro row inside
  cases write with
  | insertFlow flow => exact absurd rfl (inserts flow)
  | updateFlow flow =>
      rcases FlowDao.mem_updateFlow.mp inside with
        ⟨old, member, same, rfl⟩ | ⟨member, _⟩
      · exact ⟨old, member, same⟩
      · exact ⟨row, member, rfl⟩
  | updateFlowsSyncedTime flowId timeEndLast =>
      rcases FlowDao.mem_updateFlowsSyncedTime.mp inside with
        ⟨old, member, _, rfl⟩ | ⟨member, _⟩
      · exact ⟨old, member, rfl⟩
      · exact ⟨row, member, rfl⟩
  | deleteFlow flow =>
      exact ⟨row, (KeyedTable.mem_deleteWhere.mp inside).1, rfl⟩
  | deleteFlowsWithAppId appId =>
      exact ⟨row, (KeyedTable.mem_deleteWhere.mp inside).1, rfl⟩

/-- The event inserts no flow. -/
def FlowsEvent.InsertsNone (event : FlowsEvent) : Prop :=
  ∀ flow, event ≠ .write (.insertFlow flow)

/-- The event is the next call of `syncFlows`. -/
def FlowsEvent.IsWorker (event : FlowsEvent) : Prop :=
  ∃ response, event = .worker response

private theorem rank_worker {batchSize : Nat} {state : FlowsState}
    {event : FlowsEvent} (works : event.IsWorker)
    (running : state.worker ≠ .idle) :
    (flowsStep batchSize state event).worker = .idle ∨
      (flowsStep batchSize state event).rank < state.rank := by
  obtain ⟨response, rfl⟩ := works
  exact rank_call (syncFlows_call running response)

private theorem rank_calm {batchSize : Nat} {state : FlowsState}
    {event : FlowsEvent} (calm : event.InsertsNone)
    (running : state.worker ≠ .idle) :
    (flowsStep batchSize state event).worker = .idle ∨
      (flowsStep batchSize state event).rank ≤ state.rank := by
  cases event with
  | write write =>
      right
      have inserts (flow : LANFlow) : write ≠ .insertFlow flow := by
        rintro rfl
        exact calm flow rfl
      have fewer :
          FlowsState.ahead { state with flows := write.apply state.flows } ⊆
            state.ahead := by
        intro id still
        rw [FlowsState.mem_ahead] at still ⊢
        obtain ⟨⟨row, inside, rfl⟩, further⟩ := still
        exact ⟨write_keys inserts row inside, further⟩
      apply Prod.Lex.toLex_le_toLex.mpr
      rcases (Finset.card_le_card fewer).lt_or_eq with less | equal
      · exact Or.inl less
      · exact Or.inr ⟨equal, le_refl _⟩
  | startSync =>
      right
      have same : flowsStep batchSize state .startSync = state := by
        unfold flowsStep FlowsState.startSync
        dsimp only
        split
        · next phase => exact absurd phase running
        · rfl
      rw [same]
  | worker response =>
      exact
        (rank_worker ⟨response, rfl⟩ running).imp_right le_of_lt

/-- The table when `syncFlows` is called. -/
def FlowsState.begun (flows : FlowTable) : FlowsState where
  flows
  worker := .query 0
  posted := []

/-- No flow is posted twice; when `syncFlows` is over, every flow that was
unsynchronised all the time has been posted; and it gets there if it is
scheduled again and again while finitely many flows are inserted. -/
theorem syncFlows_pages {batchSize : Nat} (positive : 0 < batchSize)
    (flows : FlowTable) :
    (∀ events,
      (run (flowsStep batchSize) (.begun flows) events).postedIds.Nodup ∧
        ((run (flowsStep batchSize) (.begun flows) events).worker = .idle →
          ∀ id ≠ 0,
            (∀ visited, visited <+: events →
              (run (flowsStep batchSize) (.begun flows) visited).Unsynced
                id) →
              id ∈
                (run (flowsStep batchSize) (.begun flows)
                  events).postedIds)) ∧
      ∀ schedule : Nat → FlowsEvent,
        (∃ time, ∀ later ≥ time, (schedule later).InsertsNone) →
          (∀ time, ∃ later ≥ time, (schedule later).IsWorker) →
            ∃ time,
              (stateAt (flowsStep batchSize) (.begun flows) schedule
                time).worker = .idle := by
  refine ⟨fun events => ⟨?_, ?_⟩, ?_⟩
  · have begun : (FlowsState.begun flows).Paged :=
      ⟨List.Pairwise.nil, fun _ _ _ inside => nomatch inside⟩
    have paged :=
      @run_invariant FlowsState FlowsEvent (flowsStep batchSize)
        FlowsState.Paged (fun _ event paged => paged.step event) events _
        begun
    exact paged.increasing.imp fun less => ne_of_lt less
  · intro idle id notNil unsynced
    have begun : (FlowsState.begun flows).Passed id :=
      fun reached => absurd (Fin.le_zero_iff.mp reached) notNil
    have passed :=
      @run_guarded_invariant FlowsState FlowsEvent (flowsStep batchSize)
        (fun state _ => state.Unsynced id) (FlowsState.Passed id)
        (fun _ event dirty passed =>
          passed.step positive notNil dirty event)
        events _ begun (stepsMeet_of_prefixes unsynced)
    rw [FlowsState.Passed] at passed
    rw [idle] at passed
    exact passed
  · intro schedule settles fair
    exact
      @eventually_of_fair FlowsState FlowsEvent (Nat ×ₗ Nat ×ₗ Nat) _ _
        (flowsStep batchSize) (.begun flows) schedule
        (fun state => state.worker = .idle) FlowsEvent.IsWorker
        FlowsEvent.InsertsNone FlowsState.rank
        (fun _ _ calm running => rank_calm calm running)
        (fun _ _ works running => rank_worker works running)
        settles fair

/-- Three flows that were never uploaded. -/
def threeFlows : FlowTable where
  rows :=
    [LANFlow.createFlow none 2 "TCP" 5, LANFlow.createFlow none 1 "UDP" 5,
      LANFlow.createFlow none 3 "TCP" 5]
  distinct := by decide

theorem syncFlows_pages_threeFlows :
    0 < 2 ∧
      ∀ events,
        (run (flowsStep 2) (.begun threeFlows) events).postedIds.Nodup := by
  have positive : 0 < 2 := by decide
  refine ⟨positive, ?_⟩
  intro events
  exact ((syncFlows_pages positive threeFlows).1 events).1

example :
    (run (flowsStep 2) (.begun threeFlows)
        (List.replicate 5 (.worker ⟨false, []⟩))).postedIds =
      [1, 2, 3] := by
  decide +kernel

end LanShield.BackendSync
