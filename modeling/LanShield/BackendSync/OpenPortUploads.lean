import LanShield.BackendSync.SyncOpenPorts

/-!
# Which rows of `open_ports` are deleted

`deleteAll` names no rows, so it also deletes those that were inserted while
the upload of the others was under way.
-/

namespace LanShield.BackendSync

open LanShield.Library

/-- Every row that was deleted was in an acknowledged upload. -/
def OpenPortsState.OnlyUploadedDeleted (state : OpenPortsState) : Prop :=
  ∀ row ∈ state.deleted, row ∈ state.acknowledged

/-- Nothing is inserted between `getAllShouldSync` and the `deleteAll` that
belongs to it. -/
def DeletesWhatWasRead (state : OpenPortsState) : OpenPortsEvent → Prop
  | .scanned _ _ => True
  | .startSync => True
  | .sync _ => state.upload = .delete → state.late = []

/-- A scan returns rows with fresh random uuids, all of them to be synced. -/
def FreshRows (state : OpenPortsState) : OpenPortsEvent → Prop
  | .scanned vpnEnabled openPorts =>
      vpnEnabled = true →
        (openPorts.map OpenPorts.uuid).Nodup ∧
          ∀ row ∈ openPorts,
            row.shouldSync = true ∧
              row.uuid ∉ state.table.rows.map OpenPorts.uuid ∧
              row.uuid ∉ state.acknowledged.map OpenPorts.uuid
  | .startSync => True
  | .sync _ => True

private theorem mem_insertAll {openPortsList : List OpenPorts}
    {table : OpenPortsTable} {row : OpenPorts}
    (distinct : (openPortsList.map OpenPorts.uuid).Nodup)
    (fresh :
      ∀ new ∈ openPortsList, new.uuid ∉ table.rows.map OpenPorts.uuid) :
    row ∈ OpenPortsDao.insertAll openPortsList table ↔
      row ∈ openPortsList ∨ row ∈ table := by
  induction openPortsList generalizing table with
  | nil => simp [OpenPortsDao.insertAll]
  | cons new rest inductionHypothesis =>
      obtain ⟨other, restDistinct⟩ := List.nodup_cons.mp distinct
      have newFresh := fresh new List.mem_cons_self
      have inserted (old : OpenPorts) :
          old ∈ table.insert new ↔ old = new ∨ old ∈ table := by
        rw [KeyedTable.mem_insert]
        constructor
        · exact Or.imp_right And.left
        · rintro (rfl | member)
          · exact Or.inl rfl
          · refine Or.inr ⟨member, fun same => newFresh ?_⟩
            exact List.mem_map.mpr ⟨old, member, same⟩
      have later :
          ∀ next ∈ rest,
            next.uuid ∉ (table.insert new).rows.map OpenPorts.uuid := by
        intro next member taken
        obtain ⟨old, inside, same⟩ := List.mem_map.mp taken
        rcases (inserted old).mp inside with rfl | before
        · exact other (List.mem_map.mpr ⟨next, member, same.symm⟩)
        · apply fresh next (List.mem_cons_of_mem _ member)
          exact List.mem_map.mpr ⟨old, before, same⟩
      have step :
          row ∈ OpenPortsDao.insertAll (new :: rest) table ↔
            row ∈ OpenPortsDao.insertAll rest (table.insert new) :=
        Iff.rfl
      rw [step, inductionHypothesis restDistinct later, inserted,
        List.mem_cons]
      tauto

/-- The rows of the upload that is waiting for its answer. -/
def OpenPortsUpload.batch : OpenPortsUpload → List OpenPorts
  | .idle => []
  | .read => []
  | .post openPortsWithApps => openPortsWithApps
  | .delete => []

/-- Rows have been read, and the upload has not failed since. -/
def OpenPortsUpload.Running : OpenPortsUpload → Prop
  | .idle => False
  | .read => False
  | .post _ => True
  | .delete => True

namespace OpenPortsState

/-- The row is in an upload that is acknowledged, or waits for its answer.
-/
def Covered (state : OpenPortsState) (row : OpenPorts) : Prop :=
  row ∈ state.acknowledged ∨ row ∈ state.upload.batch

/-- While an upload runs, the rows of the table are those it covers and those
that came late. -/
structure Carried (state : OpenPortsState) : Prop where
  shouldSync : ∀ row ∈ state.table, row.shouldSync = true
  batch : ∀ row ∈ state.upload.batch, row ∈ state.table
  covered :
    state.upload.Running →
      ∀ row ∈ state.table, row ∈ state.late ∨ state.Covered row
  late :
    state.upload.Running →
      ∀ row ∈ state.late, row ∈ state.table ∧ ¬ state.Covered row

variable {state : OpenPortsState}

theorem carried_start : start.Carried where
  shouldSync _ inside := absurd inside List.not_mem_nil
  batch _ inside := absurd inside List.not_mem_nil
  covered impossible := impossible.elim
  late impossible := impossible.elim

/-- A scan of a disabled VPN changes nothing. -/
private theorem scanned_disabled (openPorts : List OpenPorts) :
    openPortsStep state (.scanned false openPorts) = state := by
  have none :
      (state.table.rows.filter fun row => row ∉ state.table.rows) = [] := by
    simp
  rw [openPortsStep, execute]
  simp only [OpenPortsWorker.doWork, Bool.false_eq_true, if_false, none,
    List.append_nil]

/-- New rows join the table, and are late. -/
private theorem carried_scanned (carried : state.Carried)
    {openPorts : List OpenPorts}
    (fresh : FreshRows state (.scanned true openPorts)) :
    (openPortsStep state (.scanned true openPorts)).Carried ∧
      (openPortsStep state (.scanned true openPorts)).deleted =
        state.deleted := by
  obtain ⟨distinct, rows⟩ := fresh rfl
  have joined (row : OpenPorts) :
      row ∈ OpenPortsDao.insertAll openPorts state.table ↔
        row ∈ openPorts ∨ row ∈ state.table :=
    mem_insertAll distinct fun new member => (rows new member).2.1
  have nothing :
      (state.table.rows.filter fun row =>
        row ∉ (OpenPortsDao.insertAll openPorts state.table).rows) = [] := by
    apply List.filter_eq_nil_iff.mpr
    intro row inside
    have kept :
        row ∈ (OpenPortsDao.insertAll openPorts state.table).rows :=
      (joined row).mpr (Or.inr inside)
    simp [kept]
  have uncovered {row : OpenPorts} (member : row ∈ openPorts) :
      ¬ state.Covered row := by
    obtain ⟨-, notStored, notSent⟩ := rows row member
    rintro (sent | waiting)
    · exact notSent (List.mem_map_of_mem sent)
    · exact notStored (List.mem_map_of_mem (carried.batch row waiting))
  refine ⟨⟨?_, ?_, ?_, ?_⟩, ?_⟩
  · intro row inside
    rcases (joined row).mp inside with new | old
    · exact (rows row new).1
    · exact carried.shouldSync row old
  · intro row waiting
    exact (joined row).mpr (Or.inr (carried.batch row waiting))
  · intro running row inside
    rcases (joined row).mp inside with new | old
    · exact Or.inl (List.mem_append_right _ new)
    · exact
        (carried.covered running row old).imp_left
          (List.mem_append_left _)
  · intro running row late
    rcases List.mem_append.mp late with before | new
    · obtain ⟨inside, notCovered⟩ := carried.late running row before
      exact ⟨(joined row).mpr (Or.inr inside), notCovered⟩
    · exact ⟨(joined row).mpr (Or.inl new), uncovered new⟩
  · have deleted :
        (openPortsStep state (.scanned true openPorts)).deleted =
          state.deleted ++
            state.table.rows.filter fun row =>
              row ∉ (OpenPortsDao.insertAll openPorts state.table).rows :=
      rfl
    rw [deleted, nothing, List.append_nil]

/-- `deleteAll` deletes late rows, or none. -/
private theorem onlyUploadedDeleted_delete (carried : state.Carried)
    (holds : state.OnlyUploadedDeleted) (phase : state.upload = .delete)
    (response : OpenPortsResponse) :
    (state.syncOpenPorts response).OnlyUploadedDeleted ↔
      state.late = [] := by
  have running : state.upload.Running := by
    rw [phase]
    trivial
  have covered_iff (row : OpenPorts) :
      state.Covered row ↔ row ∈ state.acknowledged := by
    rw [Covered, phase]
    simp [OpenPortsUpload.batch]
  have empty : (OpenPortsDao.deleteAll state.table).rows = [] := by
    simp [OpenPortsDao.deleteAll, KeyedTable.deleteWhere]
  have deleted :
      (state.syncOpenPorts response).deleted =
        state.deleted ++ state.table.rows := by
    rw [syncOpenPorts, phase]
    dsimp only
    rw [execute, empty]
    simp
  have acknowledged :
      (state.syncOpenPorts response).acknowledged = state.acknowledged := by
    rw [syncOpenPorts, phase]
    rfl
  rw [OnlyUploadedDeleted, deleted, acknowledged]
  constructor
  · intro after
    apply List.eq_nil_iff_forall_not_mem.mpr
    intro row late
    obtain ⟨inside, notCovered⟩ := carried.late running row late
    exact
      notCovered
        ((covered_iff row).mpr (after row (List.mem_append_right _ inside)))
  · intro none row gone
    rcases List.mem_append.mp gone with before | inside
    · exact holds row before
    · have here := carried.covered running row inside
      rw [none, covered_iff] at here
      exact here.resolve_left List.not_mem_nil

/-- The other calls of `syncOpenPorts` delete nothing. -/
private theorem onlyUploadedDeleted_other (holds : state.OnlyUploadedDeleted)
    (phase : state.upload ≠ .delete) (response : OpenPortsResponse) :
    (state.syncOpenPorts response).OnlyUploadedDeleted := by
  rw [syncOpenPorts]
  split
  · exact holds
  · dsimp only
    split <;> exact holds
  · split
    · exact fun row gone => List.mem_append_left _ (holds row gone)
    · exact holds
  · next impossible => exact absurd impossible phase

/-- A state in which no upload runs. -/
private theorem carried_of_resting {after : OpenPortsState}
    (resting : ¬ after.upload.Running)
    (shouldSync : ∀ row ∈ after.table, row.shouldSync = true) :
    after.Carried where
  shouldSync := shouldSync
  batch := by
    intro row waiting
    cases phase : after.upload with
    | post batch =>
        rw [phase] at resting
        exact absurd trivial resting
    | idle =>
        rw [phase] at waiting
        cases waiting
    | read =>
        rw [phase] at waiting
        cases waiting
    | delete =>
        rw [phase] at waiting
        cases waiting
  covered running := absurd running resting
  late running := absurd running resting

private theorem carried_sync (carried : state.Carried)
    (response : OpenPortsResponse) :
    (state.syncOpenPorts response).Carried := by
  rw [syncOpenPorts]
  split
  · exact carried
  · dsimp only
    split
    · exact carried_of_resting id carried.shouldSync
    · refine ⟨carried.shouldSync, ?_, ?_, ?_⟩
      · intro row read
        exact (KeyedTable.mem_select.mp read).1
      · intro _ row inside
        refine Or.inr (Or.inr (KeyedTable.mem_select.mpr ?_))
        exact ⟨inside, carried.shouldSync row inside⟩
      · intro _ row impossible
        cases impossible
  · next batch phase =>
    split
    · have running : state.upload.Running := by
        rw [phase]
        trivial
      have sent (row : OpenPorts) :
          state.Covered row ↔ row ∈ state.acknowledged ++ batch := by
        rw [Covered, phase, List.mem_append]
        rfl
      have after (row : OpenPorts) :
          Covered
              { state with
                upload := .delete
                acknowledged := state.acknowledged ++ batch } row ↔
            state.Covered row := by
        rw [sent, Covered]
        simp [OpenPortsUpload.batch]
      refine ⟨carried.shouldSync, ?_, ?_, ?_⟩
      · intro row impossible
        cases impossible
      · intro _ row inside
        rw [after]
        exact carried.covered running row inside
      · intro _ row late
        rw [after]
        exact carried.late running row late
    · exact carried_of_resting id carried.shouldSync
  · refine carried_of_resting id fun row inside => ?_
    have gone := (KeyedTable.mem_deleteWhere.mp inside).2
    cases gone

theorem carried_step (carried : state.Carried) {event : OpenPortsEvent}
    (fresh : FreshRows state event) :
    (openPortsStep state event).Carried := by
  cases event with
  | scanned vpnEnabled openPorts =>
      cases vpnEnabled with
      | false =>
          rw [scanned_disabled]
          exact carried
      | true => exact (carried_scanned carried fresh).1
  | startSync =>
      rw [openPortsStep]
      split
      · exact carried_of_resting id carried.shouldSync
      · exact carried
  | sync response => exact carried_sync carried response

private theorem onlyUploadedDeleted_step (carried : state.Carried)
    (holds : state.OnlyUploadedDeleted) {event : OpenPortsEvent}
    (fresh : FreshRows state event) :
    (openPortsStep state event).OnlyUploadedDeleted ↔
      DeletesWhatWasRead state event := by
  cases event with
  | scanned vpnEnabled openPorts =>
      refine iff_of_true ?_ trivial
      cases vpnEnabled with
      | false =>
          rw [scanned_disabled]
          exact holds
      | true =>
          have kept := (carried_scanned carried fresh).2
          rw [OnlyUploadedDeleted, kept]
          exact holds
  | startSync =>
      refine iff_of_true ?_ trivial
      rw [openPortsStep]
      split
      · exact holds
      · exact holds
  | sync response =>
      by_cases phase : state.upload = .delete
      · have exact_delete :=
          onlyUploadedDeleted_delete carried holds phase response
        exact exact_delete.trans ⟨fun none _ => none, fun meets => meets phase⟩
      · exact
          iff_of_true (onlyUploadedDeleted_other holds phase response)
            fun impossible => absurd impossible phase

end OpenPortsState

/-- In every run whose scans return fresh rows, only rows of acknowledged
uploads are deleted, in every state, if and only if nothing is inserted
between the reading and the deleting of an upload. -/
theorem onlyUploadedDeleted_iff (events : List OpenPortsEvent)
    (fresh : StepsMeet openPortsStep FreshRows .start events) :
    (∀ visited, visited <+: events →
      (run openPortsStep .start visited).OnlyUploadedDeleted) ↔
      StepsMeet openPortsStep DeletesWhatWasRead .start events := by
  have exact_run :=
    @forall_prefix_iff_stepsMeet OpenPortsState OpenPortsEvent openPortsStep
      DeletesWhatWasRead
      (fun handled event =>
        FreshRows (run openPortsStep .start handled) event)
      (fun handled state =>
        state = run openPortsStep .start handled ∧ state.Carried)
      (fun _ state => state.OnlyUploadedDeleted)
      (by
        rintro handled state event fresh ⟨rfl, carried⟩ holds
        exact OpenPortsState.onlyUploadedDeleted_step carried holds fresh)
      (by
        rintro handled state event fresh ⟨rfl, carried⟩ _
        exact
          ⟨(run_concat _ _ _ _).symm,
            OpenPortsState.carried_step carried fresh⟩)
      events [] OpenPortsState.start
  apply exact_run
  · exact StepsMeet.along fresh
  · exact ⟨rfl, OpenPortsState.carried_start⟩
  · exact fun _ inside => absurd inside List.not_mem_nil

/-- What a scan of one open port returns. -/
def shellPorts (uuid : UUID) : OpenPorts where
  uuid
  packageLabel := "System"
  packageName := "System"
  udpPorts := ∅
  tcpPorts := {22}
  timeOpenPortsObserved := 0
  shouldSync := true
  scheduledForDeletion := false

/-- A second scan ends while the first one's rows are uploaded. -/
def scanDuringUpload : List OpenPortsEvent :=
  [.scanned true [shellPorts 1], .startSync, .sync .success,
    .scanned true [shellPorts 2], .sync .success, .sync .success]

private theorem scanDuringUpload_fresh :
    StepsMeet openPortsStep FreshRows .start scanDuringUpload := by
  refine ⟨?_, trivial, trivial, ?_, trivial, trivial, trivial⟩
  · intro _
    exact ⟨by decide, by decide⟩
  · intro _
    exact ⟨by decide, by decide +kernel⟩

theorem scanDuringUpload_lost :
    StepsMeet openPortsStep FreshRows .start scanDuringUpload ∧
      shellPorts 2 ∈ (run openPortsStep .start scanDuringUpload).deleted ∧
      shellPorts 2 ∉
        (run openPortsStep .start scanDuringUpload).acknowledged ∧
      ¬ (run openPortsStep .start scanDuringUpload).OnlyUploadedDeleted := by
  have deleted :
      shellPorts 2 ∈
        (run openPortsStep .start scanDuringUpload).deleted := by
    decide +kernel
  have notSent :
      shellPorts 2 ∉
        (run openPortsStep .start scanDuringUpload).acknowledged := by
    decide +kernel
  exact
    ⟨scanDuringUpload_fresh, deleted, notSent,
      fun holds => notSent (holds _ deleted)⟩

theorem onlyUploadedDeleted_iff_scanDuringUpload :
    (∀ visited, visited <+: scanDuringUpload →
      (run openPortsStep .start visited).OnlyUploadedDeleted) ↔
      StepsMeet openPortsStep DeletesWhatWasRead .start scanDuringUpload :=
  onlyUploadedDeleted_iff scanDuringUpload scanDuringUpload_fresh

end LanShield.BackendSync
