import LanShield.BackendSync.SyncACL

/-!
# Which policy changes reach the server

A change is marked in its row, so choosing the default policy, which deletes
the row, marks nothing; and `setAllSynced` clears every mark, also of rows
changed since they were read.
-/

namespace LanShield.BackendSync

open LanShield.Library

/-- The policy a package is under. -/
def effectivePolicy (packageName : String) (table : PolicyTable) : Policy :=
  ((table.find packageName).map LanAccessPolicy.accessPolicy).getD .default

/-- The policy the server has for a package. -/
def AclState.uploadedPolicy (state : AclState) (packageName : String) :
    Policy :=
  (state.uploaded packageName).getD .default

/-- The row of the package is marked. -/
def Unsynced (packageName : String) (table : PolicyTable) : Prop :=
  ∃ row ∈ table, row.packageName = packageName ∧ row.shouldSync = true

/-- A package is marked, or the server has its policy. -/
def AclState.Accounted (state : AclState) (packageName : String) : Prop :=
  Unsynced packageName state.policies ∨
    state.uploadedPolicy packageName =
      effectivePolicy packageName state.policies

/-- No change is lost. -/
def AclState.NothingLost (state : AclState) : Prop :=
  ∀ packageName, state.Accounted packageName

/-- The package whose row the change deletes. -/
def PolicyChange.deletes : PolicyChange → Option String
  | .onChangeAccessPolicy packageName newPolicy =>
      if newPolicy = .default then some packageName else none
  | .updateLanAccessPolicy packageName newPolicy =>
      if newPolicy = .default then some packageName else none
  | .handleUpdateLanPolicy _ _ => none

/-- A row is deleted only if the server has no other policy for its package;
a request is stored only if its packages still have their rows; and
`setAllSynced` meets only rows the server has as they are. -/
def LosesNoChange (state : AclState) : AclEvent → Prop
  | .change change =>
      ∀ packageName, change.deletes = some packageName →
        state.uploadedPolicy packageName = .default
  | .startSync => True
  | .worker response =>
      match state.worker with
      | .post request =>
          response.stored = true →
            ∀ packageName, state.policies.find packageName = none →
              (request.value packageName).getD .default = .default
      | .setSynced =>
          ∀ row ∈ state.policies, row.shouldSync = true →
            state.uploadedPolicy row.packageName = row.accessPolicy
      | _ => True

/-- The packages the running `syncACL` has read. -/
def AclWorker.Listed (packageName : String) : AclWorker → Prop
  | .idle => False
  | .readAllowed => False
  | .readBlocked allowed => packageName ∈ allowed
  | .readDefault allowed blocked =>
      packageName ∈ allowed ∨ packageName ∈ blocked
  | .post request => request.value packageName ≠ none
  | .setSynced => False

/-- A row that has been read stays marked until `setAllSynced`. -/
def AclState.ListedMarked (state : AclState) : Prop :=
  ∀ packageName, state.worker.Listed packageName →
    ∀ row ∈ state.policies, row.packageName = packageName →
      row.shouldSync = true

/-- A change deletes the row of a package, or replaces it by a marked one.
-/
private theorem PolicyChange.apply_cases (change : PolicyChange)
    (table : PolicyTable) :
    (∃ packageName, change.deletes = some packageName ∧
        change.apply table =
          table.deleteWhere fun row => row.packageName = packageName) ∨
      ∃ new : LanAccessPolicy, new.shouldSync = true ∧
        change.deletes = none ∧ change.apply table = table.insert new := by
  cases change with
  | onChangeAccessPolicy packageName newPolicy =>
      by_cases chosen : newPolicy = .default
      · exact Or.inl ⟨packageName, if_pos chosen, if_pos chosen⟩
      · exact Or.inr ⟨_, rfl, if_neg chosen, if_neg chosen⟩
  | updateLanAccessPolicy packageName newPolicy =>
      by_cases chosen : newPolicy = .default
      · exact Or.inl ⟨packageName, if_pos chosen, if_pos chosen⟩
      · exact Or.inr ⟨_, rfl, if_neg chosen, if_neg chosen⟩
  | handleUpdateLanPolicy packageName policy =>
      exact Or.inr ⟨_, rfl, rfl, rfl⟩

namespace AclState

private theorem accounted_row {state : AclState} {row : LanAccessPolicy}
    (inside : row ∈ state.policies) :
    state.Accounted row.packageName ↔
      row.shouldSync = true ∨
        state.uploadedPolicy row.packageName = row.accessPolicy := by
  have found : state.policies.find row.packageName = some row :=
    KeyedTable.find_eq_some_iff.mpr ⟨inside, rfl⟩
  have marked :
      Unsynced row.packageName state.policies ↔ row.shouldSync = true := by
    constructor
    · rintro ⟨other, member, same, unsynced⟩
      rw [← KeyedTable.eq_of_key member inside same]
      exact unsynced
    · intro unsynced
      exact ⟨row, inside, rfl, unsynced⟩
  rw [Accounted, effectivePolicy]
  rw [marked, found]
  rfl

private theorem accounted_absent {state : AclState} {packageName : String}
    (absent : state.policies.find packageName = none) :
    state.Accounted packageName ↔
      state.uploadedPolicy packageName = .default := by
  have unmarked : ¬ Unsynced packageName state.policies := by
    rintro ⟨row, inside, same, _⟩
    exact KeyedTable.find_eq_none_iff.mp absent row inside same
  rw [Accounted, effectivePolicy]
  rw [or_iff_right unmarked, absent]
  rfl

/-- Accounting for a package depends on its row and its uploaded value. -/
private theorem accounted_congr {state other : AclState}
    {packageName : String}
    (rows :
      ∀ row : LanAccessPolicy, row.packageName = packageName →
        (row ∈ other.policies ↔ row ∈ state.policies))
    (uploaded : other.uploaded packageName = state.uploaded packageName) :
    other.Accounted packageName ↔ state.Accounted packageName := by
  have found :
      other.policies.find packageName = state.policies.find packageName :=
    KeyedTable.find_congr rows
  have marked :
      Unsynced packageName other.policies ↔
        Unsynced packageName state.policies := by
    constructor
    · rintro ⟨row, inside, same, unsynced⟩
      exact ⟨row, (rows row same).mp inside, same, unsynced⟩
    · rintro ⟨row, inside, same, unsynced⟩
      exact ⟨row, (rows row same).mpr inside, same, unsynced⟩
  unfold Accounted uploadedPolicy effectivePolicy
  rw [marked, uploaded, found]

private theorem nothingLost_change {state : AclState}
    (holds : state.NothingLost)
    (change : PolicyChange) :
    (aclStep state (.change change)).NothingLost ↔
      LosesNoChange state (.change change) := by
  rcases change.apply_cases state.policies with
    ⟨packageName, deletes, applied⟩ | ⟨new, marked, deletes, applied⟩
  · have rows (row : LanAccessPolicy) :
        row ∈ (aclStep state (.change change)).policies ↔
          row ∈ state.policies ∧ row.packageName ≠ packageName := by
      change row ∈ change.apply state.policies ↔ _
      rw [applied, KeyedTable.mem_deleteWhere, decide_eq_false_iff_not]
    have absent :
        (aclStep state (.change change)).policies.find packageName =
          none := by
      apply KeyedTable.find_eq_none_iff.mpr
      intro row inside
      exact ((rows row).mp inside).2
    constructor
    · intro after name chosen
      rw [deletes, Option.some.injEq] at chosen
      subst chosen
      exact (accounted_absent absent).mp (after packageName)
    · intro unknown name
      by_cases same : name = packageName
      · subst same
        exact (accounted_absent absent).mpr (unknown name deletes)
      · apply (accounted_congr _ _).mpr (holds name)
        · intro row named
          rw [rows row, named]
          exact and_iff_left same
        · rfl
  · have rows (row : LanAccessPolicy) :
        row ∈ (aclStep state (.change change)).policies ↔
          row = new ∨
            row ∈ state.policies ∧ row.packageName ≠ new.packageName := by
      change row ∈ change.apply state.policies ↔ _
      rw [applied, KeyedTable.mem_insert]
    constructor
    · intro _ name chosen
      rw [deletes] at chosen
      cases chosen
    · intro _ name
      by_cases same : name = new.packageName
      · left
        exact ⟨new, (rows new).mpr (Or.inl rfl), same.symm, marked⟩
      · apply (accounted_congr _ _).mpr (holds name)
        · intro row named
          have other : row ≠ new := by
            rintro rfl
            exact same named.symm
          rw [rows row, named, or_iff_right other]
          exact and_iff_left same
        · rfl

private theorem nothingLost_setSynced {state : AclState}
    (holds : state.NothingLost) (phase : state.worker = .setSynced)
    (response : AclResponse) :
    (aclStep state (.worker response)).NothingLost ↔
      LosesNoChange state (.worker response) := by
  have stepped :
      aclStep state (.worker response) =
        { state with
          policies := LanAccessPolicyDao.setAllSynced state.policies
          worker := .idle } := by
    simp only [aclStep, syncACL, phase]
  have condition :
      LosesNoChange state (.worker response) ↔
        ∀ row ∈ state.policies, row.shouldSync = true →
          state.uploadedPolicy row.packageName = row.accessPolicy := by
    simp only [LosesNoChange, phase]
  have cleared {row : LanAccessPolicy} (inside : row ∈ state.policies)
      (marked : row.shouldSync = true) :
      { row with shouldSync := false } ∈
        (aclStep state (.worker response)).policies := by
    rw [stepped]
    exact
      LanAccessPolicyDao.mem_setAllSynced.mpr
        (Or.inl ⟨row, inside, marked, rfl⟩)
  have kept {row : LanAccessPolicy} (inside : row ∈ state.policies)
      (clean : row.shouldSync = false) :
      row ∈ (aclStep state (.worker response)).policies := by
    rw [stepped]
    exact LanAccessPolicyDao.mem_setAllSynced.mpr (Or.inr ⟨inside, clean⟩)
  have same (packageName : String) :
      (aclStep state (.worker response)).uploadedPolicy packageName =
        state.uploadedPolicy packageName := by
    rw [stepped]
    rfl
  rw [condition]
  constructor
  · intro after row inside marked
    have accounted :=
      (accounted_row (cleared inside marked)).mp (after row.packageName)
    rw [← same row.packageName]
    exact accounted.resolve_left Bool.false_ne_true
  · intro known name
    cases found : state.policies.find name with
    | none =>
        have absent :
            (aclStep state (.worker response)).policies.find name =
              none := by
          rw [stepped]
          apply KeyedTable.find_eq_none_iff.mpr
          intro row inside
          have rows := KeyedTable.find_eq_none_iff.mp found
          rcases LanAccessPolicyDao.mem_setAllSynced.mp inside with
            ⟨old, member, _, rfl⟩ | ⟨member, _⟩
          · exact rows old member
          · exact rows row member
        rw [accounted_absent absent, same name]
        exact (accounted_absent found).mp (holds name)
    | some row =>
        obtain ⟨inside, rfl⟩ := KeyedTable.find_eq_some_iff.mp found
        cases marked : row.shouldSync with
        | false =>
            rw [accounted_row (kept inside marked), same row.packageName]
            exact (accounted_row inside).mp (holds row.packageName)
        | true =>
            apply (accounted_row (cleared inside marked)).mpr
            right
            rw [same row.packageName]
            exact known row inside marked

/-- Once a request is stored, its packages are accounted for unless they have
lost their rows to the default policy. -/
private theorem accounted_store {state after : AclState}
    (holds : state.NothingLost)
    (listed : state.ListedMarked) {request : AclRequest}
    (phase : state.worker = .post request)
    (policies : after.policies = state.policies)
    (uploaded : after.uploaded = request.store state.uploaded)
    (name : String) :
    after.Accounted name ↔
      (state.policies.find name = none →
        (request.value name).getD .default = .default) := by
  have stored :
      after.uploaded name = (request.value name).or (state.uploaded name) :=
    congrFun uploaded name
  cases value : request.value name with
  | none =>
      rw [value, Option.none_or] at stored
      apply iff_of_true
      · apply (accounted_congr _ _).mpr (holds name)
        · intro row _
          rw [policies]
        · exact stored
      · exact fun _ => rfl
  | some policy =>
      have given : after.uploadedPolicy name = policy := by
        rw [uploadedPolicy]
        rw [stored, value, Option.some_or, Option.getD_some]
      cases found : state.policies.find name with
      | none =>
          rw [← policies] at found
          rw [accounted_absent found, given]
          exact ⟨fun default _ => default, fun default => default rfl⟩
      | some row =>
          apply iff_of_true
          · obtain ⟨inside, rfl⟩ := KeyedTable.find_eq_some_iff.mp found
            have read : state.worker.Listed row.packageName := by
              rw [phase]
              intro silent
              rw [value] at silent
              cases silent
            have marked := listed row.packageName read row inside rfl
            rw [← policies] at inside
            exact Or.inl ⟨row, inside, rfl, marked⟩
          · exact nofun

private theorem nothingLost_post {state : AclState}
    (holds : state.NothingLost)
    (listed : state.ListedMarked) {request : AclRequest}
    (phase : state.worker = .post request) (response : AclResponse) :
    (aclStep state (.worker response)).NothingLost ↔
      LosesNoChange state (.worker response) := by
  have stepped :
      aclStep state (.worker response) =
        { state with
          uploaded :=
            if response.stored then
              request.store state.uploaded
            else
              state.uploaded
          worker := if response = .success then .setSynced else .idle } := by
    simp only [aclStep, syncACL, phase]
  have condition :
      LosesNoChange state (.worker response) ↔
        (response.stored = true →
          ∀ packageName, state.policies.find packageName = none →
            (request.value packageName).getD .default = .default) := by
    simp only [LosesNoChange, phase]
  have policies :
      (aclStep state (.worker response)).policies = state.policies := by
    rw [stepped]
  rw [condition]
  cases stored : response.stored with
  | false =>
      have uploaded :
          (aclStep state (.worker response)).uploaded = state.uploaded := by
        rw [stepped, stored]
        rfl
      apply iff_of_true
      · intro name
        apply (accounted_congr _ _).mpr (holds name)
        · intro row _
          rw [policies]
        · rw [uploaded]
      · exact fun impossible => absurd impossible Bool.false_ne_true
  | true =>
      have uploaded :
          (aclStep state (.worker response)).uploaded =
            request.store state.uploaded := by
        rw [stepped, stored]
        rfl
      have each := accounted_store holds listed phase policies uploaded
      exact (forall_congr' each).trans ⟨fun all _ => all, fun all => all rfl⟩

/-- The other calls of `syncACL` read. -/
private theorem nothingLost_read {state : AclState}
    (holds : state.NothingLost)
    (noPost : ∀ request, state.worker ≠ .post request)
    (noClear : state.worker ≠ .setSynced) (response : AclResponse) :
    (aclStep state (.worker response)).NothingLost ↔
      LosesNoChange state (.worker response) := by
  have kept :
      (state.syncACL response).policies = state.policies ∧
        (state.syncACL response).uploaded = state.uploaded := by
    rw [syncACL]
    split
    · exact ⟨rfl, rfl⟩
    · exact ⟨rfl, rfl⟩
    · exact ⟨rfl, rfl⟩
    · dsimp only
      split
      · exact ⟨rfl, rfl⟩
      · exact ⟨rfl, rfl⟩
    · next request phase => exact absurd phase (noPost request)
    · next phase => exact absurd phase noClear
  obtain ⟨policies, uploaded⟩ := kept
  apply iff_of_true
  · intro name
    apply (accounted_congr _ _).mpr (holds name)
    · intro row _
      exact iff_of_eq (congrArg (row ∈ ·) policies)
    · exact congrFun uploaded name
  · unfold LosesNoChange
    dsimp only
    split
    · next request phase => exact absurd phase (noPost request)
    · next phase => exact absurd phase noClear
    · trivial

/-- A step keeps everything accounted for exactly when it loses no change.
-/
private theorem nothingLost_step {state : AclState}
    (holds : state.NothingLost)
    (listed : state.ListedMarked) (event : AclEvent) :
    (aclStep state event).NothingLost ↔ LosesNoChange state event := by
  cases event with
  | change change => exact nothingLost_change holds change
  | startSync =>
      refine iff_of_true ?_ trivial
      unfold aclStep
      dsimp only
      split
      · exact holds
      · exact holds
  | worker response =>
      cases phase : state.worker with
      | post request => exact nothingLost_post holds listed phase response
      | setSynced => exact nothingLost_setSynced holds phase response
      | idle =>
          apply nothingLost_read holds
          · simp [phase]
          · simp [phase]
      | readAllowed =>
          apply nothingLost_read holds
          · simp [phase]
          · simp [phase]
      | readBlocked allowed =>
          apply nothingLost_read holds
          · simp [phase]
          · simp [phase]
      | readDefault allowed blocked =>
          apply nothingLost_read holds
          · simp [phase]
          · simp [phase]

private theorem marked_of_listed {policy : Policy} {table : PolicyTable}
    {packageName : String}
    (read :
      packageName ∈ LanAccessPolicyDao.getAllUnsyncedPolicy policy table)
    {row : LanAccessPolicy} (inside : row ∈ table)
    (named : row.packageName = packageName) : row.shouldSync = true := by
  obtain ⟨other, selected, same⟩ := List.mem_map.mp read
  obtain ⟨member, chosen⟩ := KeyedTable.mem_select.mp selected
  have equal := KeyedTable.eq_of_key member inside (same.trans named.symm)
  rw [← equal]
  exact (of_decide_eq_true chosen).1

private theorem listed_of_value {request : AclRequest} {packageName : String}
    (given : request.value packageName ≠ none) :
    packageName ∈ request.allowlist ∨ packageName ∈ request.blocklist ∨
      packageName ∈ request.defaultlist := by
  rw [AclRequest.value] at given
  split_ifs at given with default blocked allowed
  · exact Or.inr (Or.inr default)
  · exact Or.inr (Or.inl blocked)
  · exact Or.inl allowed
  · exact absurd rfl given

private theorem listedMarked_step {state : AclState}
    (listed : state.ListedMarked)
    (event : AclEvent) : (aclStep state event).ListedMarked := by
  cases event with
  | change change =>
      intro name read row inside named
      have inside : row ∈ change.apply state.policies := inside
      rcases change.apply_cases state.policies with
        ⟨packageName, _, applied⟩ | ⟨new, marked, _, applied⟩
      · rw [applied, KeyedTable.mem_deleteWhere] at inside
        exact listed name read row inside.1 named
      · rw [applied, KeyedTable.mem_insert] at inside
        rcases inside with rfl | ⟨member, _⟩
        · exact marked
        · exact listed name read row member named
  | startSync =>
      unfold aclStep
      dsimp only
      split
      · exact fun _ read => False.elim read
      · exact listed
  | worker response =>
      rw [aclStep, syncACL]
      dsimp only
      split
      · exact listed
      · intro name read row inside named
        exact marked_of_listed read inside named
      · next allowed phase =>
        rintro name (read | read) row inside named
        · have before : state.worker.Listed name := by
            rw [phase]
            exact read
          exact listed name before row inside named
        · exact marked_of_listed read inside named
      · next allowed blocked phase =>
        split
        · exact fun _ read => False.elim read
        · intro name given row inside named
          have before (earlier : name ∈ allowed ∨ name ∈ blocked) :
              row.shouldSync = true := by
            refine listed name ?_ row inside named
            rw [phase]
            exact earlier
          rcases listed_of_value given with allow | block | read
          · exact before (Or.inl allow)
          · exact before (Or.inr block)
          · exact marked_of_listed read inside named
      · intro name read
        dsimp only at read
        split at read
        · exact False.elim read
        · exact False.elim read
      · exact fun _ read => False.elim read

end AclState

/-- In every run no change is lost, in any state and so after any
`syncACL`, if and only if no step loses one. -/
theorem nothingLost_iff (events : List AclEvent) :
    (∀ visited, visited <+: events →
      (run aclStep .start visited).NothingLost) ↔
      StepsMeet aclStep LosesNoChange .start events := by
  have exact_run :=
    @forall_prefix_iff_stepsMeet AclState AclEvent aclStep LosesNoChange
      (fun _ _ => True) (fun _ state => state.ListedMarked)
      (fun _ state => state.NothingLost)
      (fun _ state event _ listed holds =>
        AclState.nothingLost_step holds listed event)
      (fun _ state event _ listed _ =>
        AclState.listedMarked_step listed event)
      events [] AclState.start
  apply exact_run
  · exact Along.of_forall (fun _ _ => trivial) events []
  · exact fun _ read => False.elim read
  · exact fun _ => Or.inr rfl

/-- An app is blocked and the policy is uploaded, but for the last call. -/
def blockedApp : List AclEvent :=
  [.change (.onChangeAccessPolicy "app" .block), .startSync,
    .worker .success, .worker .success, .worker .success,
    .worker .success]

/-- The user goes back to the default, and `syncACL` runs again. -/
def blockThenDefault : List AclEvent :=
  blockedApp ++
    [.worker .success, .change (.onChangeAccessPolicy "app" .default),
      .startSync, .worker .success, .worker .success, .worker .success]

/-- The user allows the app before the last call. -/
def allowDuringUpload : List AclEvent :=
  blockedApp ++
    [.change (.onChangeAccessPolicy "app" .allow), .worker .success]

theorem policy_changes_lost :
    ((run aclStep .start blockThenDefault).worker = .idle ∧
        ¬ (run aclStep .start blockThenDefault).NothingLost) ∧
      (run aclStep .start allowDuringUpload).worker = .idle ∧
        ¬ (run aclStep .start allowDuringUpload).NothingLost := by
  refine ⟨⟨by decide +kernel, ?_⟩, by decide +kernel, ?_⟩
  · intro holds
    have absent :
        (run aclStep .start blockThenDefault).policies.find "app" =
          none := by
      decide +kernel
    have known := (AclState.accounted_absent absent).mp (holds "app")
    exact absurd known (by decide +kernel)
  · intro holds
    have inside :
        (⟨"app", .allow, false⟩ : LanAccessPolicy) ∈
          (run aclStep .start allowDuringUpload).policies.rows := by
      decide +kernel
    have known := (AclState.accounted_row inside).mp (holds "app")
    exact absurd known (by decide +kernel)

end LanShield.BackendSync
