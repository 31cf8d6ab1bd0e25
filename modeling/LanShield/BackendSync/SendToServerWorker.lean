import LanShield.Library.Since

/-!
# `SendToServerWorker`

`doWork`, between any two of whose calls the user may change the preferences.
What the tables hold, what the server answers and what a call throws come with
each step; the four uploads are modelled on their own.
-/

namespace LanShield.BackendSync

open LanShield.Library

/-- The preferences the worker uses. -/
structure SyncPreferences where
  shareLanMetrics : Option Bool
  shareAppUsage : Option Bool
  appInstallationUuid : Option String
  timeOfLastSync : Option Int
  deriving DecidableEq, Repr

/-- A request to an endpoint of the backend, with its
`app_installation_uuid`. -/
inductive BackendRequest where
  | getAppInstallationUuid
  | addAppUsage (appInstallationUuid : String) (timeOfLastSync : Int)
  | addFlows (appInstallationUuid : String)
  | addAcl (appInstallationUuid : String)
  | addLanShieldSession (appInstallationUuid : String)
  | addOpenPorts (appInstallationUuid : String)
  deriving DecidableEq, Repr

def BackendRequest.appInstallationUuid : BackendRequest → Option String
  | .getAppInstallationUuid => none
  | .addAppUsage appInstallationUuid _ => some appInstallationUuid
  | .addFlows appInstallationUuid => some appInstallationUuid
  | .addAcl appInstallationUuid => some appInstallationUuid
  | .addLanShieldSession appInstallationUuid => some appInstallationUuid
  | .addOpenPorts appInstallationUuid => some appInstallationUuid

inductive WorkException where
  | ioException
  | other
  deriving DecidableEq, Repr

/-- What the world answers to the next call: whether a request is sent, what
the call throws, and of what it returns the UUID of a registration, whether
the message is `APP_USAGE_SUCCESS`, and the time. -/
structure WorkAnswer where
  sends : Bool
  thrown : Option WorkException
  appInstallationUuid : String
  usageStored : Bool
  currentTimeMillis : Int
  deriving DecidableEq, Repr

/-- `ListenableWorker.Result`. -/
inductive WorkResult where
  | success
  | retry
  | failure
  deriving DecidableEq, Repr

/-- The next call of `doWork`. -/
inductive WorkPhase where
  | idle
  | readShareLanMetrics
  | getAppInstallationUUID
  | registerAppInstallation
  | storeAppInstallationUuid (appInstallationUUID : String)
  | readShareAppUsage (appInstallationUUID : String)
  | readTimeOfLastSync (appInstallationUUID : String)
  | syncAppUsage (appInstallationUUID : String) (timeOfLastSync : Int)
  | storeTimeOfLastSync (appInstallationUUID : String)
  | syncFlows (appInstallationUUID : String)
  | syncACL (appInstallationUUID : String)
  | syncLanShieldSessions (appInstallationUUID : String)
  | syncOpenPorts (appInstallationUUID : String)
  deriving DecidableEq, Repr

/-- The UUID the rest of `doWork` has as its argument. -/
def WorkPhase.argument : WorkPhase → Option String
  | .readShareAppUsage appInstallationUUID => some appInstallationUUID
  | .readTimeOfLastSync appInstallationUUID => some appInstallationUUID
  | .syncAppUsage appInstallationUUID _ => some appInstallationUUID
  | .storeTimeOfLastSync appInstallationUUID => some appInstallationUUID
  | .syncFlows appInstallationUUID => some appInstallationUUID
  | .syncACL appInstallationUUID => some appInstallationUUID
  | .syncLanShieldSessions appInstallationUUID => some appInstallationUUID
  | .syncOpenPorts appInstallationUUID => some appInstallationUUID
  | _ => none

/-- The request of a call. -/
def WorkPhase.body : WorkPhase → Option BackendRequest
  | .registerAppInstallation => some .getAppInstallationUuid
  | .syncAppUsage appInstallationUUID timeOfLastSync =>
      some (.addAppUsage appInstallationUUID timeOfLastSync)
  | .syncFlows appInstallationUUID => some (.addFlows appInstallationUUID)
  | .syncACL appInstallationUUID => some (.addAcl appInstallationUUID)
  | .syncLanShieldSessions appInstallationUUID =>
      some (.addLanShieldSession appInstallationUUID)
  | .syncOpenPorts appInstallationUUID =>
      some (.addOpenPorts appInstallationUUID)
  | _ => none

/-- The calls that return only after their request; the others make none when
their table has nothing to send. -/
def WorkPhase.alwaysSends : WorkPhase → Bool
  | .registerAppInstallation => true
  | .syncAppUsage _ _ => true
  | _ => false

/-- The request a call makes. -/
def WorkPhase.request (answer : WorkAnswer) (phase : WorkPhase) :
    Option BackendRequest :=
  if answer.sends || (phase.alwaysSends && answer.thrown.isNone) then
    phase.body
  else
    none

/-- `sent` are the requests so far, `result` is that of the last `doWork`. -/
structure WorkState where
  preferences : SyncPreferences
  phase : WorkPhase
  sent : List BackendRequest
  result : Option WorkResult
  deriving DecidableEq, Repr

namespace WorkState

def start : WorkState where
  preferences := ⟨none, none, none, none⟩
  phase := .idle
  sent := []
  result := none

/-- `Calendar.getInstance().timeInMillis - TimeUnit.DAYS.toMillis(1)`. -/
def oneDayBefore (currentTimeMillis : Int) : Int :=
  currentTimeMillis - 24 * 60 * 60 * 1000

/-- The call returns. -/
def returned (answer : WorkAnswer) (state : WorkState) : WorkState :=
  match state.phase with
  | .idle => state
  | .readShareLanMetrics =>
      if state.preferences.shareLanMetrics.getD false then
        { state with phase := .getAppInstallationUUID }
      else
        { state with
          phase := .idle
          result := some .success }
  | .getAppInstallationUUID =>
      match state.preferences.appInstallationUuid with
      | some appInstallationUUID =>
          { state with phase := .readShareAppUsage appInstallationUUID }
      | none => { state with phase := .registerAppInstallation }
  | .registerAppInstallation =>
      { state with
        phase := .storeAppInstallationUuid answer.appInstallationUuid }
  | .storeAppInstallationUuid appInstallationUUID =>
      { state with
        preferences :=
          { state.preferences with
            appInstallationUuid := some appInstallationUUID }
        phase := .readShareAppUsage appInstallationUUID }
  | .readShareAppUsage appInstallationUUID =>
      if state.preferences.shareAppUsage.getD false then
        { state with phase := .readTimeOfLastSync appInstallationUUID }
      else
        { state with phase := .syncFlows appInstallationUUID }
  | .readTimeOfLastSync appInstallationUUID =>
      { state with
        phase :=
          .syncAppUsage appInstallationUUID
            (state.preferences.timeOfLastSync.getD
              (oneDayBefore answer.currentTimeMillis)) }
  | .syncAppUsage appInstallationUUID _ =>
      if answer.usageStored then
        { state with phase := .storeTimeOfLastSync appInstallationUUID }
      else
        { state with phase := .syncFlows appInstallationUUID }
  | .storeTimeOfLastSync appInstallationUUID =>
      { state with
        preferences :=
          { state.preferences with
            timeOfLastSync := some answer.currentTimeMillis }
        phase := .syncFlows appInstallationUUID }
  | .syncFlows appInstallationUUID =>
      if answer.sends then
        state
      else
        { state with phase := .syncACL appInstallationUUID }
  | .syncACL appInstallationUUID =>
      { state with phase := .syncLanShieldSessions appInstallationUUID }
  | .syncLanShieldSessions appInstallationUUID =>
      { state with phase := .syncOpenPorts appInstallationUUID }
  | .syncOpenPorts _ =>
      { state with
        phase := .idle
        result := some .success }

/-- The call throws, which `doWork` catches from `sendRoutineRequests` on. -/
def throws (exception : WorkException) (state : WorkState) : WorkState :=
  match state.phase, exception with
  | .idle, _ => state
  | .readShareLanMetrics, _ =>
      { state with
        phase := .idle
        result := some .failure }
  | _, .ioException =>
      { state with
        phase := .idle
        result := some .retry }
  | _, .other =>
      { state with
        phase := .idle
        result := some .failure }

/-- The next call of `doWork`. -/
def work (answer : WorkAnswer) (state : WorkState) : WorkState :=
  let called : WorkState :=
    { state with
      sent := state.sent ++ (state.phase.request answer).toList }
  match answer.thrown with
  | none => called.returned answer
  | some exception => called.throws exception

/-- `doWork` is called, unless it is running. -/
def doWork (state : WorkState) : WorkState :=
  match state.phase with
  | .idle => { state with phase := .readShareLanMetrics }
  | _ => state

end WorkState

/-- A change of the preferences outside the worker. -/
inductive PreferenceChange where
  | onChangeShareLanMetrics (enabled : Bool)
  | onChangeShareAppUsage (enabled : Bool)
  | setDataStoreDefaults
  deriving DecidableEq, Repr

/-- `SettingsViewModel`, `IntroViewModel` and `MainActivity`. -/
def PreferenceChange.apply (preferences : SyncPreferences) :
    PreferenceChange → SyncPreferences
  | .onChangeShareLanMetrics enabled =>
      { preferences with shareLanMetrics := some enabled }
  | .onChangeShareAppUsage enabled =>
      { preferences with shareAppUsage := some enabled }
  | .setDataStoreDefaults =>
      { preferences with
        shareLanMetrics := preferences.shareLanMetrics.or (some false)
        shareAppUsage := preferences.shareAppUsage.or (some false) }

/-- `stopped` is the end of the worker by the platform. -/
inductive WorkEvent where
  | change (change : PreferenceChange)
  | doWork
  | work (answer : WorkAnswer)
  | stopped
  deriving DecidableEq, Repr

def workStep (state : WorkState) : WorkEvent → WorkState
  | .change change =>
      { state with preferences := change.apply state.preferences }
  | .doWork => state.doWork
  | .work answer => state.work answer
  | .stopped => { state with phase := .idle }

namespace WorkState

variable {state : WorkState}

/-- `doWork` reads the preference, and it is on. -/
def ReadsShareLanMetrics (state : WorkState) (event : WorkEvent) : Prop :=
  state.phase = .readShareLanMetrics ∧
    state.preferences.shareLanMetrics = some true ∧
      ∃ answer, event = .work answer

def ReadsShareAppUsage (state : WorkState) (event : WorkEvent) : Prop :=
  (∃ appInstallationUUID,
      state.phase = .readShareAppUsage appInstallationUUID) ∧
    state.preferences.shareAppUsage = some true ∧
      ∃ answer, event = .work answer

/-- `doWork` has not ended. -/
def Works (state : WorkState) (_ : WorkEvent) : Prop :=
  state.phase ≠ .idle

/-- The part of `doWork` after the first check. -/
def Sharing (state : WorkState) : Prop :=
  state.phase ≠ .idle ∧ state.phase ≠ .readShareLanMetrics

/-- The part of `doWork` after the check of `SHARE_APP_USAGE_KEY`, up to the
request. -/
def SharingUsage (state : WorkState) : Prop :=
  (∃ appInstallationUUID,
      state.phase = .readTimeOfLastSync appInstallationUUID) ∨
    ∃ appInstallationUUID timeOfLastSync,
      state.phase = .syncAppUsage appInstallationUUID timeOfLastSync

private theorem eq_some_true_of_getD {value : Option Bool}
    (found : value.getD false = true) : value = some true := by
  cases value with
  | none => cases found
  | some enabled => exact congrArg some found

private theorem throws_phase (exception : WorkException) :
    (state.throws exception).phase = .idle := by
  unfold WorkState.throws
  split
  case h_1 idle => exact idle
  all_goals rfl

/-- A call that leaves `doWork` under way returned. -/
private theorem returned_of_phase {answer : WorkAnswer}
    (goes : (state.work answer).phase ≠ .idle) :
    state.work answer =
      WorkState.returned answer
        { state with
          sent := state.sent ++ (state.phase.request answer).toList } := by
  unfold WorkState.work at goes ⊢
  cases thrown : answer.thrown with
  | none => rfl
  | some exception =>
      simp only [thrown] at goes
      exact absurd (throws_phase exception) goes

private theorem sharing_of_returned {answer : WorkAnswer}
    (shares : (state.returned answer).Sharing) :
    state.phase = .readShareLanMetrics ∧
        state.preferences.shareLanMetrics = some true ∨
      state.Sharing := by
  obtain ⟨goes, past⟩ := shares
  cases here : state.phase with
  | idle =>
      simp only [WorkState.returned, here, ne_eq, not_true] at goes
  | readShareLanMetrics =>
      simp only [WorkState.returned, here] at goes
      split at goes
      case isTrue enabled =>
        exact Or.inl ⟨rfl, eq_some_true_of_getD enabled⟩
      case isFalse => exact absurd rfl goes
  | _ =>
      right
      rw [Sharing, here]
      exact ⟨nofun, nofun⟩

private theorem sharing_step {event : WorkEvent}
    (shares : (workStep state event).Sharing) :
    state.ReadsShareLanMetrics event ∨ state.Sharing ∧ state.Works event := by
  cases event with
  | change change => exact Or.inr ⟨shares, shares.1⟩
  | stopped => exact absurd rfl shares.1
  | doWork =>
      change state.doWork.Sharing at shares
      rw [WorkState.doWork] at shares
      split at shares
      case h_1 => exact absurd rfl shares.2
      case h_2 => exact Or.inr ⟨shares, shares.1⟩
  | work answer =>
      change (state.work answer).Sharing at shares
      rw [returned_of_phase shares.1] at shares
      rcases sharing_of_returned shares with ⟨reads, enabled⟩ | earlier
      · exact Or.inl ⟨reads, enabled, answer, rfl⟩
      · exact Or.inr ⟨earlier, earlier.1⟩

private theorem sharingUsage_of_returned {answer : WorkAnswer}
    (shares : (state.returned answer).SharingUsage) :
    (∃ appInstallationUUID,
        state.phase = .readShareAppUsage appInstallationUUID) ∧
        state.preferences.shareAppUsage = some true ∨
      state.SharingUsage := by
  cases here : state.phase with
  | readShareAppUsage appInstallationUUID =>
      left
      refine ⟨⟨_, rfl⟩, eq_some_true_of_getD ?_⟩
      by_contra disabled
      simp only [WorkState.returned, here, disabled, SharingUsage] at shares
      grind
  | readTimeOfLastSync appInstallationUUID =>
      exact Or.inr (Or.inl ⟨_, here⟩)
  | syncAppUsage appInstallationUUID timeOfLastSync =>
      exact Or.inr (Or.inr ⟨_, _, here⟩)
  | _ =>
      simp only [WorkState.returned, here, SharingUsage] at shares
      grind

private theorem SharingUsage.phase_ne_idle (shares : state.SharingUsage) :
    state.phase ≠ .idle := by
  rcases shares with ⟨_, here⟩ | ⟨_, _, here⟩
  · rw [here]
    nofun
  · rw [here]
    nofun

private theorem sharingUsage_step {event : WorkEvent}
    (shares : (workStep state event).SharingUsage) :
    state.ReadsShareAppUsage event ∨
      state.SharingUsage ∧ state.Works event := by
  cases event with
  | change change => exact Or.inr ⟨shares, shares.phase_ne_idle⟩
  | stopped => exact absurd rfl shares.phase_ne_idle
  | doWork =>
      change state.doWork.SharingUsage at shares
      rw [WorkState.doWork] at shares
      split at shares
      case h_1 => rcases shares with ⟨_, ⟨⟩⟩ | ⟨_, _, ⟨⟩⟩
      case h_2 => exact Or.inr ⟨shares, shares.phase_ne_idle⟩
  | work answer =>
      change (state.work answer).SharingUsage at shares
      rw [returned_of_phase shares.phase_ne_idle] at shares
      rcases sharingUsage_of_returned shares with ⟨reads, enabled⟩ | earlier
      · exact Or.inl ⟨reads, enabled, answer, rfl⟩
      · exact Or.inr ⟨earlier, earlier.phase_ne_idle⟩

/-- A phase after `getAppInstallationUUID` has the stored UUID, one that
registers has found none, and every request had the stored one. -/
structure OneInstallation (state : WorkState) : Prop where
  argument :
    ∀ appInstallationUUID ∈ state.phase.argument,
      state.preferences.appInstallationUuid = some appInstallationUUID
  registers :
    state.phase = .registerAppInstallation ∨
        (∃ appInstallationUUID,
          state.phase = .storeAppInstallationUuid appInstallationUUID) →
      state.preferences.appInstallationUuid = none
  sent :
    ∀ request ∈ state.sent,
      ∀ appInstallationUUID ∈ request.appInstallationUuid,
        state.preferences.appInstallationUuid = some appInstallationUUID

private theorem body_cases {phase : WorkPhase} {request : BackendRequest}
    (body : phase.body = some request) :
    phase = .registerAppInstallation ∧
        request = .getAppInstallationUuid ∨
      ∃ appInstallationUUID,
        request.appInstallationUuid = some appInstallationUUID ∧
          phase.argument = some appInstallationUUID := by
  cases phase with
  | registerAppInstallation =>
      exact Or.inl ⟨rfl, (Option.some.inj body).symm⟩
  | syncAppUsage appInstallationUUID timeOfLastSync =>
      exact Or.inr ⟨appInstallationUUID, Option.some.inj body ▸ rfl, rfl⟩
  | syncFlows appInstallationUUID =>
      exact Or.inr ⟨appInstallationUUID, Option.some.inj body ▸ rfl, rfl⟩
  | syncACL appInstallationUUID =>
      exact Or.inr ⟨appInstallationUUID, Option.some.inj body ▸ rfl, rfl⟩
  | syncLanShieldSessions appInstallationUUID =>
      exact Or.inr ⟨appInstallationUUID, Option.some.inj body ▸ rfl, rfl⟩
  | syncOpenPorts appInstallationUUID =>
      exact Or.inr ⟨appInstallationUUID, Option.some.inj body ▸ rfl, rfl⟩
  | _ => cases body

private theorem body_of_request {answer : WorkAnswer} {phase : WorkPhase}
    {request : BackendRequest}
    (sends : phase.request answer = some request) :
    phase.body = some request := by
  rw [WorkPhase.request] at sends
  split at sends
  case isTrue => exact sends
  case isFalse => cases sends

/-- A request is a registration that finds no UUID, or has the stored one. -/
theorem OneInstallation.request (one : state.OneInstallation)
    {answer : WorkAnswer} {request : BackendRequest}
    (sends : state.phase.request answer = some request) :
    request = .getAppInstallationUuid ∧
        state.preferences.appInstallationUuid = none ∨
      ∃ appInstallationUUID,
        request.appInstallationUuid = some appInstallationUUID ∧
          state.preferences.appInstallationUuid =
            some appInstallationUUID := by
  rcases body_cases (body_of_request sends) with
    ⟨registers, rfl⟩ | ⟨appInstallationUUID, named, argument⟩
  · exact Or.inl ⟨rfl, one.registers (Or.inl registers)⟩
  · exact Or.inr ⟨_, named, one.argument _ argument⟩

theorem OneInstallation.called (one : state.OneInstallation)
    (answer : WorkAnswer) :
    OneInstallation
      { state with
        sent := state.sent ++ (state.phase.request answer).toList } := by
  refine ⟨one.argument, one.registers, ?_⟩
  intro request inside appInstallationUUID named
  rcases List.mem_append.mp inside with earlier | now
  · exact one.sent request earlier _ named
  · rcases one.request (Option.mem_toList.mp now) with
      ⟨rfl, -⟩ | ⟨stored, has, same⟩
    · cases named
    · change request.appInstallationUuid = some _ at named
      rw [← Option.some.inj (has.symm.trans named)]
      exact same

theorem OneInstallation.idle (one : state.OneInstallation)
    (result : Option WorkResult) :
    OneInstallation
      { state with
        phase := .idle
        result } :=
  ⟨nofun, by rintro (⟨⟨⟩⟩ | ⟨_, ⟨⟩⟩), one.sent⟩

theorem OneInstallation.throws (one : state.OneInstallation)
    (exception : WorkException) :
    (state.throws exception).OneInstallation := by
  unfold WorkState.throws
  split
  case h_1 => exact one
  all_goals exact one.idle _

/-- A phase with the same argument may come next. -/
theorem OneInstallation.pass (one : state.OneInstallation)
    {phase : WorkPhase} (same : phase.argument = state.phase.argument)
    (argument : phase.argument ≠ none) :
    OneInstallation { state with phase } := by
  refine ⟨?_, ?_, one.sent⟩
  · intro appInstallationUUID member
    exact one.argument _ (same ▸ member)
  · rintro (rfl | ⟨_, rfl⟩)
    · exact absurd rfl argument
    · exact absurd rfl argument

theorem OneInstallation.returned (one : state.OneInstallation)
    (answer : WorkAnswer) : (state.returned answer).OneInstallation := by
  cases here : state.phase with
  | idle =>
      simp only [WorkState.returned, here]
      exact one
  | readShareLanMetrics =>
      simp only [WorkState.returned, here]
      split
      · exact ⟨nofun, by rintro (⟨⟨⟩⟩ | ⟨_, ⟨⟩⟩), one.sent⟩
      · exact one.idle _
  | getAppInstallationUUID =>
      simp only [WorkState.returned, here]
      split
      case h_1 appInstallationUUID stored =>
        refine ⟨?_, by rintro (⟨⟨⟩⟩ | ⟨_, ⟨⟩⟩), one.sent⟩
        rintro _ ⟨⟩
        exact stored
      case h_2 absent => exact ⟨nofun, fun _ => absent, one.sent⟩
  | registerAppInstallation =>
      simp only [WorkState.returned, here]
      exact ⟨nofun, fun _ => one.registers (Or.inl here), one.sent⟩
  | storeAppInstallationUuid appInstallationUUID =>
      have unstored := one.registers (Or.inr ⟨_, here⟩)
      simp only [WorkState.returned, here]
      refine ⟨?_, by rintro (⟨⟨⟩⟩ | ⟨_, ⟨⟩⟩), ?_⟩
      · rintro _ ⟨⟩
        rfl
      · intro request inside earlier named
        have stored := one.sent request inside earlier named
        rw [unstored] at stored
        cases stored
  | readShareAppUsage appInstallationUUID =>
      simp only [WorkState.returned, here]
      split
      · exact one.pass (by rw [here]; rfl) nofun
      · exact one.pass (by rw [here]; rfl) nofun
  | readTimeOfLastSync appInstallationUUID =>
      simp only [WorkState.returned, here]
      exact one.pass (by rw [here]; rfl) nofun
  | syncAppUsage appInstallationUUID timeOfLastSync =>
      simp only [WorkState.returned, here]
      split
      · exact one.pass (by rw [here]; rfl) nofun
      · exact one.pass (by rw [here]; rfl) nofun
  | storeTimeOfLastSync appInstallationUUID =>
      have kept :=
        @OneInstallation.pass _ one (.syncFlows appInstallationUUID)
          (by rw [here]; rfl) nofun
      simp only [WorkState.returned, here]
      exact ⟨kept.argument, kept.registers, kept.sent⟩
  | syncFlows appInstallationUUID =>
      simp only [WorkState.returned, here]
      split
      · exact one
      · exact one.pass (by rw [here]; rfl) nofun
  | syncACL appInstallationUUID =>
      simp only [WorkState.returned, here]
      exact one.pass (by rw [here]; rfl) nofun
  | syncLanShieldSessions appInstallationUUID =>
      simp only [WorkState.returned, here]
      exact one.pass (by rw [here]; rfl) nofun
  | syncOpenPorts appInstallationUUID =>
      simp only [WorkState.returned, here]
      exact one.idle _

theorem OneInstallation.step (one : state.OneInstallation)
    (event : WorkEvent) : (workStep state event).OneInstallation := by
  cases event with
  | change change =>
      have kept :
          (change.apply state.preferences).appInstallationUuid =
            state.preferences.appInstallationUuid := by
        cases change with
        | onChangeShareLanMetrics enabled => rfl
        | onChangeShareAppUsage enabled => rfl
        | setDataStoreDefaults => rfl
      refine ⟨?_, ?_, ?_⟩
      · intro appInstallationUUID member
        exact kept.trans (one.argument _ member)
      · intro registers
        exact kept.trans (one.registers registers)
      · intro request inside appInstallationUUID named
        exact kept.trans (one.sent request inside _ named)
  | doWork =>
      change state.doWork.OneInstallation
      rw [WorkState.doWork]
      split
      case h_1 => exact ⟨nofun, by rintro (⟨⟨⟩⟩ | ⟨_, ⟨⟩⟩), one.sent⟩
      case h_2 => exact one
  | work answer =>
      change (state.work answer).OneInstallation
      unfold WorkState.work
      cases answer.thrown with
      | none => exact (one.called answer).returned answer
      | some exception => exact (one.called answer).throws exception
  | stopped => exact one.idle state.result

private theorem oneInstallation_run (events : List WorkEvent) :
    (run workStep start events).OneInstallation :=
  run_invariant (fun _ event one => one.step event) events
    ⟨nofun, fun _ => rfl, nofun⟩

private theorem sharing_of_body {request : BackendRequest}
    (body : state.phase.body = some request) : state.Sharing := by
  refine ⟨?_, ?_⟩
  · intro here
    rw [here] at body
    cases body
  · intro here
    rw [here] at body
    cases body

private theorem sharingUsage_of_body {appInstallationUUID : String}
    {timeOfLastSync : Int}
    (body :
      state.phase.body =
        some (.addAppUsage appInstallationUUID timeOfLastSync)) :
    state.SharingUsage := by
  cases here : state.phase with
  | syncAppUsage appInstallationUUID timeOfLastSync =>
      exact Or.inr ⟨_, _, here⟩
  | _ =>
      rw [here] at body
      cases body

/-- In every run, a request is sent by a `doWork` that has found the sharing
of metrics on, and the app usage by one that has also found its sharing on.
It has the one UUID every earlier request had, or is a registration when no
request has had one. -/
theorem request_consented {events : List WorkEvent} {answer : WorkAnswer}
    {request : BackendRequest}
    (sends :
      (run workStep start events).phase.request answer = some request) :
    Since workStep start ReadsShareLanMetrics Works events ∧
      (∀ appInstallationUUID timeOfLastSync,
          request = .addAppUsage appInstallationUUID timeOfLastSync →
            Since workStep start ReadsShareAppUsage Works events) ∧
        ∀ earlier ∈ (run workStep start events).sent,
          ∀ appInstallationUUID ∈ earlier.appInstallationUuid,
            request.appInstallationUuid = some appInstallationUUID := by
  have body := body_of_request sends
  refine ⟨?_, ?_, ?_⟩
  · exact since_of_phase (fun shares => shares.1 rfl)
      (fun _ _ => sharing_step) events (sharing_of_body body)
  · rintro appInstallationUUID timeOfLastSync rfl
    exact since_of_phase (by rintro (⟨_, ⟨⟩⟩ | ⟨_, _, ⟨⟩⟩))
      (fun _ _ => sharingUsage_step) events (sharingUsage_of_body body)
  · intro earlier inside appInstallationUUID named
    have one := oneInstallation_run events
    have stored := one.sent earlier inside _ named
    rcases one.request sends with ⟨-, absent⟩ | ⟨other, has, same⟩
    · rw [absent] at stored
      cases stored
    · rw [has, Option.some.inj (same.symm.trans stored)]

/-- The platform ends a first `doWork` after its second batch of flows, and
the user allows the upload of the app usage before the second one. -/
def allowedBetween : List WorkEvent :=
  let answer : WorkAnswer := ⟨true, none, "u", true, 90000000⟩
  [.change .setDataStoreDefaults, .change (.onChangeShareLanMetrics true),
    .doWork, .work answer, .work answer, .work answer, .work answer,
    .work answer, .work answer, .work answer, .stopped,
    .change (.onChangeShareAppUsage true), .doWork, .work answer,
    .work answer, .work answer, .work answer]

theorem request_consented_allowedBetween :
    Since workStep start ReadsShareLanMetrics Works allowedBetween ∧
      (∀ appInstallationUUID timeOfLastSync,
          BackendRequest.addAppUsage "u" 3600000 =
              .addAppUsage appInstallationUUID timeOfLastSync →
            Since workStep start ReadsShareAppUsage Works
              allowedBetween) ∧
        ∀ earlier ∈ (run workStep start allowedBetween).sent,
          ∀ appInstallationUUID ∈ earlier.appInstallationUuid,
            (BackendRequest.addAppUsage "u" 3600000).appInstallationUuid =
              some appInstallationUUID :=
  @request_consented allowedBetween ⟨true, none, "", false, 0⟩
    (.addAppUsage "u" 3600000) (by decide +kernel)

end WorkState

end LanShield.BackendSync
