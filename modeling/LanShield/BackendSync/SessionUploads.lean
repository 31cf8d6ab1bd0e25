import LanShield.BackendSync.SyncLanShieldSessions

/-!
# No session is lost on the way to the server

The coroutines that insert and update a session run in any order, and between
any two calls of the worker.  A row that is not selected for the next upload
is the one the server has.
-/

namespace LanShield.BackendSync

open LanShield.Library
open VpnService (LANShieldSession)
open VpnService.VPNService (createLANShieldSession)

/-- The sessions of the request under way. -/
def SessionsWorker.request :
    SessionsWorker → Option (List LANShieldSession)
  | .post sessions => some sessions
  | _ => none

namespace SessionsState

variable {state : SessionsState}

/-- The session with the identifier was started at the time. -/
def Began (state : SessionsState) (uuid : Nat) (time : Int) : Prop :=
  ∃ session, state.objects uuid = some session ∧ session.timeStart = time

theorem Began.unique {uuid : Nat} {time other : Int}
    (began : state.Began uuid time) (otherBegan : state.Began uuid other) :
    time = other := by
  obtain ⟨session, object, rfl⟩ := began
  obtain ⟨otherSession, otherObject, rfl⟩ := otherBegan
  rw [Option.some.inj (object.symm.trans otherObject)]

/-! ## The invariant -/

/-- Where the objects, the rows, the request under way and the server's view
agree.  The time `-1` marks a session that was never uploaded. -/
structure Accounts (state : SessionsState) : Prop where
  object :
    ∀ {uuid session}, state.objects uuid = some session →
      session.uuid = uuid ∧ uuid < state.nextUuid ∧
        session.timeEndAtLastSync = -1 ∧ session.timeEnd ≠ -1
  row :
    ∀ {row}, row ∈ state.table →
      state.Began row.uuid row.timeStart ∧ row.timeEnd ≠ -1
  inserted :
    ∀ {uuid session}, state.objects uuid = some session →
      .insert uuid ∉ state.waiting → ∃ row ∈ state.table, row.uuid = uuid
  current :
    ∀ {uuid session}, state.objects uuid = some session →
      .update uuid ∉ state.waiting →
        ∀ row ∈ state.table, row.uuid = uuid →
          row.timeEnd = session.timeEnd
  confirmed :
    ∀ {row}, row ∈ state.table → row.timeEndAtLastSync = row.timeEnd →
      state.uploaded row.uuid = some (sessionToJSON row)
  viewed :
    ∀ {uuid json}, state.uploaded uuid = some json →
      json.lanshield_session_uuid = uuid ∧ state.Began uuid json.time_start
  posted :
    ∀ {sessions}, state.worker = .post sessions → ∀ sent ∈ sessions,
      state.Began sent.uuid sent.timeStart ∧
        sent.timeEndAtLastSync ≠ sent.timeEnd ∧
          ∀ row ∈ state.table, row.uuid = sent.uuid →
            row = sent ∨ row.timeEndAtLastSync = -1
  marked :
    ∀ {remaining}, state.worker = .mark remaining →
      ∀ {answer}, some answer ∈ remaining →
        ∃ json, state.uploaded answer.sessionId = some json ∧
          json.time_end = answer.timeEnd

/-- The server answers with the end it has stored for the session. -/
def AnswersView (response : SessionsResponse) (state : SessionsState) :
    Prop :=
  ∀ sessions ∈ state.worker.request, ∀ entry ∈ response.entries,
    ∀ answer ∈ entry,
      (state.viewAfter sessions response answer.sessionId).map
        SessionJson.time_end = some answer.timeEnd

instance (response : SessionsResponse) (state : SessionsState) :
    Decidable (state.AnswersView response) :=
  inferInstanceAs (Decidable
    (∀ sessions ∈ state.worker.request, ∀ entry ∈ response.entries,
      ∀ answer ∈ entry,
        (state.viewAfter sessions response answer.sessionId).map
          SessionJson.time_end = some answer.timeEnd))

/-- The clock does not show the millisecond before 1970, and the server
answers with what it has stored. -/
def Honest (state : SessionsState) : SessionsEvent → Prop
  | .openSession currentTimeMillis _ => currentTimeMillis ≠ -1
  | .stopLanShieldSession currentTimeMillis => currentTimeMillis ≠ -1
  | .postJson response => state.AnswersView response
  | _ => True

instance (state : SessionsState) :
    (event : SessionsEvent) → Decidable (Honest state event)
  | .openSession currentTimeMillis _ =>
      inferInstanceAs (Decidable (currentTimeMillis ≠ -1))
  | .stopLanShieldSession currentTimeMillis =>
      inferInstanceAs (Decidable (currentTimeMillis ≠ -1))
  | .postJson response =>
      inferInstanceAs (Decidable (state.AnswersView response))
  | .complete _ => isTrue trivial
  | .getAllShouldSync => isTrue trivial
  | .updateSessionsSyncedTime => isTrue trivial
  | .stopped => isTrue trivial

private theorem accounts_start : Accounts start where
  object := by
    intro uuid session found
    cases found
  row := by
    intro row inside
    cases inside
  inserted := by
    intro uuid session found
    cases found
  current := by
    intro uuid session found
    cases found
  confirmed := by
    intro row inside
    cases inside
  viewed := by
    intro uuid json found
    cases found
  posted := by
    intro sessions posting
    cases posting
  marked := by
    intro remaining marking
    cases marking

/-- A row that is not selected is the one the server has. -/
private theorem Accounts.uploaded_of_not_mem (accounts : state.Accounts)
    {row : LANShieldSession} (inside : row ∈ state.table)
    (absent :
      row ∉ LANShieldSessionDao.getAllShouldSync state.table) :
    state.uploaded row.uuid = some (sessionToJSON row) := by
  apply accounts.confirmed inside
  by_contra different
  exact absent
    (LANShieldSessionDao.mem_getAllShouldSync.mpr ⟨inside, different⟩)

/-! ## The service -/

/-- The objects may change: a new one waits for its insertion, and one with
another end for its update. -/
theorem Accounts.objects (accounts : state.Accounts)
    {objects : Nat → Option LANShieldSession}
    {lanShieldSession : Option Nat} {nextUuid : Nat}
    {waiting : List SessionWrite}
    (object :
      ∀ {uuid session}, objects uuid = some session →
        session.uuid = uuid ∧ uuid < nextUuid ∧
          session.timeEndAtLastSync = -1 ∧ session.timeEnd ≠ -1)
    (grown : state.waiting ⊆ waiting)
    (keeps :
      ∀ {uuid session}, state.objects uuid = some session →
        ∃ new, objects uuid = some new ∧
          new.timeStart = session.timeStart)
    (accounted :
      ∀ {uuid new}, objects uuid = some new →
        (state.objects uuid = none ∧ .insert uuid ∈ waiting) ∨
          ∃ session, state.objects uuid = some session ∧
            (new.timeEnd = session.timeEnd ∨ .update uuid ∈ waiting)) :
    Accounts
      { state with objects, lanShieldSession, nextUuid, waiting } := by
  have began :
      ∀ {uuid time}, state.Began uuid time →
        Began { state with objects, lanShieldSession, nextUuid, waiting }
          uuid time := by
    rintro uuid time ⟨session, found, rfl⟩
    exact keeps found
  constructor
  case object => exact object
  case row =>
    intro row inside
    exact ⟨began (accounts.row inside).1, (accounts.row inside).2⟩
  case inserted =>
    intro uuid new found absent
    rcases accounted found with ⟨-, waits⟩ | ⟨session, old, -⟩
    · exact absurd waits absent
    · exact accounts.inserted old fun waits => absent (grown waits)
  case current =>
    intro uuid new found absent row inside same
    rcases accounted found with ⟨none, -⟩ | ⟨session, old, same | waits⟩
    · obtain ⟨session, made, -⟩ := (accounts.row inside).1
      rw [same, none] at made
      cases made
    · rw [same]
      exact accounts.current old (fun waits => absent (grown waits)) row
        inside ‹_›
    · exact absurd waits absent
  case confirmed => exact accounts.confirmed
  case viewed =>
    intro uuid json found
    exact ⟨(accounts.viewed found).1, began (accounts.viewed found).2⟩
  case posted =>
    intro sessions posting sent inside
    have kept := accounts.posted posting sent inside
    exact ⟨began kept.1, kept.2⟩
  case marked => exact accounts.marked

theorem Accounts.stopLanShieldSession (accounts : state.Accounts)
    {currentTimeMillis : Int} (clock : currentTimeMillis ≠ -1) :
    (state.stopLanShieldSession currentTimeMillis).Accounts := by
  rw [SessionsState.stopLanShieldSession]
  cases state.lanShieldSession with
  | none => exact accounts
  | some stopped =>
      apply accounts.objects
      case object =>
        intro uuid session found
        by_cases here : uuid = stopped
        · subst here
          rw [Function.update_self, Option.map_eq_some_iff] at found
          obtain ⟨old, made, rfl⟩ := found
          have kept := accounts.object made
          exact ⟨kept.1, kept.2.1, kept.2.2.1, clock⟩
        · rw [Function.update_of_ne here] at found
          exact accounts.object found
      case grown => exact List.subset_append_left ..
      case keeps =>
        intro uuid session found
        by_cases here : uuid = stopped
        · subst here
          rw [Function.update_self, found]
          exact ⟨_, rfl, rfl⟩
        · rw [Function.update_of_ne here]
          exact ⟨session, found, rfl⟩
      case accounted =>
        intro uuid new found
        right
        by_cases here : uuid = stopped
        · subst here
          rw [Function.update_self, Option.map_eq_some_iff] at found
          obtain ⟨old, made, rfl⟩ := found
          exact ⟨old, made, Or.inr (List.mem_append_right _ (by simp))⟩
        · rw [Function.update_of_ne here] at found
          exact ⟨new, found, Or.inl rfl⟩

theorem Accounts.insertSession (accounts : state.Accounts)
    (currentTimeMillis : Int) :
    (state.insertSession currentTimeMillis).Accounts := by
  have unmade : state.objects state.nextUuid = none := by
    by_contra made
    obtain ⟨session, found⟩ := Option.ne_none_iff_exists'.mp made
    exact lt_irrefl _ (accounts.object found).2.1
  apply accounts.objects
  case object =>
    intro uuid session found
    by_cases here : uuid = state.nextUuid
    · subst here
      rw [Function.update_self] at found
      obtain rfl := Option.some.inj found
      refine ⟨rfl, Nat.lt_succ_self _, rfl, ?_⟩
      change (0 : Int) ≠ -1
      decide
    · rw [Function.update_of_ne here] at found
      have kept := accounts.object found
      exact ⟨kept.1, Nat.lt_succ_of_lt kept.2.1, kept.2.2⟩
  case grown => exact List.subset_append_left ..
  case keeps =>
    intro uuid session found
    have here : uuid ≠ state.nextUuid := by
      rintro rfl
      rw [unmade] at found
      cases found
    rw [Function.update_of_ne here]
    exact ⟨session, found, rfl⟩
  case accounted =>
    intro uuid new found
    by_cases here : uuid = state.nextUuid
    · subst here
      exact Or.inl ⟨unmade, List.mem_append_right _ (by simp)⟩
    · rw [Function.update_of_ne here] at found
      exact Or.inr ⟨new, found, Or.inl rfl⟩

theorem Accounts.openSession (accounts : state.Accounts)
    {currentTimeMillis : Int} (clock : currentTimeMillis ≠ -1)
    (keepSession : Bool) :
    (state.openSession currentTimeMillis keepSession).Accounts := by
  rw [SessionsState.openSession]
  split
  · exact (accounts.stopLanShieldSession clock).insertSession _
  · exact accounts

/-- A write of the session leaves the rows of the others, and its own row
with the fields of the object. -/
theorem Accounts.write (accounts : state.Accounts)
    {session : LANShieldSession} {table : SessionTable}
    {waiting : List SessionWrite}
    (made : state.objects session.uuid = some session)
    (rows :
      ∀ row ∈ table,
        row = session ∨ row ∈ state.table ∧ row.uuid ≠ session.uuid)
    (inserted :
      ∀ {uuid other}, state.objects uuid = some other →
        .insert uuid ∉ waiting → ∃ row ∈ table, row.uuid = uuid)
    (others :
      ∀ {uuid}, uuid ≠ session.uuid → .update uuid ∉ waiting →
        .update uuid ∉ state.waiting) :
    Accounts { state with table, waiting } := by
  obtain ⟨-, -, fresh, ended⟩ := accounts.object made
  constructor
  case object => exact accounts.object
  case row =>
    intro row inside
    rcases rows row inside with rfl | ⟨old, -⟩
    · exact ⟨⟨_, made, rfl⟩, ended⟩
    · exact accounts.row old
  case inserted => exact inserted
  case current =>
    intro uuid other found absent row inside same
    rcases rows row inside with rfl | ⟨old, apart⟩
    · rw [same, found] at made
      rw [Option.some.inj made]
    · rw [same] at apart
      exact accounts.current found (others apart absent) row old same
  case confirmed =>
    intro row inside synced
    rcases rows row inside with rfl | ⟨old, -⟩
    · exact absurd (synced.symm.trans fresh) ended
    · exact accounts.confirmed old synced
  case viewed => exact accounts.viewed
  case posted =>
    intro sessions posting sent member
    obtain ⟨began, selected, agree⟩ := accounts.posted posting sent member
    refine ⟨began, selected, ?_⟩
    intro row inside same
    rcases rows row inside with rfl | ⟨old, -⟩
    · exact Or.inr fresh
    · exact agree row old same
  case marked => exact accounts.marked

private theorem mem_eraseIdx_of_ne {Element : Type*} {elements : List Element}
    {index : Nat} {element other : Element}
    (found : elements[index]? = some element) (apart : other ≠ element)
    (inside : other ∈ elements) : other ∈ elements.eraseIdx index := by
  obtain ⟨bound, rfl⟩ := List.getElem?_eq_some_iff.mp found
  have moved := List.getElem_cons_eraseIdx_perm bound
  exact (List.mem_cons.mp (moved.symm.subset inside)).resolve_left apart

theorem Accounts.complete (accounts : state.Accounts) (index : Nat) :
    (state.complete index).Accounts := by
  rw [SessionsState.complete]
  split
  case h_1 absent => exact accounts
  case h_2 write found =>
    have waits : write ∈ state.waiting := List.mem_of_getElem? found
    -- Another write still waits if it waited before.
    have others :
        ∀ {other}, other ≠ write →
          other ∉ state.waiting.eraseIdx index → other ∉ state.waiting :=
      fun apart absent inside =>
        absent (mem_eraseIdx_of_ne found apart inside)
    cases made : state.objects write.uuid with
    | none =>
        have same : state.perform write = state.table := by
          cases write with
          | insert uuid => simp only [SessionsState.perform, made]
          | update uuid => simp only [SessionsState.perform, made]
        have distinct :
            ∀ {uuid session}, state.objects uuid = some session →
              uuid ≠ write.uuid := by
          rintro uuid session other rfl
          rw [made] at other
          cases other
        rw [same]
        exact
          { accounts with
            inserted := fun {uuid session} other absent =>
              accounts.inserted other
                (others (fun same => distinct other (by rw [← same]; rfl))
                  absent)
            current := fun {uuid session} other absent =>
              accounts.current other
                (others (fun same => distinct other (by rw [← same]; rfl))
                  absent) }
    | some session =>
        obtain ⟨named, -⟩ := accounts.object made
        cases write with
        | insert uuid =>
            obtain rfl : session.uuid = uuid := named
            have inserts :
                state.perform (.insert session.uuid) =
                  state.table.insert session := by
              simp only [SessionsState.perform, made]
            rw [inserts]
            apply accounts.write made
            case rows =>
              intro row inside
              exact KeyedTable.mem_insert.mp inside
            case inserted =>
              intro uuid other object absent
              by_cases here : uuid = session.uuid
              · subst here
                exact ⟨session, KeyedTable.mem_insert.mpr (Or.inl rfl), rfl⟩
              · have apart :
                    SessionWrite.insert uuid ≠ .insert session.uuid :=
                  fun same => here (SessionWrite.insert.inj same)
                obtain ⟨row, inside, rfl⟩ :=
                  accounts.inserted object (others apart absent)
                exact ⟨row,
                  KeyedTable.mem_insert.mpr (Or.inr ⟨inside, here⟩), rfl⟩
            case others =>
              intro uuid _ absent
              exact others (by rintro ⟨⟩) absent
        | update uuid =>
            obtain rfl : session.uuid = uuid := named
            have updates :
                state.perform (.update session.uuid) =
                  LANShieldSessionDao.update session state.table := by
              simp only [SessionsState.perform, made]
            rw [updates]
            apply accounts.write made
            case rows =>
              intro row inside
              exact (LANShieldSessionDao.mem_update.mp inside).imp_left
                And.left
            case inserted =>
              intro uuid other object absent
              obtain ⟨row, inside, rfl⟩ :=
                accounts.inserted object (others (by rintro ⟨⟩) absent)
              by_cases here : row.uuid = session.uuid
              · exact ⟨session,
                  LANShieldSessionDao.mem_update.mpr
                    (Or.inl ⟨rfl, row, inside, here⟩), here.symm⟩
              · exact ⟨row,
                  LANShieldSessionDao.mem_update.mpr
                    (Or.inr ⟨inside, here⟩), rfl⟩
            case others =>
              intro uuid apart absent
              exact others
                (fun same => apart (SessionWrite.update.inj same)) absent

/-! ## The worker -/

theorem Accounts.getAllShouldSync (accounts : state.Accounts) :
    state.getAllShouldSync.Accounts := by
  rw [SessionsState.getAllShouldSync]
  split
  case h_2 => exact accounts
  case h_1 idle =>
    dsimp only
    split
    case isTrue empty => exact accounts
    case isFalse selected =>
      refine { accounts with posted := ?_, marked := ?_ }
      · intro sessions posting sent member
        obtain rfl := SessionsWorker.post.inj posting
        obtain ⟨inside, different⟩ :=
          LANShieldSessionDao.mem_getAllShouldSync.mp member
        refine ⟨(accounts.row inside).1, different, ?_⟩
        intro row other same
        exact Or.inl (KeyedTable.eq_of_key other inside same)
      · intro remaining marking
        cases marking

/-- The server's view of a session is that of the request, if it is in the
request. -/
private theorem viewAfter_eq {sessions : List LANShieldSession}
    {response : SessionsResponse} {uuid : Nat} {json : SessionJson}
    (viewed : state.viewAfter sessions response uuid = some json) :
    (∃ sent ∈ sessions, sent.uuid = uuid ∧ json = sessionToJSON sent) ∨
      state.uploaded uuid = some json := by
  rw [viewAfter] at viewed
  split at viewed
  case isFalse => exact Or.inr viewed
  case isTrue =>
    rw [store, Option.or_eq_some_iff] at viewed
    rcases viewed with found | ⟨-, old⟩
    · obtain ⟨sent, inside, rfl⟩ :=
        List.mem_map.mp (List.mem_of_find?_eq_some found)
      have named := List.find?_some found
      exact Or.inl ⟨sent, inside, of_decide_eq_true named, rfl⟩
    · exact Or.inr old

private theorem viewAfter_of_not_mem {sessions : List LANShieldSession}
    (response : SessionsResponse) {uuid : Nat}
    (absent : ∀ sent ∈ sessions, sent.uuid ≠ uuid) :
    state.viewAfter sessions response uuid = state.uploaded uuid := by
  rw [viewAfter]
  split
  case isFalse => rfl
  case isTrue =>
    have missing :
        (sessions.map sessionToJSON).find? (fun session =>
          session.lanshield_session_uuid = uuid) = none := by
      rw [List.find?_eq_none]
      intro json member
      obtain ⟨sent, inside, rfl⟩ := List.mem_map.mp member
      exact fun named => absent sent inside (of_decide_eq_true named)
    rw [store, missing, Option.none_or]

theorem Accounts.postJson (accounts : state.Accounts)
    {response : SessionsResponse}
    (honest : state.Honest (.postJson response)) :
    (state.postJson response).Accounts := by
  rw [SessionsState.postJson]
  split
  case h_2 => exact accounts
  case h_1 sessions posting =>
    have posted := accounts.posted posting
    refine
      { accounts with
        confirmed := ?_, viewed := ?_, posted := ?_, marked := ?_ }
    · intro row inside synced
      -- A row that was sent has changed since, or is not synchronised.
      have absent : ∀ sent ∈ sessions, sent.uuid ≠ row.uuid := by
        intro sent member same
        obtain ⟨-, selected, agree⟩ := posted sent member
        rcases agree row inside same.symm with rfl | unsynced
        · exact selected synced
        · exact (accounts.row inside).2 (synced.symm.trans unsynced)
      exact (viewAfter_of_not_mem response absent).trans
        (accounts.confirmed inside synced)
    · intro uuid json viewed
      rcases viewAfter_eq viewed with ⟨sent, inside, rfl, rfl⟩ | old
      · exact ⟨rfl, (posted sent inside).1⟩
      · exact accounts.viewed old
    · intro other posting
      cases posting
    · intro remaining marking answer member
      obtain rfl := SessionsWorker.mark.inj marking
      have request : sessions ∈ state.worker.request := by
        rw [posting]
        rfl
      exact Option.map_eq_some_iff.mp
        (honest sessions request _ member answer rfl)

/-- `updateSessionsSyncedTime` leaves everything but one column. -/
private theorem exists_mem_synced {table : SessionTable} {sessionId : Nat}
    {timeEndLast : Int} {row : LANShieldSession} (inside : row ∈ table) :
    ∃ new ∈
        LANShieldSessionDao.updateSessionsSyncedTime sessionId timeEndLast
          table,
      new.uuid = row.uuid := by
  by_cases here : row.uuid = sessionId
  · refine ⟨{ row with timeEndAtLastSync := timeEndLast }, ?_, rfl⟩
    exact LANShieldSessionDao.mem_updateSessionsSyncedTime.mpr
      (Or.inl ⟨row, inside, here, rfl⟩)
  · exact ⟨row,
      LANShieldSessionDao.mem_updateSessionsSyncedTime.mpr
        (Or.inr ⟨inside, here⟩), rfl⟩

theorem Accounts.updateSessionsSyncedTime (accounts : state.Accounts) :
    state.updateSessionsSyncedTime.Accounts := by
  rw [SessionsState.updateSessionsSyncedTime]
  split
  case h_1 marking =>
    exact { accounts with posted := by rintro _ ⟨⟩, marked := by rintro _ ⟨⟩ }
  case h_2 remaining marking =>
    have rest :
        ∀ {answer}, some answer ∈ remaining →
          ∃ json, state.uploaded answer.sessionId = some json ∧
            json.time_end = answer.timeEnd :=
      fun member => accounts.marked marking (List.mem_cons_of_mem _ member)
    refine
      { accounts with posted := by rintro _ ⟨⟩, marked := ?_ }
    intro left same answer member
    obtain rfl := SessionsWorker.mark.inj same
    exact rest member
  case h_3 answer remaining marking =>
    obtain ⟨json, viewed, ended⟩ :=
      accounts.marked marking List.mem_cons_self
    have rows :
        ∀ {row},
          row ∈ LANShieldSessionDao.updateSessionsSyncedTime
              answer.sessionId answer.timeEnd state.table →
            ∃ old ∈ state.table,
              row.uuid = old.uuid ∧ row.timeStart = old.timeStart ∧
                row.timeEnd = old.timeEnd := by
      intro row inside
      rcases LANShieldSessionDao.mem_updateSessionsSyncedTime.mp inside with
        ⟨old, member, -, rfl⟩ | ⟨member, -⟩
      · exact ⟨old, member, rfl, rfl, rfl⟩
      · exact ⟨row, member, rfl, rfl, rfl⟩
    constructor
    case object => exact accounts.object
    case row =>
      intro row inside
      obtain ⟨old, member, uuid, timeStart, timeEnd⟩ := rows inside
      rw [uuid, timeStart, timeEnd]
      exact accounts.row member
    case inserted =>
      intro uuid session object absent
      obtain ⟨row, inside, rfl⟩ := accounts.inserted object absent
      exact exists_mem_synced inside
    case current =>
      intro uuid session object absent row inside same
      obtain ⟨old, member, uuid, -, timeEnd⟩ := rows inside
      rw [timeEnd]
      exact accounts.current object absent old member (uuid.symm.trans same)
    case confirmed =>
      intro row inside synced
      rcases LANShieldSessionDao.mem_updateSessionsSyncedTime.mp inside with
        ⟨old, member, here, rfl⟩ | ⟨member, -⟩
      · obtain ⟨named, began⟩ := accounts.viewed viewed
        rw [← here] at named began
        have timeStart := began.unique (accounts.row member).1
        have timeEnd : json.time_end = old.timeEnd := ended.trans synced
        have same : json = sessionToJSON old := by
          rw [sessionToJSON, ← named, ← timeStart, ← timeEnd]
        change state.uploaded old.uuid = some (sessionToJSON old)
        rw [here, viewed, same]
      · exact accounts.confirmed member synced
    case viewed => exact accounts.viewed
    case posted =>
      intro sessions posting
      cases posting
    case marked =>
      intro left same answer member
      obtain rfl := SessionsWorker.mark.inj same
      exact accounts.marked marking (List.mem_cons_of_mem _ member)
  case h_4 => exact accounts

theorem Accounts.step (accounts : state.Accounts) {event : SessionsEvent}
    (honest : state.Honest event) :
    (sessionsStep state event).Accounts := by
  cases event with
  | openSession currentTimeMillis keepSession =>
      exact accounts.openSession honest keepSession
  | stopLanShieldSession currentTimeMillis =>
      exact accounts.stopLanShieldSession honest
  | complete index => exact accounts.complete index
  | getAllShouldSync => exact accounts.getAllShouldSync
  | postJson response => exact accounts.postJson honest
  | updateSessionsSyncedTime => exact accounts.updateSessionsSyncedTime
  | stopped =>
      exact
        { accounts with posted := by rintro _ ⟨⟩, marked := by rintro _ ⟨⟩ }

theorem accounts_run {events : List SessionsEvent}
    (honest : StepsMeet sessionsStep Honest start events) :
    (run sessionsStep start events).Accounts :=
  run_guarded_invariant (fun _ _ honest accounts => accounts.step honest)
    events accounts_start honest

/-- The row of a session whose coroutines have run. -/
private theorem Accounts.row_of_object (accounts : state.Accounts)
    {uuid : Nat}
    {session : LANShieldSession}
    (made : state.objects uuid = some session)
    (settled : ∀ write ∈ state.waiting, write.uuid ≠ uuid) :
    ∃ row ∈ state.table, row.uuid = uuid ∧
      sessionToJSON row = sessionToJSON session := by
  obtain ⟨row, inside, rfl⟩ :=
    accounts.inserted made fun waits => settled _ waits rfl
  have timeStart := (accounts.row inside).1.unique ⟨session, made, rfl⟩
  have timeEnd :=
    accounts.current made (fun waits => settled _ waits rfl) row inside rfl
  refine ⟨row, inside, rfl, ?_⟩
  rw [sessionToJSON, sessionToJSON, timeStart, timeEnd,
    (accounts.object made).1]

/-- In every run, a session whose coroutines have run is in the table with
its two times, and either the next request contains it or the server has them.
-/
theorem session_in_request_or_uploaded {events : List SessionsEvent}
    (honest : StepsMeet sessionsStep Honest start events) {uuid : Nat}
    {session : LANShieldSession}
    (made : (run sessionsStep start events).objects uuid = some session)
    (settled :
      ∀ write ∈ (run sessionsStep start events).waiting,
        write.uuid ≠ uuid) :
    sessionToJSON session ∈
        (LANShieldSessionDao.getAllShouldSync
          (run sessionsStep start events).table).map sessionToJSON ∨
      (run sessionsStep start events).uploaded uuid =
        some (sessionToJSON session) := by
  have accounts := accounts_run honest
  obtain ⟨row, inside, rfl, same⟩ := accounts.row_of_object made settled
  rw [← same]
  by_cases selected :
      row ∈ LANShieldSessionDao.getAllShouldSync
        (run sessionsStep start events).table
  · exact Or.inl (List.mem_map_of_mem selected)
  · exact Or.inr (accounts.uploaded_of_not_mem inside selected)

/-! ## One undisturbed upload -/

/-- The calls of `syncLanShieldSessions`, of which the server stores the
request and answers with the entries. -/
def syncLanShieldSessions (entries : List (Option SessionAnswer)) :
    List SessionsEvent :=
  [.getAllShouldSync, .postJson (.answered true entries)] ++
    List.replicate (entries.length + 1) .updateSessionsSyncedTime

/-- The server has every row, and each is synchronised or will be by an entry
that is left. -/
structure Confirming (remaining : List (Option SessionAnswer))
    (state : SessionsState) : Prop where
  marking : state.worker = .mark remaining
  uploaded :
    ∀ row ∈ state.table, state.uploaded row.uuid = some (sessionToJSON row)
  left :
    ∀ row ∈ state.table, row.timeEndAtLastSync = row.timeEnd ∨
      some ⟨row.uuid, row.timeEnd⟩ ∈ remaining

theorem Confirming.next (accounts : state.Accounts)
    {entry : Option SessionAnswer} {remaining : List (Option SessionAnswer)}
    (confirming : Confirming (entry :: remaining) state) :
    Confirming remaining state.updateSessionsSyncedTime := by
  obtain ⟨marking, uploaded, left⟩ := confirming
  cases entry with
  | none =>
      rw [SessionsState.updateSessionsSyncedTime]
      simp only [marking]
      refine ⟨rfl, uploaded, ?_⟩
      intro row inside
      refine (left row inside).imp_right ?_
      intro waits
      exact (List.mem_cons.mp waits).resolve_left nofun
  | some answer =>
      obtain ⟨json, viewed, ended⟩ :=
        accounts.marked marking List.mem_cons_self
      rw [SessionsState.updateSessionsSyncedTime]
      simp only [marking]
      refine ⟨rfl, ?_, ?_⟩
      · intro row inside
        rcases LANShieldSessionDao.mem_updateSessionsSyncedTime.mp inside with
          ⟨old, member, -, rfl⟩ | ⟨member, -⟩
        · exact uploaded old member
        · exact uploaded row member
      · intro row inside
        rcases LANShieldSessionDao.mem_updateSessionsSyncedTime.mp inside with
          ⟨old, member, here, rfl⟩ | ⟨member, apart⟩
        · -- The entry has the end that the server has, which is the row's.
          have same := uploaded old member
          rw [here, viewed] at same
          have timeEnd := congrArg SessionJson.time_end (Option.some.inj same)
          exact Or.inl (ended.symm.trans timeEnd)
        · refine (left row member).imp_right ?_
          intro waits
          refine (List.mem_cons.mp waits).resolve_left ?_
          intro same
          rw [← Option.some.inj same] at apart
          exact apart rfl

/-- An upload that has ended with every row synchronised. -/
structure Completes (before after : SessionsState) : Prop where
  idle : after.worker = .idle
  objects : after.objects = before.objects
  waiting : after.waiting = before.waiting
  synced : ∀ row ∈ after.table, row.timeEndAtLastSync = row.timeEnd

theorem Confirming.all :
    ∀ {remaining : List (Option SessionAnswer)} {state : SessionsState},
      state.Accounts → Confirming remaining state →
        Completes state
          (run sessionsStep state
            (List.replicate (remaining.length + 1)
              .updateSessionsSyncedTime)) := by
  intro remaining
  induction remaining with
  | nil =>
      intro state accounts confirming
      have last :
          state.updateSessionsSyncedTime =
            { state with worker := .idle } := by
        rw [SessionsState.updateSessionsSyncedTime]
        simp only [confirming.marking]
      change Completes state state.updateSessionsSyncedTime
      rw [last]
      refine ⟨rfl, rfl, rfl, ?_⟩
      intro row inside
      exact (confirming.left row inside).resolve_right List.not_mem_nil
  | cons entry remaining inductionHypothesis =>
      intro state accounts confirming
      have kept :
          state.updateSessionsSyncedTime.objects = state.objects ∧
            state.updateSessionsSyncedTime.waiting = state.waiting := by
        rw [SessionsState.updateSessionsSyncedTime]
        cases entry with
        | none => simp only [confirming.marking, and_self]
        | some answer => simp only [confirming.marking, and_self]
      have rest :=
        inductionHypothesis accounts.updateSessionsSyncedTime
          (confirming.next accounts)
      exact
        { idle := rest.idle
          objects := rest.objects.trans kept.1
          waiting := rest.waiting.trans kept.2
          synced := rest.synced }

/-- With nothing to upload the calls change nothing. -/
private theorem run_marks_idle (idle : state.worker = .idle) (count : Nat) :
    run sessionsStep state
      (List.replicate count .updateSessionsSyncedTime) = state := by
  induction count with
  | zero => rfl
  | succ count inductionHypothesis =>
      have same : state.updateSessionsSyncedTime = state := by
        rw [SessionsState.updateSessionsSyncedTime]
        simp only [idle]
      change run sessionsStep state.updateSessionsSyncedTime _ = state
      rw [same, inductionHypothesis]

private theorem store_of_mem {table : SessionTable}
    {uploaded : Nat → Option SessionJson} {row : LANShieldSession}
    (selected : row ∈ LANShieldSessionDao.getAllShouldSync table) :
    store (LANShieldSessionDao.getAllShouldSync table) uploaded row.uuid =
      some (sessionToJSON row) := by
  rw [store, Option.or_eq_some_iff]
  left
  cases found :
      ((LANShieldSessionDao.getAllShouldSync table).map sessionToJSON).find?
        fun session => session.lanshield_session_uuid = row.uuid with
  | none =>
      have absent :=
        List.find?_eq_none.mp found _ (List.mem_map_of_mem selected)
      exact absurd (decide_eq_true rfl) absent
  | some json =>
      obtain ⟨sent, inside, rfl⟩ :=
        List.mem_map.mp (List.mem_of_find?_eq_some found)
      have sentNamed := List.find?_some found
      have named : sent.uuid = row.uuid := of_decide_eq_true sentNamed
      have member := LANShieldSessionDao.mem_getAllShouldSync.mp inside
      have rowMember := LANShieldSessionDao.mem_getAllShouldSync.mp selected
      rw [KeyedTable.eq_of_key member.1 rowMember.1 named]

theorem Accounts.completes (accounts : state.Accounts)
    {entries : List (Option SessionAnswer)}
    (honest :
      StepsMeet sessionsStep Honest state (syncLanShieldSessions entries))
    (idle : state.worker = .idle)
    (answered :
      ∀ row ∈ LANShieldSessionDao.getAllShouldSync state.table,
        some ⟨row.uuid, row.timeEnd⟩ ∈ entries) :
    Completes state
      (run sessionsStep state (syncLanShieldSessions entries)) := by
  by_cases empty :
      (LANShieldSessionDao.getAllShouldSync state.table).isEmpty = true
  · have skipped : state.getAllShouldSync = state := by
      rw [SessionsState.getAllShouldSync]
      simp only [idle, empty, if_true]
    have unposted :
        state.postJson (.answered true entries) = state := by
      rw [SessionsState.postJson]
      simp only [idle]
    have same :
        run sessionsStep state (syncLanShieldSessions entries) = state := by
      change run sessionsStep
        (state.getAllShouldSync.postJson (.answered true entries)) _ = state
      rw [skipped, unposted]
      exact run_marks_idle idle _
    rw [same]
    refine ⟨idle, rfl, rfl, ?_⟩
    intro row inside
    by_contra different
    have selected :=
      LANShieldSessionDao.mem_getAllShouldSync.mpr ⟨inside, different⟩
    rw [List.isEmpty_iff.mp empty] at selected
    exact List.not_mem_nil selected
  · have posting :
        state.getAllShouldSync =
          { state with
            worker :=
              .post (LANShieldSessionDao.getAllShouldSync state.table) } := by
      rw [SessionsState.getAllShouldSync]
      simp only [idle, empty]
      rfl
    have posts :
        state.getAllShouldSync.postJson (.answered true entries) =
          { state with
            uploaded :=
              store (LANShieldSessionDao.getAllShouldSync state.table)
                state.uploaded
            worker := .mark entries } := by
      rw [posting]
      rfl
    have after := accounts.getAllShouldSync.postJson honest.2.1
    have confirming :
        Confirming entries
          (state.getAllShouldSync.postJson (.answered true entries)) := by
      rw [posts]
      refine ⟨rfl, ?_, ?_⟩
      · intro row inside
        by_cases selected :
            row ∈ LANShieldSessionDao.getAllShouldSync state.table
        · exact store_of_mem selected
        · have absent :
              ∀ sent ∈ LANShieldSessionDao.getAllShouldSync state.table,
                sent.uuid ≠ row.uuid := by
            intro sent member same
            have other :=
              (LANShieldSessionDao.mem_getAllShouldSync.mp member).1
            rw [KeyedTable.eq_of_key other inside same] at member
            exact selected member
          have old :=
            @viewAfter_of_not_mem state _ (.answered true entries) _ absent
          exact old.trans (accounts.uploaded_of_not_mem inside selected)
      · intro row inside
        by_cases synced : row.timeEndAtLastSync = row.timeEnd
        · exact Or.inl synced
        · exact Or.inr (answered row
            (LANShieldSessionDao.mem_getAllShouldSync.mpr
              ⟨inside, synced⟩))
    have all := confirming.all after
    exact
      { idle := all.idle
        objects := all.objects.trans (by rw [posts])
        waiting := all.waiting.trans (by rw [posts])
        synced := all.synced }

/-- Whatever happened before, and once the coroutines have run, one upload
that is stored and answered leaves the server with the two times of every
session, and nothing for the next one. -/
theorem upload_completes {events : List SessionsEvent}
    {entries : List (Option SessionAnswer)}
    (honest :
      StepsMeet sessionsStep Honest start
        (events ++ syncLanShieldSessions entries))
    (idle : (run sessionsStep start events).worker = .idle)
    (settled : (run sessionsStep start events).waiting = [])
    (answered :
      ∀ row ∈
          LANShieldSessionDao.getAllShouldSync
            (run sessionsStep start events).table,
        some ⟨row.uuid, row.timeEnd⟩ ∈ entries) :
    LANShieldSessionDao.getAllShouldSync
          (run sessionsStep start
            (events ++ syncLanShieldSessions entries)).table = [] ∧
      ∀ uuid session,
        (run sessionsStep start events).objects uuid = some session →
          (run sessionsStep start
              (events ++ syncLanShieldSessions entries)).uploaded uuid =
            some (sessionToJSON session) := by
  have accounts := accounts_run honest
  obtain ⟨before, round⟩ := (stepsMeet_append _ _ _).mp honest
  have completes :=
    (accounts_run before).completes round idle answered
  rw [← run_append] at completes
  have none :
      LANShieldSessionDao.getAllShouldSync
        (run sessionsStep start
          (events ++ syncLanShieldSessions entries)).table = [] := by
    apply List.eq_nil_iff_forall_not_mem.mpr
    intro row selected
    obtain ⟨inside, different⟩ :=
      LANShieldSessionDao.mem_getAllShouldSync.mp selected
    exact different (completes.synced row inside)
  refine ⟨none, ?_⟩
  intro uuid session made
  rw [← completes.objects] at made
  obtain ⟨row, inside, rfl, same⟩ :=
    accounts.row_of_object made (by
      rw [completes.waiting, settled]
      intro write waits
      cases waits)
  rw [← same]
  exact accounts.confirmed inside (completes.synced row inside)

/-- The session is stopped before its insertion runs, its row is uploaded
before its update runs, and a second session is under way. -/
def lateInsertion : List SessionsEvent :=
  [.openSession 10 false, .stopLanShieldSession 25, .complete 0,
    .getAllShouldSync, .complete 0,
    .postJson (.answered true [none, some ⟨0, 25⟩]),
    .updateSessionsSyncedTime, .updateSessionsSyncedTime,
    .updateSessionsSyncedTime, .openSession 40 true, .complete 0]

theorem session_in_request_or_uploaded_lateInsertion :
    sessionToJSON ⟨1, 40, 0, -1⟩ ∈
        (LANShieldSessionDao.getAllShouldSync
          (run sessionsStep start lateInsertion).table).map sessionToJSON ∨
      (run sessionsStep start lateInsertion).uploaded 1 =
        some (sessionToJSON ⟨1, 40, 0, -1⟩) :=
  session_in_request_or_uploaded (by decide +kernel) (by decide +kernel)
    (by decide +kernel)

theorem upload_completes_lateInsertion :
    LANShieldSessionDao.getAllShouldSync
          (run sessionsStep start
            (lateInsertion ++
              syncLanShieldSessions [some ⟨1, 0⟩])).table = [] ∧
      ∀ uuid session,
        (run sessionsStep start lateInsertion).objects uuid = some session →
          (run sessionsStep start
              (lateInsertion ++
                syncLanShieldSessions [some ⟨1, 0⟩])).uploaded uuid =
            some (sessionToJSON session) :=
  upload_completes (by decide +kernel) (by decide +kernel)
    (by decide +kernel) (by decide +kernel)

end SessionsState

end LanShield.BackendSync
