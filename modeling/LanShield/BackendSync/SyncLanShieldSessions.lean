import LanShield.Library.KeyedTable
import LanShield.Library.Runs
import LanShield.VpnService.VPNService

/-!
# `syncLanShieldSessions`

The sessions of the service, the coroutines that write them to the table
`lanshield_session` at any later time, and the upload of the changed rows by
`SendToServerWorker`.
-/

namespace LanShield.BackendSync

open LanShield.Library
open VpnService (LANShieldSession)
open VpnService.VPNService (createLANShieldSession)

abbrev SessionTable := KeyedTable LANShieldSession.uuid

/-- A session as it is sent; the two times are given in milliseconds. -/
structure SessionJson where
  lanshield_session_uuid : Nat
  time_start : Int
  time_end : Int
  deriving DecidableEq, Repr

/-- `LANShieldSession.toJSON`. -/
def sessionToJSON (session : LANShieldSession) : SessionJson :=
  ⟨session.uuid, session.timeStart, session.timeEnd⟩

namespace LANShieldSessionDao

/-- `update`, by primary key. -/
def update (lanShieldSession : LANShieldSession) :
    SessionTable → SessionTable :=
  KeyedTable.update (fun row => row.uuid = lanShieldSession.uuid)
    (fun row => { lanShieldSession with uuid := row.uuid }) fun _ _ => rfl

/-- `getAllShouldSync`. -/
def getAllShouldSync (table : SessionTable) : List LANShieldSession :=
  table.select fun row => row.timeEndAtLastSync != row.timeEnd

/-- `updateSessionsSyncedTime`. -/
def updateSessionsSyncedTime (sessionId : Nat) (timeEndLast : Int) :
    SessionTable → SessionTable :=
  KeyedTable.update (fun row => row.uuid = sessionId)
    (fun row => { row with timeEndAtLastSync := timeEndLast }) fun _ _ => rfl

theorem mem_update {table : SessionTable} {session row : LANShieldSession} :
    row ∈ update session table ↔
      row = session ∧ (∃ old ∈ table, old.uuid = session.uuid) ∨
        row ∈ table ∧ row.uuid ≠ session.uuid := by
  rw [update, KeyedTable.mem_update]
  simp only [decide_eq_true_eq, decide_eq_false_iff_not]
  refine or_congr ⟨?_, ?_⟩ Iff.rfl
  · rintro ⟨old, inside, same, rfl⟩
    exact ⟨by rw [same], old, inside, same⟩
  · rintro ⟨rfl, old, inside, same⟩
    exact ⟨old, inside, same, by rw [same]⟩

theorem mem_getAllShouldSync {table : SessionTable}
    {row : LANShieldSession} :
    row ∈ getAllShouldSync table ↔
      row ∈ table ∧ row.timeEndAtLastSync ≠ row.timeEnd := by
  rw [getAllShouldSync, KeyedTable.mem_select, bne_iff_ne]

theorem mem_updateSessionsSyncedTime {table : SessionTable}
    {sessionId : Nat} {timeEndLast : Int} {row : LANShieldSession} :
    row ∈ updateSessionsSyncedTime sessionId timeEndLast table ↔
      (∃ old ∈ table, old.uuid = sessionId ∧
          row = { old with timeEndAtLastSync := timeEndLast }) ∨
        row ∈ table ∧ row.uuid ≠ sessionId := by
  rw [updateSessionsSyncedTime, KeyedTable.mem_update]
  simp only [decide_eq_true_eq, decide_eq_false_iff_not]

end LANShieldSessionDao

/-- A coroutine on `Dispatchers.IO` that has not run yet.  It holds the
session object, not a copy of it. -/
inductive SessionWrite where
  | insert (uuid : Nat)
  | update (uuid : Nat)
  deriving DecidableEq, Repr

def SessionWrite.uuid : SessionWrite → Nat
  | .insert uuid => uuid
  | .update uuid => uuid

/-- `lanshield_session_uuid` and `time_end` of an entry of the answer. -/
structure SessionAnswer where
  sessionId : Nat
  timeEnd : Int
  deriving DecidableEq, Repr

/-- What becomes of the request: the call throws, the answer is not for this
installation, or it has these entries, of which one that does not parse is
`none`.  In each case the server may have stored the request or not. -/
inductive SessionsResponse where
  | failed (stored : Bool)
  | refused (stored : Bool)
  | answered (stored : Bool) (sessions : List (Option SessionAnswer))
  deriving DecidableEq, Repr

def SessionsResponse.stored : SessionsResponse → Bool
  | .failed stored => stored
  | .refused stored => stored
  | .answered stored _ => stored

/-- The entries the worker goes through. -/
def SessionsResponse.entries :
    SessionsResponse → List (Option SessionAnswer)
  | .failed _ => []
  | .refused _ => []
  | .answered _ sessions => sessions

/-- Where `syncLanShieldSessions` stands between two of its calls. -/
inductive SessionsWorker where
  | idle
  | post (sessions : List LANShieldSession)
  | mark (remaining : List (Option SessionAnswer))
  deriving DecidableEq, Repr

/-- `objects` are the session objects that were made, `lanShieldSession` is
the field of the service, and `uploaded` the server's view: what it stored
last for each session. -/
structure SessionsState where
  objects : Nat → Option LANShieldSession
  lanShieldSession : Option Nat
  nextUuid : Nat
  waiting : List SessionWrite
  table : SessionTable
  worker : SessionsWorker
  uploaded : Nat → Option SessionJson

namespace SessionsState

def start : SessionsState where
  objects := fun _ => none
  lanShieldSession := none
  nextUuid := 0
  waiting := []
  table := .empty
  worker := .idle
  uploaded := fun _ => none

/-- `VPNService.stopLanShieldSession`. -/
def stopLanShieldSession (currentTimeMillis : Int) (state : SessionsState) :
    SessionsState :=
  match state.lanShieldSession with
  | none => state
  | some uuid =>
      { state with
        objects :=
          Function.update state.objects uuid
            ((state.objects uuid).map fun session =>
              { session with timeEnd := currentTimeMillis })
        waiting := state.waiting ++ [.update uuid]
        lanShieldSession := none }

/-- A session is made and its insertion launched. -/
def insertSession (currentTimeMillis : Int) (state : SessionsState) :
    SessionsState :=
  { state with
    objects :=
      Function.update state.objects state.nextUuid
        (some (createLANShieldSession state.nextUuid currentTimeMillis))
    waiting := state.waiting ++ [.insert state.nextUuid]
    lanShieldSession := some state.nextUuid
    nextUuid := state.nextUuid + 1 }

/-- `VPNService.startVPNThread` opens a session unless it keeps one. -/
def openSession (currentTimeMillis : Int) (keepSession : Bool)
    (state : SessionsState) : SessionsState :=
  if !keepSession || state.lanShieldSession.isNone then
    (state.stopLanShieldSession currentTimeMillis).insertSession
      currentTimeMillis
  else
    state

/-- A coroutine runs, with the fields its session has by then. -/
def perform (write : SessionWrite) (state : SessionsState) : SessionTable :=
  match write, state.objects write.uuid with
  | .insert _, some session => state.table.insert session
  | .update _, some session => LANShieldSessionDao.update session state.table
  | _, none => state.table

def complete (index : Nat) (state : SessionsState) : SessionsState :=
  match state.waiting[index]? with
  | none => state
  | some write =>
      { state with
        table := state.perform write
        waiting := state.waiting.eraseIdx index }

/-- The query of `syncLanShieldSessions`, unless it is running. -/
def getAllShouldSync (state : SessionsState) : SessionsState :=
  match state.worker with
  | .idle =>
      let sessions := LANShieldSessionDao.getAllShouldSync state.table
      if sessions.isEmpty then
        state
      else
        { state with worker := .post sessions }
  | _ => state

/-- The server's view once it has stored the sessions. -/
def store (sessions : List LANShieldSession)
    (uploaded : Nat → Option SessionJson) (uuid : Nat) :
    Option SessionJson :=
  ((sessions.map sessionToJSON).find? fun session =>
    session.lanshield_session_uuid = uuid).or (uploaded uuid)

/-- `uploaded` after the response to a request with the sessions. -/
def viewAfter (sessions : List LANShieldSession)
    (response : SessionsResponse) (state : SessionsState) :
    Nat → Option SessionJson :=
  if response.stored then
    store sessions state.uploaded
  else
    state.uploaded

/-- `BackendApi.postJson` of `syncLanShieldSessions`. -/
def postJson (response : SessionsResponse) (state : SessionsState) :
    SessionsState :=
  match state.worker with
  | .post sessions =>
      { state with
        uploaded := state.viewAfter sessions response
        worker := .mark response.entries }
  | _ => state

/-- The next entry of the answer. -/
def updateSessionsSyncedTime (state : SessionsState) : SessionsState :=
  match state.worker with
  | .mark [] => { state with worker := .idle }
  | .mark (none :: remaining) => { state with worker := .mark remaining }
  | .mark (some answer :: remaining) =>
      { state with
        table :=
          LANShieldSessionDao.updateSessionsSyncedTime answer.sessionId
            answer.timeEnd state.table
        worker := .mark remaining }
  | _ => state

end SessionsState

/-- `stopped` is the end of the worker by the platform. -/
inductive SessionsEvent where
  | openSession (currentTimeMillis : Int) (keepSession : Bool)
  | stopLanShieldSession (currentTimeMillis : Int)
  | complete (index : Nat)
  | getAllShouldSync
  | postJson (response : SessionsResponse)
  | updateSessionsSyncedTime
  | stopped
  deriving DecidableEq, Repr

def sessionsStep (state : SessionsState) : SessionsEvent → SessionsState
  | .openSession currentTimeMillis keepSession =>
      state.openSession currentTimeMillis keepSession
  | .stopLanShieldSession currentTimeMillis =>
      state.stopLanShieldSession currentTimeMillis
  | .complete index => state.complete index
  | .getAllShouldSync => state.getAllShouldSync
  | .postJson response => state.postJson response
  | .updateSessionsSyncedTime => state.updateSessionsSyncedTime
  | .stopped => { state with worker := .idle }

end LanShield.BackendSync
