import LanShield.Library.KeyedTable
import LanShield.Library.Runs

/-!
# `syncACL`

The access policies of the user, table `lan_access_policies`, and the upload
of the changed ones by `SendToServerWorker`.
-/

namespace LanShield.BackendSync

open LanShield.Library

inductive Policy where
  | default
  | block
  | allow
  deriving DecidableEq, Repr

/-- `LanAccessPolicy`; whether the app is a system app plays no role here.
-/
structure LanAccessPolicy where
  packageName : String
  accessPolicy : Policy
  shouldSync : Bool
  deriving DecidableEq, Repr

abbrev PolicyTable := KeyedTable LanAccessPolicy.packageName

namespace LanAccessPolicyDao

/-- `delete`, by primary key. -/
def delete (lanAccessPolicy : LanAccessPolicy) : PolicyTable → PolicyTable :=
  KeyedTable.deleteWhere fun row =>
    row.packageName = lanAccessPolicy.packageName

/-- `getAllUnsyncedPolicy`. -/
def getAllUnsyncedPolicy (policy : Policy) (table : PolicyTable) :
    List String :=
  (table.select fun row => row.shouldSync ∧ row.accessPolicy = policy).map
    LanAccessPolicy.packageName

/-- `setAllSynced`. -/
def setAllSynced : PolicyTable → PolicyTable :=
  KeyedTable.update (fun row => row.shouldSync)
    (fun row => { row with shouldSync := false }) fun _ _ => rfl

theorem mem_setAllSynced {table : PolicyTable} {row : LanAccessPolicy} :
    row ∈ setAllSynced table ↔
      (∃ old ∈ table, old.shouldSync = true ∧
          row = { old with shouldSync := false }) ∨
        row ∈ table ∧ row.shouldSync = false :=
  KeyedTable.mem_update

end LanAccessPolicyDao

/-- `LANTrafficPerAppViewModel.onChangeAccessPolicy`. -/
def onChangeAccessPolicy (packageName : String) (newPolicy : Policy)
    (table : PolicyTable) : PolicyTable :=
  let lanAccessPolicy : LanAccessPolicy := ⟨packageName, newPolicy, true⟩
  if newPolicy = .default then
    LanAccessPolicyDao.delete lanAccessPolicy table
  else
    table.insert lanAccessPolicy

/-- `LANAccessPoliciesViewModel.updateLanAccessPolicy`, on the copy the
screen makes. -/
def updateLanAccessPolicy (packageName : String) (newPolicy : Policy)
    (table : PolicyTable) : PolicyTable :=
  let lanAccessPolicy : LanAccessPolicy := ⟨packageName, newPolicy, true⟩
  if lanAccessPolicy.accessPolicy = .default then
    LanAccessPolicyDao.delete lanAccessPolicy table
  else
    table.insert lanAccessPolicy

/-- `LANShieldBroadcastReceiver.handleUpdateLanPolicy`. -/
def handleUpdateLanPolicy (packageName : String) (policy : Policy)
    (table : PolicyTable) : PolicyTable :=
  table.insert ⟨packageName, policy, true⟩

inductive PolicyChange where
  | onChangeAccessPolicy (packageName : String) (newPolicy : Policy)
  | updateLanAccessPolicy (packageName : String) (newPolicy : Policy)
  | handleUpdateLanPolicy (packageName : String) (policy : Policy)
  deriving DecidableEq, Repr

def PolicyChange.apply : PolicyChange → PolicyTable → PolicyTable
  | .onChangeAccessPolicy packageName newPolicy =>
      BackendSync.onChangeAccessPolicy packageName newPolicy
  | .updateLanAccessPolicy packageName newPolicy =>
      BackendSync.updateLanAccessPolicy packageName newPolicy
  | .handleUpdateLanPolicy packageName policy =>
      BackendSync.handleUpdateLanPolicy packageName policy

/-- The three lists of the request. -/
structure AclRequest where
  allowlist : List String
  blocklist : List String
  defaultlist : List String
  deriving DecidableEq, Repr

/-- The value the request gives for a package; of two, the later one. -/
def AclRequest.value (request : AclRequest) (packageName : String) :
    Option Policy :=
  if packageName ∈ request.defaultlist then
    some .default
  else if packageName ∈ request.blocklist then
    some .block
  else if packageName ∈ request.allowlist then
    some .allow
  else
    none

/-- Where `syncACL` stands between two of its database or network calls. -/
inductive AclWorker where
  | idle
  | readAllowed
  | readBlocked (allowed : List String)
  | readDefault (allowed blocked : List String)
  | post (request : AclRequest)
  | setSynced
  deriving DecidableEq, Repr

/-- What becomes of the request: the server stores it and answers
`ACL_SUCCESS`, or answers something else, or the call throws; also in the
last two cases the server may have stored it. -/
inductive AclResponse where
  | success
  | refused (stored : Bool)
  | failed (stored : Bool)
  deriving DecidableEq, Repr

def AclResponse.stored : AclResponse → Bool
  | .success => true
  | .refused stored => stored
  | .failed stored => stored

/-- `uploaded` is the server's view: the value last uploaded for each
package. -/
structure AclState where
  policies : PolicyTable
  worker : AclWorker
  uploaded : String → Option Policy

def AclState.start : AclState where
  policies := .empty
  worker := .idle
  uploaded := fun _ => none

/-- The server's view after a request it stores. -/
def AclRequest.store (request : AclRequest)
    (uploaded : String → Option Policy) (packageName : String) :
    Option Policy :=
  (request.value packageName).or (uploaded packageName)

/-- The next call of `syncACL`. -/
def AclState.syncACL (response : AclResponse) (state : AclState) : AclState :=
  match state.worker with
  | .idle => state
  | .readAllowed =>
      { state with
        worker :=
          .readBlocked
            (LanAccessPolicyDao.getAllUnsyncedPolicy .allow
              state.policies) }
  | .readBlocked allowed =>
      { state with
        worker :=
          .readDefault allowed
            (LanAccessPolicyDao.getAllUnsyncedPolicy .block
              state.policies) }
  | .readDefault allowed blocked =>
      let default :=
        LanAccessPolicyDao.getAllUnsyncedPolicy .default state.policies
      if allowed.isEmpty && blocked.isEmpty && default.isEmpty then
        { state with worker := .idle }
      else
        { state with worker := .post ⟨allowed, blocked, default⟩ }
  | .post request =>
      { state with
        uploaded :=
          if response.stored then
            request.store state.uploaded
          else
            state.uploaded
        worker := if response = .success then .setSynced else .idle }
  | .setSynced =>
      { state with
        policies := LanAccessPolicyDao.setAllSynced state.policies
        worker := .idle }

inductive AclEvent where
  | change (change : PolicyChange)
  | startSync
  | worker (response : AclResponse)
  deriving DecidableEq, Repr

def aclStep (state : AclState) : AclEvent → AclState
  | .change change => { state with policies := change.apply state.policies }
  | .startSync =>
      match state.worker with
      | .idle => { state with worker := .readAllowed }
      | _ => state
  | .worker response => state.syncACL response

end LanShield.BackendSync
