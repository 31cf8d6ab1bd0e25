import LanShield.BackendSync.PolicyUploads
import LanShield.Library.LaunchedTasks

/-!
# Which of several policy choices is stored

`LANAccessPoliciesViewModel.updateLanAccessPolicy` and
`LANShieldBroadcastReceiver.handleUpdateLanPolicy` launch a coroutine for each
change and return.  Nothing orders the coroutines, so a choice can be
overwritten by an earlier one.
-/

namespace LanShield.BackendSync

open LanShield.Library

/-- A change of the policy of one package that a coroutine is launched for. -/
inductive PolicyRequest where
  | updateLanAccessPolicy (newPolicy : Policy)
  | handleUpdateLanPolicy (policy : Policy)
  deriving DecidableEq, Repr

namespace PolicyRequest

def policy : PolicyRequest → Policy
  | .updateLanAccessPolicy newPolicy => newPolicy
  | .handleUpdateLanPolicy policy => policy

def change (packageName : String) : PolicyRequest → PolicyChange
  | .updateLanAccessPolicy newPolicy =>
      .updateLanAccessPolicy packageName newPolicy
  | .handleUpdateLanPolicy policy =>
      .handleUpdateLanPolicy packageName policy

/-- What the coroutine does with the table. -/
def coroutine (packageName : String) (request : PolicyRequest) :
    PolicyTable → PolicyTable :=
  (request.change packageName).apply

end PolicyRequest

/-- The coroutines after some requests and completions. -/
def requestRun (packageName : String) (table : PolicyTable)
    (events : List (LaunchEvent PolicyRequest)) :
    Launching PolicyTable PolicyRequest :=
  run (Launching.step (PolicyRequest.coroutine packageName))
    (Launching.start table) events

/-- Under every scheduling of the coroutines the last choice is stored. -/
def LastChoiceStored (packageName : String) (table : PolicyTable)
    (requests : List PolicyRequest) (last : PolicyRequest) : Prop :=
  ∀ events, Launching.launched events = requests →
    (requestRun packageName table events).waiting = [] →
      effectivePolicy packageName
          (requestRun packageName table events).shared =
        last.policy

section Requests

variable {packageName : String} {table : PolicyTable}

theorem effectivePolicy_delete (policy : Policy) :
    effectivePolicy packageName
        (LanAccessPolicyDao.delete ⟨packageName, policy, true⟩ table) =
      .default := by
  have absent :
      (LanAccessPolicyDao.delete ⟨packageName, policy, true⟩ table).find
          packageName =
        none := by
    apply KeyedTable.find_eq_none_iff.mpr
    intro row inside
    have other := (KeyedTable.mem_deleteWhere.mp inside).2
    exact of_decide_eq_false other
  rw [effectivePolicy, absent]
  rfl

theorem effectivePolicy_insert (policy : Policy) :
    effectivePolicy packageName
        (table.insert ⟨packageName, policy, true⟩) =
      policy := by
  have found :
      (table.insert ⟨packageName, policy, true⟩).find packageName =
        some ⟨packageName, policy, true⟩ :=
    KeyedTable.find_eq_some_iff.mpr
      ⟨KeyedTable.mem_insert.mpr (Or.inl rfl), rfl⟩
  rw [effectivePolicy, found]
  rfl

/-- A coroutine stores the choice it was launched for. -/
private theorem effectivePolicy_coroutine (packageName : String)
    (request : PolicyRequest) (table : PolicyTable) :
    effectivePolicy packageName (request.coroutine packageName table) =
      request.policy := by
  cases request with
  | updateLanAccessPolicy newPolicy =>
      change
        effectivePolicy packageName
            (updateLanAccessPolicy packageName newPolicy table) =
          newPolicy
      rw [updateLanAccessPolicy]
      split
      case isTrue chosen =>
        rw [effectivePolicy_delete]
        exact chosen.symm
      case isFalse other => exact effectivePolicy_insert newPolicy
  | handleUpdateLanPolicy policy => exact effectivePolicy_insert policy

/-- The last choice is stored under every scheduling exactly if all choices
agree with it, and under a single one exactly if the coroutine that finishes
last agrees with it, for which it is enough that no choice is made while
another one is not stored yet. -/
theorem lastChoice_stored_iff (packageName : String) (table : PolicyTable)
    (last : PolicyRequest) :
    (∀ requests : List PolicyRequest, requests.getLast? = some last →
      (LastChoiceStored packageName table requests last ↔
        ∀ request ∈ requests, request.policy = last.policy)) ∧
    ∀ events,
      (Launching.launched events).getLast? = some last →
        (requestRun packageName table events).waiting = [] →
          ((effectivePolicy packageName
                (requestRun packageName table events).shared =
              last.policy ↔
            ∃ request ∈
                (requestRun packageName table events).finished.getLast?,
              request.policy = last.policy) ∧
          (StepsMeet
              (Launching.step (PolicyRequest.coroutine packageName))
              (Launching.LaunchAgrees PolicyRequest.policy)
              (Launching.start table) events →
            effectivePolicy packageName
                (requestRun packageName table events).shared =
              last.policy)) := by
  have overwrites := effectivePolicy_coroutine packageName
  refine ⟨?_, ?_⟩
  · intro requests requested
    exact Launching.forall_observe_eq_last_iff overwrites table requested
  · intro events requested complete
    refine ⟨?_, ?_⟩
    · exact Launching.observe_eq_last_iff overwrites complete requested
    · intro agrees
      exact
        Launching.observe_eq_last_of_agrees overwrites agrees complete
          requested

end Requests

/-- An app is allowed on the screen and then blocked in the notification. -/
def allowThenBlock : List PolicyRequest :=
  [.updateLanAccessPolicy .allow, .handleUpdateLanPolicy .block]

/-- The coroutines finish the other way round. -/
def blockFinishesFirst : List (LaunchEvent PolicyRequest) :=
  allowThenBlock.map .launch ++ [.complete 1, .complete 0]

theorem lastChoice_stored_iff_allowThenBlock :
    (LastChoiceStored "org.app" .empty allowThenBlock
          (.handleUpdateLanPolicy .block) ↔
        ∀ request ∈ allowThenBlock, request.policy = .block) ∧
      (effectivePolicy "org.app"
            (requestRun "org.app" .empty blockFinishesFirst).shared =
          .block ↔
        ∃ request ∈
            (requestRun "org.app" .empty
              blockFinishesFirst).finished.getLast?,
          request.policy = .block) := by
  obtain ⟨every, single⟩ :=
    lastChoice_stored_iff "org.app" .empty (.handleUpdateLanPolicy .block)
  exact
    ⟨every allowThenBlock rfl,
      (single blockFinishesFirst rfl (by decide)).1⟩

theorem allowThenBlock_allowed :
    allowThenBlock.getLast? = some (.handleUpdateLanPolicy .block) ∧
      ¬ LastChoiceStored "org.app" .empty allowThenBlock
          (.handleUpdateLanPolicy .block) := by
  refine ⟨rfl, ?_⟩
  intro stored
  have blocked := stored blockFinishesFirst rfl (by decide)
  exact absurd blocked (by decide)

end LanShield.BackendSync
