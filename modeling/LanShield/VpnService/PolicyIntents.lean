import LanShield.Java.ByteBuffer
import LanShield.Ui.AccessPolicies
import Mathlib.Logic.Function.Basic

/-!
# Intents that change a policy

The notification manager packs a policy into the extras of an intent, and the
broadcast receiver takes it out again.
-/

namespace LanShield.VpnService

open LanShield.Java
open LanShield.BackendSync (Policy)
open LanShield.Ui (LanAccessPolicy)

/-- `name` of the enumeration `Policy`. -/
def policyName : Policy → String
  | .default => "DEFAULT"
  | .block => "BLOCK"
  | .allow => "ALLOW"

/-- `Policy.valueOf`. -/
def policyValueOf (value : String) : Except JavaException Policy :=
  if value = "DEFAULT" then
    .ok .default
  else if value = "BLOCK" then
    .ok .block
  else if value = "ALLOW" then
    .ok .allow
  else
    .error (.illegalArgument ("No enum constant " ++ value))

private theorem policyValueOf_policyName (policy : Policy) :
    policyValueOf (policyName policy) = .ok policy := by
  cases policy <;> decide

inductive LANShieldIntentExtra where
  | packageName
  | packageIsSystem
  | policy
  deriving DecidableEq, Repr

def LANShieldIntentExtra.name : LANShieldIntentExtra → String
  | .packageName => "PACKAGE_NAME"
  | .packageIsSystem => "PACKAGE_IS_SYSTEM"
  | .policy => "POLICY"

/-- The key of an extra, which starts with the package of the app. -/
def LANShieldIntentExtra.key (contextPackage : String)
    (extra : LANShieldIntentExtra) : String :=
  contextPackage ++ "." ++ extra.name

/-- `LANShieldIntentAction.UPDATE_LAN_POLICY.name`. -/
def updateLanPolicyAction : String :=
  "UPDATE_LAN_POLICY"

/-- `Intent.ACTION_BOOT_COMPLETED`. -/
def actionBootCompleted : String :=
  "android.intent.action.BOOT_COMPLETED"

inductive ExtraValue where
  | string (value : String)
  | boolean (value : Bool)
  deriving DecidableEq, Repr

structure Intent where
  action : Option String
  extras : String → Option ExtraValue

namespace Intent

def ofAction (action : String) : Intent where
  action := some action
  extras := fun _ => none

def putExtra (key : String) (value : ExtraValue) (intent : Intent) :
    Intent :=
  { intent with extras := Function.update intent.extras key (some value) }

/-- `getStringExtra`, which finds nothing where another kind of value is. -/
def getStringExtra (key : String) (intent : Intent) : Option String :=
  match intent.extras key with
  | some (.string value) => some value
  | some (.boolean _) | none => none

/-- `getBooleanExtra`. -/
def getBooleanExtra (key : String) (defaultValue : Bool)
    (intent : Intent) : Bool :=
  match intent.extras key with
  | some (.boolean value) => value
  | some (.string _) | none => defaultValue

end Intent

/-- `createUpdatePolicyIntent`. -/
def createUpdatePolicyIntent (contextPackage packageName : String)
    (packageIsSystem : Bool) (policy : Policy) : Intent :=
  let key := LANShieldIntentExtra.key contextPackage
  (Intent.ofAction updateLanPolicyAction)
    |>.putExtra (key .policy) (.string (policyName policy))
    |>.putExtra (key .packageName) (.string packageName)
    |>.putExtra (key .packageIsSystem) (.boolean packageIsSystem)

/-- What the receiver does with an intent: it starts the service if that is
wanted at boot, or inserts a row and dismisses the notification of its
package. -/
inductive Received where
  | nothing
  | boot
  | update (lanAccessPolicy : LanAccessPolicy)
  deriving DecidableEq, Repr

/-- `handleUpdateLanPolicy`. -/
def handleUpdateLanPolicy (contextPackage : String) (intent : Intent) :
    Except JavaException Received :=
  let key := LANShieldIntentExtra.key contextPackage
  match intent.getStringExtra (key .policy) with
  | none => .ok .nothing
  | some policyString =>
      match intent.getStringExtra (key .packageName) with
      | none => .ok .nothing
      | some packageName => do
          let packageIsSystem :=
            intent.getBooleanExtra (key .packageIsSystem) false
          let policy ← policyValueOf policyString
          return .update
            { packageName
              accessPolicy := policy
              shouldSync := true
              isSystem := packageIsSystem }

/-- `onReceive`. -/
def onReceive (contextPackage : Option String) (intent : Option Intent) :
    Except JavaException Received :=
  match intent, contextPackage with
  | some intent, some contextPackage =>
      if intent.action = some updateLanPolicyAction then
        handleUpdateLanPolicy contextPackage intent
      else if intent.action = some actionBootCompleted then
        .ok .boot
      else
        .ok .nothing
  | _, _ => .ok .nothing

private theorem LANShieldIntentExtra.key_injective (contextPackage : String) :
    Function.Injective (LANShieldIntentExtra.key contextPackage) := by
  intro extra other same
  have names : extra.name = other.name := by
    have letters := congrArg String.toList same
    simp only [LANShieldIntentExtra.key, String.toList_append] at letters
    exact String.toList_inj.mp (List.append_cancel_left letters)
  revert names
  cases extra <;> cases other <;> decide

/-- What an extra stands for. -/
def LANShieldIntentExtra.value (packageName : String)
    (packageIsSystem : Bool) (policy : Policy) :
    LANShieldIntentExtra → ExtraValue
  | .policy => .string (policyName policy)
  | .packageName => .string packageName
  | .packageIsSystem => .boolean packageIsSystem

section RoundTrip

variable (contextPackage packageName : String) (packageIsSystem : Bool)
  (policy : Policy)

/-- Each extra of the intent is found under its key. -/
private theorem extras_createUpdatePolicyIntent
    (extra : LANShieldIntentExtra) :
    (createUpdatePolicyIntent contextPackage packageName packageIsSystem
          policy).extras (extra.key contextPackage) =
      some (extra.value packageName packageIsSystem policy) := by
  have injective := LANShieldIntentExtra.key_injective contextPackage
  cases extra <;>
    simp [createUpdatePolicyIntent, Intent.putExtra, injective.eq_iff,
      LANShieldIntentExtra.value]

/-- The receiver takes out of the intent what was put in. -/
theorem onReceive_createUpdatePolicyIntent :
    onReceive (some contextPackage)
        (some
          (createUpdatePolicyIntent contextPackage packageName
            packageIsSystem policy)) =
      .ok
        (.update
          { packageName
            accessPolicy := policy
            shouldSync := true
            isSystem := packageIsSystem }) := by
  have extras :=
    extras_createUpdatePolicyIntent contextPackage packageName
      packageIsSystem policy
  have action :
      (createUpdatePolicyIntent contextPackage packageName packageIsSystem
          policy).action =
        some updateLanPolicyAction := rfl
  simp only [onReceive, action, if_true, handleUpdateLanPolicy,
    Intent.getStringExtra, Intent.getBooleanExtra, extras,
    LANShieldIntentExtra.value, policyValueOf_policyName]
  rfl

end RoundTrip

end LanShield.VpnService
