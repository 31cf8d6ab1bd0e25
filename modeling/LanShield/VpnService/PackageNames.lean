import LanShield.BackendSync.OpenPortsFinder
import Mathlib.Logic.Function.Basic

/-!
# Which app a packet belongs to

`getPacketOwnerUid` of `VPNRunnable`, and the metadata of packages, which
`LANShieldApplication.kt` looks up once and keeps.
-/

namespace LanShield.VpnService

open LanShield.BackendSync (PackageManager packageNameUnknown
  packageNameRoot packageNameSystem packageNamePlayServices isPartOf
  getPackageLabel)

structure PackageMetadata where
  packageName : String
  packageLabel : String
  isSystem : Bool
  deriving DecidableEq, Repr

structure ApplicationInfo where
  packageName : Option String
  flags : UInt32
  deriving DecidableEq, Repr

namespace ApplicationInfo

/-- `FLAG_SYSTEM`. -/
def flagSystem : UInt32 := 0x1

/-- `FLAG_UPDATED_SYSTEM_APP`. -/
def flagUpdatedSystemApp : UInt32 := 0x80

end ApplicationInfo

/-- `NO_SYSTEM_OVERRIDE_PACKAGE_NAMES`. -/
def noSystemOverridePackageNames : List String :=
  ["com.android.chrome"]

/-- `applicationInfoIsSystem`. -/
def applicationInfoIsSystem (applicationInfo : ApplicationInfo) : Bool :=
  if applicationInfo.packageName.any noSystemOverridePackageNames.contains
      then
    false
  else
    applicationInfo.flags &&&
        (ApplicationInfo.flagUpdatedSystemApp |||
          ApplicationInfo.flagSystem) !=
      0

/-- The packages of the device, with the information on those found. -/
structure InstalledPackages extends PackageManager where
  getApplicationInfo : String → ApplicationInfo

/-- `lookupPackageMetadata`. -/
def lookupPackageMetadata (packageName : String)
    (packageManager : InstalledPackages) : PackageMetadata :=
  if packageName = packageNameUnknown then
    ⟨packageName, packageNameUnknown, false⟩
  else if packageName = packageNameRoot then
    ⟨packageName, packageNameRoot, true⟩
  else if packageName = packageNameSystem then
    ⟨packageName, packageNameSystem, true⟩
  else if isPartOf "android.uid.phone" packageName then
    ⟨packageName, packageNameSystem, true⟩
  else if isPartOf "com.google.uid.shared" packageName then
    ⟨packageName, packageNamePlayServices, true⟩
  else
    match packageManager.getApplicationLabel packageName with
    | some label =>
        ⟨packageName, label,
          applicationInfoIsSystem
            (packageManager.getApplicationInfo packageName)⟩
    | none => ⟨packageName, packageName, false⟩

/-- The label is the one open ports are listed under. -/
theorem packageLabel_lookup (packageName : String)
    (packageManager : InstalledPackages) :
    (lookupPackageMetadata packageName packageManager).packageLabel =
      getPackageLabel packageName packageManager.toPackageManager := by
  rw [lookupPackageMetadata, getPackageLabel]
  by_cases unknown : packageName = packageNameUnknown
  · rw [if_pos unknown, if_pos unknown]
  rw [if_neg unknown, if_neg unknown]
  by_cases root : packageName = packageNameRoot
  · rw [if_pos root, if_pos root]
  rw [if_neg root, if_neg root]
  by_cases system : packageName = packageNameSystem
  · rw [if_pos system, if_pos system]
  rw [if_neg system, if_neg system]
  by_cases phone : isPartOf "android.uid.phone" packageName
  · rw [if_pos phone, if_pos phone]
  rw [if_neg phone, if_neg phone]
  by_cases shared : isPartOf "com.google.uid.shared" packageName
  · rw [if_pos shared, if_pos shared]
  rw [if_neg shared, if_neg shared]
  cases packageManager.getApplicationLabel packageName with
  | some label => rfl
  | none => rfl

/-- `packageMetadataCache`. -/
abbrev PackageMetadataCache :=
  String → Option PackageMetadata

/-- `getPackageMetadata`, with the cache it leaves. -/
def getPackageMetadata (packageName : String)
    (packageManager : InstalledPackages) (cache : PackageMetadataCache) :
    PackageMetadata × PackageMetadataCache :=
  match cache packageName with
  | some metadata => (metadata, cache)
  | none =>
      let metadata := lookupPackageMetadata packageName packageManager
      (metadata, Function.update cache packageName (some metadata))

section Cache

variable {packageName other : String} {packageManager : InstalledPackages}
  {cache otherCache : PackageMetadataCache}

/-- A lookup concerns one package. -/
theorem getPackageMetadata_other (different : other ≠ packageName) :
    (getPackageMetadata packageName packageManager cache).2 other =
      cache other := by
  rw [getPackageMetadata]
  cases cache packageName with
  | some metadata => rfl
  | none => exact Function.update_of_ne different ..

/-- Only what is kept of the package matters. -/
theorem getPackageMetadata_congr
    (same : cache packageName = otherCache packageName) :
    (getPackageMetadata packageName packageManager cache).1 =
        (getPackageMetadata packageName packageManager otherCache).1 ∧
      (getPackageMetadata packageName packageManager cache).2
          packageName =
        (getPackageMetadata packageName packageManager otherCache).2
          packageName := by
  rw [getPackageMetadata, getPackageMetadata, ← same]
  cases found : cache packageName with
  | some metadata =>
      exact ⟨rfl, found.trans (same.symm.trans found).symm⟩
  | none =>
      refine ⟨rfl, ?_⟩
      dsimp only
      rw [Function.update_self, Function.update_self]

end Cache

/-- What `getConnectionOwnerUid` answers: a uid, or an exception, which
`getPacketOwnerUid` only catches if it is an `IllegalArgumentException`. -/
inductive OwnerAnswer where
  | uid (uid : Int)
  | illegalArgument
  | otherException
  deriving DecidableEq, Repr

/-- The remaining rounds of `getPacketOwnerUid`; nothing for an exception
that leaves it. -/
def retryOwnerUid : (rounds : Nat) → List OwnerAnswer → Option Int
  | 0, _ => some (-1)
  | _ + 1, [] => some (-1)
  | rounds + 1, answer :: later =>
      match answer with
      | .uid uid =>
          if uid ≠ 0 ∧ uid ≠ -1 then some uid else retryOwnerUid rounds later
      | .illegalArgument => some (-1)
      | .otherException => none

/-- `getPacketOwnerUid`. -/
def getPacketOwnerUid (answers : List OwnerAnswer) : Option Int :=
  retryOwnerUid 5 answers

/-- `hasValidUid`. -/
def hasValidUid (appUid : Int) : Bool :=
  appUid != -1 && appUid != 1000 && appUid != 0

end LanShield.VpnService
