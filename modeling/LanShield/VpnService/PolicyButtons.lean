import LanShield.VpnService.LANShieldNotificationManager

/-!
# The buttons of notifications

A process counts request codes from the same number on as those before it.
Where none of these has left a broadcast under a code that is counted, what
the system keeps for a button is the intent of its own app, and the rows the
receiver launches insertions for are the choices of the user.  A broadcast
that was left there is sent in its place.
-/

namespace LanShield.VpnService

open LanShield.Library
open LanShield.BackendSync (Policy)
open LanShield.Ui (LanAccessPolicy)

namespace LANShieldNotificationManager

variable {contextPackage packageName : String} {limit codes ids : Nat}
  {manager : LANShieldNotificationManager} {active : ActiveNotification}

/-- An active notification is of its package: so are the data it opens and
the intents kept under the codes of its buttons. -/
structure OfPackage (contextPackage : String) (codes ids : Nat)
    (broadcasts : Int → Option Intent) (packageName : String)
    (active : ActiveNotification) : Prop where
  contentData :
    active.notificationBuilder.contentData =
      lanTrafficPerAppData contextPackage packageName
  notificationId : ∃ count ≤ ids, active.notificationId = counted count
  requestCode :
    ∀ action, ∃ count ≤ codes,
      active.notificationBuilder.pendingIntent action = counted count
  intent :
    ∀ action intent,
      broadcasts (active.notificationBuilder.pendingIntent action) =
          some intent →
        ∃ packageIsSystem,
          intent =
            createUpdatePolicyIntent contextPackage packageName
              packageIsSystem action.policy

/-- After so many request codes and numbers.  The system keeps nothing under
a code that is yet to come, up to a limit. -/
structure Sound (contextPackage : String) (limit codes ids : Nat)
    (manager : LANShieldNotificationManager) : Prop where
  codeCounter : manager.intentRequestCodeCounter = counted codes
  idCounter : manager.notificationIdCounter = counted ids
  limit_lt : limit < 2 ^ 32
  fresh :
    ∀ count, codes < count → count ≤ limit →
      manager.broadcasts (counted count) = none
  active :
    ∀ packageName active,
      manager.activeNotifications packageName = some active →
        OfPackage contextPackage codes ids manager.broadcasts packageName
          active
  distinct :
    ∀ packageName other active otherActive,
      manager.activeNotifications packageName = some active →
        manager.activeNotifications other = some otherActive →
          active.notificationId = otherActive.notificationId →
            packageName = other
  shown :
    ∀ id builder text lines,
      manager.shown id = some (.lanTraffic builder text lines) →
        ∃ packageName active,
          manager.activeNotifications packageName = some active ∧
            active.notificationId = id ∧
              active.notificationBuilder = builder

private theorem sound_start (contextPackage : String)
    {shown : Int → Option Notification} {broadcasts : Int → Option Intent}
    (few : limit < 2 ^ 32)
    (noneShown :
      ∀ id builder text lines,
        shown id ≠ some (.lanTraffic builder text lines))
    (noneKept :
      ∀ count, 0 < count → count ≤ limit →
        broadcasts (counted count) = none) :
    Sound contextPackage limit 0 0 (start shown broadcasts) where
  codeCounter := show (2 : Int) = counted 0 by decide
  idCounter := show (2 : Int) = counted 0 by decide
  limit_lt := few
  fresh := noneKept
  active := by simp [start]
  distinct := by simp [start]
  shown := by
    intro id builder text lines found
    exact absurd found (noneShown id builder text lines)

/-- More numbers may have been given out, and fewer broadcasts be kept. -/
theorem OfPackage.mono {moreCodes moreIds : Nat}
    {broadcasts fewer : Int → Option Intent}
    (ofPackage :
      OfPackage contextPackage codes ids broadcasts packageName active)
    (codesLe : codes ≤ moreCodes) (idsLe : ids ≤ moreIds)
    (kept :
      ∀ action intent,
        fewer (active.notificationBuilder.pendingIntent action) =
            some intent →
          broadcasts (active.notificationBuilder.pendingIntent action) =
            some intent) :
    OfPackage contextPackage moreCodes moreIds fewer packageName
      active where
  contentData := ofPackage.contentData
  notificationId := by
    obtain ⟨count, le, number⟩ := ofPackage.notificationId
    exact ⟨count, le.trans idsLe, number⟩
  requestCode := by
    intro action
    obtain ⟨count, le, code⟩ := ofPackage.requestCode action
    exact ⟨count, le.trans codesLe, code⟩
  intent := by
    intro action intent found
    exact ofPackage.intent action intent (kept action intent found)

/-- A code given out is not the next one. -/
private theorem counted_ne_next {count : Nat} (le : count ≤ codes)
    (few : codes + 1 < 2 ^ 32) : counted count ≠ counted (codes + 1) := by
  intro same
  have equal := (counted_inj (by omega) few).mp same
  omega

private theorem getNewIntentRequestCode_eq
    (sound : Sound contextPackage limit codes ids manager) :
    manager.getNewIntentRequestCode =
      (counted (codes + 1),
        { manager with
          intentRequestCodeCounter := counted (codes + 1) }) := by
  rw [getNewIntentRequestCode, sound.codeCounter, counted_succ]

private theorem getNewNotificationId_eq
    (sound : Sound contextPackage limit codes ids manager) :
    manager.getNewNotificationId =
      (counted (ids + 1),
        { manager with notificationIdCounter := counted (ids + 1) }) := by
  rw [getNewNotificationId, sound.idCounter, counted_succ]

private theorem Sound.withCode
    (sound : Sound contextPackage limit codes ids manager) :
    Sound contextPackage limit (codes + 1) ids
      { manager with intentRequestCodeCounter := counted (codes + 1) } where
  codeCounter := rfl
  idCounter := sound.idCounter
  limit_lt := sound.limit_lt
  fresh := fun count later within =>
    sound.fresh count (Nat.lt_of_succ_lt later) within
  active := by
    intro packageName active found
    exact
      (sound.active packageName active found).mono (Nat.le_succ codes)
        (le_refl ids) fun _ _ kept => kept
  distinct := sound.distinct
  shown := sound.shown

private theorem Sound.withId
    (sound : Sound contextPackage limit codes ids manager) :
    Sound contextPackage limit codes (ids + 1)
      { manager with notificationIdCounter := counted (ids + 1) } where
  codeCounter := sound.codeCounter
  idCounter := rfl
  limit_lt := sound.limit_lt
  fresh := sound.fresh
  active := by
    intro packageName active found
    exact
      (sound.active packageName active found).mono (le_refl codes)
        (Nat.le_succ ids) fun _ _ kept => kept
  distinct := sound.distinct
  shown := sound.shown

/-- An intent under a new code. -/
private theorem Sound.withBroadcast
    (sound : Sound contextPackage limit codes ids manager)
    (few : codes + 1 ≤ limit) {requestCode : Int}
    (new : requestCode = counted (codes + 1)) (intent : Intent) :
    Sound contextPackage limit (codes + 1) ids
      { manager with
        intentRequestCodeCounter := requestCode
        broadcasts :=
          Function.update manager.broadcasts requestCode
            (some intent) } := by
  refine
    { codeCounter := new
      idCounter := sound.idCounter
      limit_lt := sound.limit_lt
      fresh := ?_
      active := ?_
      distinct := sound.distinct
      shown := sound.shown }
  · intro count later within
    have other : counted count ≠ requestCode := by
      intro same
      have below := sound.limit_lt
      have equal :=
        (counted_inj (by omega) (by omega)).mp (same.trans new)
      omega
    dsimp only
    rw [Function.update_of_ne other]
    exact sound.fresh count (by omega) within
  · intro packageName active found
    have ofPackage := sound.active packageName active found
    refine ofPackage.mono (Nat.le_succ codes) (le_refl ids) ?_
    intro action other kept
    obtain ⟨count, le, code⟩ := ofPackage.requestCode action
    have old :
        active.notificationBuilder.pendingIntent action ≠ requestCode := by
      rw [code, new]
      exact counted_ne_next le (few.trans_lt sound.limit_lt)
    exact (Function.update_of_ne old ..).symm.trans kept

/-- Nothing is kept under a new code, so the intent is. -/
private theorem newBroadcast_eq
    (sound : Sound contextPackage limit codes ids manager)
    (few : codes + 1 ≤ limit) (intent : Intent) :
    ∃ requestCode,
      requestCode = counted (codes + 1) ∧
        manager.newBroadcast intent =
          (requestCode,
            { manager with
              intentRequestCodeCounter := requestCode
              broadcasts :=
                Function.update manager.broadcasts requestCode
                  (some intent) }) := by
  refine ⟨_, rfl, ?_⟩
  have absent : manager.broadcasts (counted (codes + 1)) = none :=
    sound.fresh (codes + 1) (Nat.lt_succ_self codes) few
  rw [newBroadcast, getNewIntentRequestCode_eq sound]
  simp only [getBroadcast, absent]

/-- A line for a package whose notification, if it has one, is this one, and
whose number no other package has. -/
theorem Sound.showLine (sound : Sound contextPackage limit codes ids manager)
    (ofPackage :
      OfPackage contextPackage codes ids manager.broadcasts packageName
        active)
    (only :
      ∀ other, manager.activeNotifications packageName = some other →
        other = active)
    (unique :
      ∀ other otherActive,
        manager.activeNotifications other = some otherActive →
          otherActive.notificationId = active.notificationId →
            other = packageName)
    (appliedPolicy : Policy) (remotePeer : String) :
    Sound contextPackage limit codes ids
      (manager.showLine packageName appliedPolicy remotePeer active) := by
  refine
    { codeCounter := sound.codeCounter
      idCounter := sound.idCounter
      limit_lt := sound.limit_lt
      fresh := sound.fresh
      active := ?_
      distinct := ?_
      shown := ?_ }
  · intro other otherActive found
    by_cases same : other = packageName
    · subst other
      cases (Function.update_self ..).symm.trans found
      exact
        { contentData := ofPackage.contentData
          notificationId := ofPackage.notificationId
          requestCode := ofPackage.requestCode
          intent := ofPackage.intent }
    · exact
        sound.active other otherActive
          ((Function.update_of_ne same ..).symm.trans found)
  · intro left right leftActive rightActive leftFound rightFound sameId
    by_cases leftNew : left = packageName
    · subst left
      cases (Function.update_self ..).symm.trans leftFound
      by_cases rightNew : right = packageName
      · exact rightNew.symm
      · have found :=
          (Function.update_of_ne rightNew ..).symm.trans rightFound
        exact (unique right rightActive found sameId.symm).symm
    · have found := (Function.update_of_ne leftNew ..).symm.trans leftFound
      by_cases rightNew : right = packageName
      · subst right
        cases (Function.update_self ..).symm.trans rightFound
        exact unique left leftActive found sameId
      · exact
          sound.distinct left right leftActive rightActive found
            ((Function.update_of_ne rightNew ..).symm.trans rightFound)
            sameId
  · intro id builder text lines found
    by_cases new : id = active.notificationId
    · subst id
      cases (Function.update_self ..).symm.trans found
      exact
        ⟨packageName, _, Function.update_self .., rfl, rfl⟩
    · have before := (Function.update_of_ne new ..).symm.trans found
      obtain ⟨other, otherActive, otherFound, number, sameBuilder⟩ :=
        sound.shown id builder text lines before
      have different : other ≠ packageName := by
        intro same
        subst other
        rw [only otherActive otherFound] at number
        exact new number.symm
      exact
        ⟨other, otherActive,
          (Function.update_of_ne different ..).trans otherFound, number,
          sameBuilder⟩

/-- What `createActiveNotification` returns, and what it leaves. -/
theorem Sound.createActiveNotification
    (sound : Sound contextPackage limit codes ids manager)
    (fewCodes : codes + 2 ≤ limit) (fewIds : ids + 1 < 2 ^ 32)
    (packageMetadata : PackageMetadata)
    (absent : manager.activeNotifications packageName = none)
    (appliedPolicy : Policy) (remotePeer : String) :
    Sound contextPackage limit (codes + 2) (ids + 1)
      ((manager.createActiveNotification contextPackage packageName
            packageMetadata).2.showLine
        packageName appliedPolicy remotePeer
        (manager.createActiveNotification contextPackage packageName
            packageMetadata).1) := by
  have blockFew : codes + 1 ≤ limit := by omega
  have allowFew : codes + 1 + 1 ≤ limit := by omega
  let updatePolicyIntent :=
    createUpdatePolicyIntent contextPackage packageName
      packageMetadata.isSystem
  obtain ⟨blockCode, isBlockCode, blockedEq⟩ :=
    newBroadcast_eq sound blockFew (updatePolicyIntent .block)
  have blocked :=
    sound.withBroadcast blockFew isBlockCode (updatePolicyIntent .block)
  obtain ⟨allowCode, isAllowCode, allowedEq⟩ :=
    newBroadcast_eq blocked allowFew (updatePolicyIntent .allow)
  have allowed :=
    blocked.withBroadcast allowFew isAllowCode (updatePolicyIntent .allow)
  have codesDiffer : blockCode ≠ allowCode := by
    rw [isBlockCode, isAllowCode]
    exact
      counted_ne_next (le_refl _) (allowFew.trans_lt allowed.limit_lt)
  have numbered := allowed.withId
  rw [LANShieldNotificationManager.createActiveNotification]
  simp only [blockedEq, allowedEq, getNewNotificationId_eq allowed,
    updatePolicyIntent]
  refine numbered.showLine ?_ ?_ ?_ appliedPolicy remotePeer
  · refine
      { contentData := rfl
        notificationId := ⟨ids + 1, le_refl _, rfl⟩
        requestCode := ?_
        intent := ?_ }
    · intro action
      cases action with
      | block => exact ⟨codes + 1, by omega, isBlockCode⟩
      | allow => exact ⟨codes + 1 + 1, le_refl _, isAllowCode⟩
    · intro action intent kept
      refine ⟨packageMetadata.isSystem, ?_⟩
      cases action with
      | block =>
          have first := (Function.update_of_ne codesDiffer ..).symm.trans kept
          have own := (Function.update_self ..).symm.trans first
          exact (Option.some.inj own).symm
      | allow =>
          have own := (Function.update_self ..).symm.trans kept
          exact (Option.some.inj own).symm
  · intro other found
    exact absurd (found.symm.trans absent) (by simp)
  · intro other otherActive found sameId
    obtain ⟨count, le, number⟩ :=
      (sound.active other otherActive found).notificationId
    exact
      absurd (number.symm.trans sameId) (counted_ne_next le fewIds)

theorem Sound.postNotification
    (sound : Sound contextPackage limit codes ids manager)
    (fewCodes : codes + 2 ≤ limit) (fewIds : ids + 1 < 2 ^ 32)
    (packageName : String) (packageManager : InstalledPackages)
    (appliedPolicy : Policy) (remotePeer : String)
    (cache : PackageMetadataCache) :
    ∃ moreCodes moreIds,
      moreCodes ≤ codes + 2 ∧ moreIds ≤ ids + 1 ∧
        Sound contextPackage limit moreCodes moreIds
          (manager.postNotification contextPackage packageName
            packageManager appliedPolicy remotePeer cache).2 := by
  rw [LANShieldNotificationManager.postNotification]
  cases found : manager.activeNotifications packageName with
  | some active =>
      refine ⟨codes, ids, by omega, by omega, ?_⟩
      refine
        sound.showLine (sound.active packageName active found) ?_ ?_
          appliedPolicy remotePeer
      · intro other otherFound
        exact Option.some.inj (otherFound.symm.trans found)
      · intro other otherActive otherFound sameId
        exact
          sound.distinct other packageName otherActive active otherFound
            found sameId
  | none =>
      exact
        ⟨codes + 2, ids + 1, le_refl _, le_refl _,
          sound.createActiveNotification fewCodes fewIds _ found
            appliedPolicy remotePeer⟩

/-- Under a number something else than traffic is shown, or nothing. -/
private theorem Sound.withShown
    (sound : Sound contextPackage limit codes ids manager) (id : Int)
    {entry : Option Notification}
    (other :
      ∀ builder text lines,
        entry ≠ some (.lanTraffic builder text lines)) :
    Sound contextPackage limit codes ids
      { manager with shown := Function.update manager.shown id entry } where
  codeCounter := sound.codeCounter
  idCounter := sound.idCounter
  limit_lt := sound.limit_lt
  fresh := sound.fresh
  active := sound.active
  distinct := sound.distinct
  shown := by
    intro number builder text lines found
    dsimp only at found
    have different : number ≠ id := by
      intro same
      subst number
      rw [Function.update_self] at found
      exact other builder text lines found
    rw [Function.update_of_ne different] at found
    exact sound.shown number builder text lines found

theorem Sound.cancel (sound : Sound contextPackage limit codes ids manager)
    (id : Int) : Sound contextPackage limit codes ids (manager.cancel id) :=
  sound.withShown id (by simp)

private theorem Sound.notifyError
    (sound : Sound contextPackage limit codes ids manager)
    (id : Int) (title errorText : String) :
    Sound contextPackage limit codes ids
      (manager.notify id (.serviceError title errorText)) :=
  sound.withShown id (by simp)

theorem Sound.postServiceErrorNotification
    (sound : Sound contextPackage limit codes ids manager)
    (title errorText : String) :
    Sound contextPackage limit (codes + 1) (ids + 1)
      (manager.postServiceErrorNotification title errorText) := by
  rw [LANShieldNotificationManager.postServiceErrorNotification,
    getNewNotificationId_eq sound]
  have numbered := sound.withId
  simp only [getNewIntentRequestCode_eq numbered]
  exact numbered.withCode.notifyError ..

/-- The notification of the package is gone, and so is its number. -/
theorem Sound.dismissNotification
    (sound : Sound contextPackage limit codes ids manager)
    (packageName : String) :
    Sound contextPackage limit codes ids
      (manager.dismissNotification packageName) := by
  rw [LANShieldNotificationManager.dismissNotification]
  cases dismissed : manager.activeNotifications packageName with
  | none => exact sound
  | some active =>
      have remaining {other : String} {otherActive : ActiveNotification}
          (found :
            Function.update manager.activeNotifications packageName none
                other =
              some otherActive) :
          other ≠ packageName ∧
            manager.activeNotifications other = some otherActive := by
        by_cases same : other = packageName
        · subst other
          cases (Function.update_self ..).symm.trans found
        · exact ⟨same, (Function.update_of_ne same ..).symm.trans found⟩
      refine
        { codeCounter := sound.codeCounter
          idCounter := sound.idCounter
          limit_lt := sound.limit_lt
          fresh := sound.fresh
          active := ?_
          distinct := ?_
          shown := ?_ }
      · intro other otherActive found
        exact sound.active other otherActive (remaining found).2
      · intro left right leftActive rightActive leftFound rightFound
        exact
          sound.distinct left right leftActive rightActive
            (remaining leftFound).2 (remaining rightFound).2
      · intro id builder text lines found
        have different : id ≠ active.notificationId := by
          intro same
          subst id
          cases (Function.update_self ..).symm.trans found
        have before := (Function.update_of_ne different ..).symm.trans found
        obtain ⟨other, otherActive, otherFound, number, sameBuilder⟩ :=
          sound.shown id builder text lines before
        refine ⟨other, otherActive, ?_, number, sameBuilder⟩
        have kept : other ≠ packageName := by
          intro same
          subst other
          cases dismissed.symm.trans otherFound
          exact different number.symm
        exact (Function.update_of_ne kept ..).trans otherFound

/-- A broadcast that was sent is not kept. -/
private theorem Sound.forget
    (sound : Sound contextPackage limit codes ids manager)
    (requestCode : Int) :
    Sound contextPackage limit codes ids
      { manager with
        broadcasts :=
          Function.update manager.broadcasts requestCode none } := by
  have kept {other : Int} {intent : Intent}
      (found :
        Function.update manager.broadcasts requestCode none other =
          some intent) :
      manager.broadcasts other = some intent := by
    by_cases same : other = requestCode
    · subst other
      cases (Function.update_self ..).symm.trans found
    · exact (Function.update_of_ne same ..).symm.trans found
  refine
    { codeCounter := sound.codeCounter
      idCounter := sound.idCounter
      limit_lt := sound.limit_lt
      fresh := ?_
      active := fun packageName active found =>
        (sound.active packageName active found).mono (le_refl codes)
          (le_refl ids) fun _ _ => kept
      distinct := sound.distinct
      shown := sound.shown }
  intro count later within
  have absent := sound.fresh count later within
  dsimp only
  by_cases same : counted count = requestCode
  · rw [same, Function.update_self]
  · rw [Function.update_of_ne same, absent]

/-- What is kept for the button of a shown notification. -/
theorem Sound.button (sound : Sound contextPackage limit codes ids manager)
    {id : Int} {builder : NotificationBuilder} {text : String}
    {lines : List String} {action : NotificationAction} {intent : Intent}
    (shown : manager.shown id = some (.lanTraffic builder text lines))
    (kept :
      manager.broadcasts (builder.pendingIntent action) = some intent) :
    ∃ packageName packageIsSystem,
      builder.contentData = lanTrafficPerAppData contextPackage packageName ∧
        intent =
          createUpdatePolicyIntent contextPackage packageName
            packageIsSystem action.policy := by
  obtain ⟨packageName, active, found, -, rfl⟩ :=
    sound.shown id builder text lines shown
  have ofPackage := sound.active packageName active found
  obtain ⟨packageIsSystem, made⟩ := ofPackage.intent action intent kept
  exact ⟨packageName, packageIsSystem, ofPackage.contentData, made⟩

/-- A new code is given out; what was kept stays. -/
private theorem newBroadcast_left (manager : LANShieldNotificationManager)
    (intent : Intent) :
    ∃ kept,
      manager.newBroadcast intent =
          (signed32 (manager.intentRequestCodeCounter + 1),
            { manager with
              intentRequestCodeCounter :=
                signed32 (manager.intentRequestCodeCounter + 1)
              broadcasts := kept }) ∧
        ∀ code left, manager.broadcasts code = some left →
          kept code = some left := by
  rw [newBroadcast, getNewIntentRequestCode]
  dsimp only
  rw [getBroadcast]
  dsimp only
  cases before :
      manager.broadcasts
        (signed32 (manager.intentRequestCodeCounter + 1)) with
  | some known => exact ⟨manager.broadcasts, rfl, fun _ _ kept => kept⟩
  | none =>
      refine ⟨_, rfl, ?_⟩
      intro code left kept
      have different :
          code ≠ signed32 (manager.intentRequestCodeCounter + 1) := by
        intro same
        rw [same, before] at kept
        cases kept
      rw [Function.update_of_ne different, kept]

/-- In a process that has counted nothing yet. -/
private theorem createActiveNotification_left
    {shown : Int → Option Notification} {broadcasts : Int → Option Intent}
    (contextPackage packageName : String)
    (packageMetadata : PackageMetadata) :
    let made :=
      (start shown broadcasts).createActiveNotification contextPackage
        packageName packageMetadata
    made.1.notificationId = counted 1 ∧
      made.1.notificationBuilder.blockPendingIntent = counted 1 ∧
        made.1.notificationBuilder.contentData =
            lanTrafficPerAppData contextPackage packageName ∧
          ∀ code left, broadcasts code = some left →
            made.2.broadcasts code = some left := by
  intro made
  have first : signed32 (2 + 1) = counted 1 := by decide
  obtain ⟨withBlock, blocked, blockKept⟩ :=
    newBroadcast_left (start shown broadcasts)
      (createUpdatePolicyIntent contextPackage packageName
        packageMetadata.isSystem .block)
  obtain ⟨withAllow, allowed, allowKept⟩ :=
    newBroadcast_left
      { start shown broadcasts with
        intentRequestCodeCounter :=
          signed32 ((start shown broadcasts).intentRequestCodeCounter + 1)
        broadcasts := withBlock }
      (createUpdatePolicyIntent contextPackage packageName
        packageMetadata.isSystem .allow)
  have made_eq :
      made =
        ({ notificationId := counted 1
           messageLines := []
           notificationBuilder :=
            { contentTitle :=
                "LAN traffic from " ++ packageMetadata.packageLabel
              blockPendingIntent := counted 1
              allowPendingIntent := signed32 (counted 1 + 1)
              contentData :=
                lanTrafficPerAppData contextPackage packageName } },
          { start shown broadcasts with
            notificationIdCounter := counted 1
            intentRequestCodeCounter := signed32 (counted 1 + 1)
            broadcasts := withAllow }) := by
    simp only [made, LANShieldNotificationManager.createActiveNotification,
      blocked, allowed]
    rw [← first]
    rfl
  rw [made_eq]
  exact
    ⟨rfl, rfl, rfl,
      fun code left kept => allowKept code left (blockKept code left kept)⟩

end LANShieldNotificationManager

namespace Notifications

open LANShieldNotificationManager

variable {contextPackage : String} {limit : Nat} {state : Notifications}
  {handled : List NotificationEvent}

/-- The row the receiver inserts for an intent. -/
def rowOf (contextPackage : String) (intent : Intent) :
    Option LanAccessPolicy :=
  match onReceive (some contextPackage) (some intent) with
  | .ok (.update lanAccessPolicy) => some lanAccessPolicy
  | .ok .nothing | .ok .boot | .error _ => none

/-- The rows that insertions were launched for, and those of broadcasts on
their way. -/
def rows (contextPackage : String) (state : Notifications) :
    List LanAccessPolicy :=
  state.launched ++ state.sent.filterMap (rowOf contextPackage)

/-- The choice a row is for. -/
def choiceOf (contextPackage : String) (row : LanAccessPolicy) : Choice :=
  ⟨lanTrafficPerAppData contextPackage row.packageName, row.accessPolicy⟩

/-- An insertion of what each button stands for is launched, or about to
be. -/
structure Accounts (contextPackage : String) (limit : Nat)
    (handled : List NotificationEvent) (state : Notifications) : Prop where
  sound :
    ∃ codes ids,
      codes ≤ 2 * handled.length ∧ ids ≤ handled.length ∧
        Sound contextPackage limit codes ids state.manager
  sent :
    ∀ intent ∈ state.sent, ∃ packageName packageIsSystem policy,
      intent =
        createUpdatePolicyIntent contextPackage packageName packageIsSystem
          policy
  chosen :
    state.chosen =
      (rows contextPackage state).map (choiceOf contextPackage)

private theorem rowOf_createUpdatePolicyIntent
    (contextPackage packageName : String)
    (packageIsSystem : Bool) (policy : Policy) :
    rowOf contextPackage
        (createUpdatePolicyIntent contextPackage packageName
          packageIsSystem policy) =
      some
        { packageName
          accessPolicy := policy
          shouldSync := true
          isSystem := packageIsSystem } := by
  rw [rowOf, onReceive_createUpdatePolicyIntent]

/-- A call of the manager that gives out no more than two codes and one
number. -/
private theorem Accounts.withManager
    (accounts : Accounts contextPackage limit handled state)
    {manager : LANShieldNotificationManager} (cache : PackageMetadataCache)
    (event : NotificationEvent)
    (kept :
      ∀ codes ids,
        codes ≤ 2 * handled.length → ids ≤ handled.length →
          Sound contextPackage limit codes ids state.manager →
            ∃ moreCodes moreIds,
              moreCodes ≤ codes + 2 ∧ moreIds ≤ ids + 1 ∧
                Sound contextPackage limit moreCodes moreIds manager) :
    Accounts contextPackage limit (handled ++ [event])
      { state with manager, packageMetadataCache := cache } := by
  refine ⟨?_, accounts.sent, accounts.chosen⟩
  obtain ⟨codes, ids, codesLe, idsLe, sound⟩ := accounts.sound
  obtain ⟨moreCodes, moreIds, codesMore, idsMore, after⟩ :=
    kept codes ids codesLe idsLe sound
  rw [List.length_append, List.length_singleton]
  exact ⟨moreCodes, moreIds, by omega, by omega, after⟩

theorem Accounts.press
    (accounts : Accounts contextPackage limit handled state)
    (event : NotificationEvent) (notificationId : Int)
    (action : NotificationAction) :
    Accounts contextPackage limit (handled ++ [event])
      (press notificationId action state) := by
  have idle :
      Accounts contextPackage limit (handled ++ [event]) state :=
    accounts.withManager state.packageMetadataCache event
      fun codes ids _ _ sound =>
        ⟨codes, ids, by omega, by omega, sound⟩
  rw [Notifications.press]
  split
  case h_1 builder text lines shown =>
    rw [sendBroadcast]
    cases kept :
        state.manager.broadcasts (builder.pendingIntent action) with
    | none => exact idle
    | some intent =>
        obtain ⟨codes, ids, codesLe, idsLe, sound⟩ := idle.sound
        obtain ⟨packageName, packageIsSystem, data, made⟩ :=
          sound.button shown kept
        refine
          ⟨⟨codes, ids, codesLe, idsLe, sound.forget _⟩, ?_, ?_⟩
        · intro other member
          rcases List.mem_append.mp member with before | new
          · exact idle.sent other before
          · rw [List.mem_singleton.mp new]
            exact ⟨packageName, packageIsSystem, action.policy, made⟩
        · have row :=
            rowOf_createUpdatePolicyIntent contextPackage packageName
              packageIsSystem action.policy
          rw [← made] at row
          simp only [rows, List.filterMap_append, List.filterMap_cons, row,
            List.filterMap_nil, ← List.append_assoc]
          rw [List.map_append, ← rows, ← idle.chosen, data]
          rfl
  case h_2 => exact idle
  case h_3 => exact idle

theorem Accounts.receive
    (accounts : Accounts contextPackage limit handled state)
    (event : NotificationEvent) :
    Accounts contextPackage limit (handled ++ [event])
      (receive contextPackage state) := by
  have idle :
      Accounts contextPackage limit (handled ++ [event]) state :=
    accounts.withManager state.packageMetadataCache event
      fun codes ids _ _ sound =>
        ⟨codes, ids, by omega, by omega, sound⟩
  rw [Notifications.receive]
  cases sent : state.sent with
  | nil => exact idle
  | cons intent later =>
      have members := idle.sent
      have chosen := idle.chosen
      rw [sent] at members
      obtain ⟨packageName, packageIsSystem, policy, made⟩ :=
        members intent List.mem_cons_self
      have row :=
        rowOf_createUpdatePolicyIntent contextPackage packageName
          packageIsSystem policy
      rw [← made] at row
      dsimp only
      rw [receiveIntent, made, onReceive_createUpdatePolicyIntent]
      obtain ⟨codes, ids, codesLe, idsLe, sound⟩ := idle.sound
      refine
        ⟨⟨codes, ids, codesLe, idsLe, sound.dismissNotification _⟩, ?_, ?_⟩
      · intro other member
        exact members other (List.mem_cons_of_mem _ member)
      · rw [chosen, rows, rows, sent, List.filterMap_cons, row,
          List.append_assoc]
        rfl

theorem Accounts.step
    (accounts : Accounts contextPackage limit handled state)
    (few : 2 * (handled.length + 1) ≤ limit) (event : NotificationEvent) :
    Accounts contextPackage limit (handled ++ [event])
      (step contextPackage state event) := by
  cases event with
  | postNotification packageManager packageName appliedPolicy remotePeer =>
      refine accounts.withManager _ _ ?_
      intro codes ids codesLe idsLe sound
      exact
        sound.postNotification (by omega) (by have := sound.limit_lt; omega)
          packageName packageManager appliedPolicy remotePeer _
  | postServiceErrorNotification title text =>
      refine accounts.withManager state.packageMetadataCache _ ?_
      intro codes ids _ _ sound
      exact
        ⟨codes + 1, ids + 1, by omega, le_refl _,
          sound.postServiceErrorNotification title text⟩
  | refuseStart title text =>
      refine accounts.withManager state.packageMetadataCache _ ?_
      intro codes ids _ _ sound
      exact
        ⟨codes, ids, by omega, by omega, sound.notifyError _ title text⟩
  | press notificationId action =>
      exact accounts.press _ notificationId action
  | cancel notificationId =>
      refine accounts.withManager state.packageMetadataCache _ ?_
      intro codes ids _ _ sound
      exact ⟨codes, ids, by omega, by omega, sound.cancel notificationId⟩
  | receive => exact accounts.receive _

/-- No notification of an earlier process is shown, and none of its broadcasts
is kept under a code that this many calls may come to. -/
structure NothingLeft (shown : Int → Option Notification)
    (broadcasts : Int → Option Intent) (calls : Nat) : Prop where
  shown :
    ∀ id builder text lines, shown id ≠ some (.lanTraffic builder text lines)
  broadcasts :
    ∀ count, 0 < count → count ≤ 2 * calls →
      broadcasts (counted count) = none

variable {shown : Int → Option Notification}
  {broadcasts : Int → Option Intent}

private theorem accounts_run (contextPackage : String)
    {events : List NotificationEvent} (few : events.length < 2 ^ 31)
    (nothing : NothingLeft shown broadcasts events.length) :
    Accounts contextPackage (2 * events.length) events
      (run (step contextPackage) (start shown broadcasts) events) := by
  have begun :
      Accounts contextPackage (2 * events.length) []
        (start shown broadcasts) := by
    refine ⟨⟨0, 0, le_refl _, le_refl _, ?_⟩, ?_, rfl⟩
    · exact
        sound_start contextPackage (by omega) nothing.shown
          nothing.broadcasts
    · intro intent member
      exact absurd member List.not_mem_nil
  have history :=
    @run_history_invariant _ _ (step contextPackage) (fun _ _ => True)
      (fun handled state =>
        handled.length ≤ events.length →
          Accounts contextPackage (2 * events.length) handled state)
      (fun handled state event _ holds within => by
        rw [List.length_append, List.length_singleton] at within
        exact (holds (by omega)).step (by omega) event)
      events [] (start shown broadcasts) (fun _ => begun)
      (StepsMeet.of_forall (fun _ _ => trivial) events _)
  exact history (le_refl _)

/-- A broadcast that an earlier process has left under the first code is sent
in place of the new button's own, so the policy of another app is changed. -/
theorem left_broadcast_launched (contextPackage packageName other : String)
    (otherIsSystem : Bool) (policy : Policy)
    (left :
      broadcasts (counted 1) =
        some
          (createUpdatePolicyIntent contextPackage other otherIsSystem
            policy))
    (packageManager : InstalledPackages) (appliedPolicy : Policy)
    (remotePeer : String) :
    let pressed :=
      run (step contextPackage) (start shown broadcasts)
        [.postNotification packageManager packageName appliedPolicy
            remotePeer,
          .press (counted 1) .block, .receive]
    pressed.chosen =
        [⟨lanTrafficPerAppData contextPackage packageName, .block⟩] ∧
      pressed.launched = [⟨⟨other, policy, true⟩, otherIsSystem⟩] := by
  intro pressed
  obtain ⟨number, code, data, kept⟩ :=
    @createActiveNotification_left shown broadcasts contextPackage
      packageName
      (getPackageMetadata packageName packageManager fun _ => none).1
  generalize made_eq :
      (LANShieldNotificationManager.start shown
          broadcasts).createActiveNotification contextPackage packageName
        (getPackageMetadata packageName packageManager fun _ => none).1 =
      made at number code data kept
  have posted :
      step contextPackage (start shown broadcasts)
          (.postNotification packageManager packageName appliedPolicy
            remotePeer) =
        { start shown broadcasts with
          manager :=
            made.2.showLine packageName appliedPolicy remotePeer made.1
          packageMetadataCache :=
            (getPackageMetadata packageName packageManager
              fun _ => none).2 } := by
    rw [← made_eq]
    rfl
  have isShown :
      (made.2.showLine packageName appliedPolicy remotePeer
            made.1).shown (counted 1) =
        some
          (.lanTraffic made.1.notificationBuilder
            (peerLine remotePeer appliedPolicy)
            (peerLine remotePeer appliedPolicy :: made.1.messageLines)) := by
    rw [← number]
    exact Function.update_self ..
  have stillKept :
      (made.2.showLine packageName appliedPolicy remotePeer
            made.1).broadcasts
          made.1.notificationBuilder.blockPendingIntent =
        some
          (createUpdatePolicyIntent contextPackage other otherIsSystem
            policy) := by
    rw [code]
    exact kept _ _ left
  simp only [pressed, run_cons, run_nil, posted]
  simp only [step, press, isShown, sendBroadcast,
    NotificationBuilder.pendingIntent, stillKept, receive, receiveIntent,
    start, List.nil_append, onReceive_createUpdatePolicyIntent, data]
  exact ⟨rfl, trivial⟩

/-- An earlier process has shown more notifications; one of its broadcasts is
still kept. -/
def leftBehind : Int → Option Intent :=
  Function.update (fun _ => none) 40
    (some (createUpdatePolicyIntent "l" "c" false .allow))

end Notifications

end LanShield.VpnService
