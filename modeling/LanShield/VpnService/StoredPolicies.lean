import LanShield.BackendSync.PolicyRequests
import LanShield.VpnService.PacketFirewall

/-!
# From the policy table to the packet loop

Each choice of the user launches a coroutine that changes the table
`lan_access_policies`.  Its rows are selected after a change, and the observer
of the packet loop is given them some time later.  A packet is decided on by
what is stored for its app, unless that was changed since the rows were
selected.
-/

namespace LanShield.VpnService

open LanShield.Library LanShield.Java
open LanShield.BackendSync (Policy LanAccessPolicy PolicyTable PolicyChange
  LanAccessPolicyDao.setAllSynced LanAccessPolicyDao.mem_setAllSynced
  effectivePolicy effectivePolicy_delete effectivePolicy_insert)

section Cache

variable {packageName : String} {rows : List LanAccessPolicy}

/-- The loop of `accessPoliesObserver`, from any cache. -/
def fillCache (rows : List LanAccessPolicy)
    (cache : String → Option Policy) : String → Option Policy :=
  rows.foldl
    (fun newCache policy =>
      Function.update newCache policy.packageName
        (some policy.accessPolicy))
    cache

private theorem fillCache_cons (row : LanAccessPolicy)
    (rest : List LanAccessPolicy) (cache : String → Option Policy) :
    fillCache (row :: rest) cache =
      fillCache rest
        (Function.update cache row.packageName (some row.accessPolicy)) :=
  rfl

private theorem cacheOf_eq (rows : List LanAccessPolicy) :
    ForwardSettings.cacheOf rows = fillCache rows fun _ => none :=
  rfl

/-- A package without a row stays as it is. -/
private theorem fillCache_absent (cache : String → Option Policy)
    (absent : ∀ row ∈ rows, row.packageName ≠ packageName) :
    fillCache rows cache packageName = cache packageName := by
  induction rows generalizing cache with
  | nil => rfl
  | cons row rest inductionHypothesis =>
      have others :
          ∀ other ∈ rest, other.packageName ≠ packageName :=
        fun other member => absent other (List.mem_cons_of_mem _ member)
      rw [fillCache_cons, inductionHypothesis _ others]
      exact Function.update_of_ne (absent row List.mem_cons_self).symm ..

/-- Each row of a table is found in the cache. -/
private theorem fillCache_member {row : LanAccessPolicy}
    (distinct : (rows.map LanAccessPolicy.packageName).Nodup)
    (member : row ∈ rows) (cache : String → Option Policy) :
    fillCache rows cache row.packageName = some row.accessPolicy := by
  induction rows generalizing cache with
  | nil => exact absurd member List.not_mem_nil
  | cons first rest inductionHypothesis =>
      rw [List.map_cons, List.nodup_cons] at distinct
      rw [fillCache_cons]
      rcases List.mem_cons.mp member with rfl | later
      · have absent :
            ∀ other ∈ rest, other.packageName ≠ row.packageName := by
          intro other inside same
          exact distinct.1 (List.mem_map.mpr ⟨other, inside, same⟩)
        rw [fillCache_absent _ absent]
        exact Function.update_self ..
      · exact inductionHypothesis distinct.2 later _

/-- The observer's cache holds the policies of the table, in whatever order
its rows come. -/
private theorem cacheOf_rows {table : PolicyTable}
    (given : rows.Perm table.rows)
    (packageName : String) :
    (ForwardSettings.cacheOf rows packageName).getD .default =
      effectivePolicy packageName table := by
  have distinct : (rows.map LanAccessPolicy.packageName).Nodup :=
    (given.map _).nodup_iff.mpr table.distinct
  rw [effectivePolicy]
  cases found : table.find packageName with
  | some row =>
      obtain ⟨inside, rfl⟩ := KeyedTable.find_eq_some_iff.mp found
      have member : row ∈ rows := given.mem_iff.mpr inside
      rw [cacheOf_eq, fillCache_member distinct member]
      rfl
  | none =>
      have absent := KeyedTable.find_eq_none_iff.mp found
      have missing : ∀ row ∈ rows, row.packageName ≠ packageName :=
        fun row member => absent row (given.mem_iff.mp member)
      rw [cacheOf_eq, fillCache_absent _ missing]
      rfl

end Cache

/-- The package a change is for. -/
def changedPackage : PolicyChange → String
  | .onChangeAccessPolicy packageName _
  | .updateLanAccessPolicy packageName _
  | .handleUpdateLanPolicy packageName _ => packageName

/-- The policy the user has chosen. -/
def chosenPolicy : PolicyChange → Policy
  | .onChangeAccessPolicy _ newPolicy
  | .updateLanAccessPolicy _ newPolicy => newPolicy
  | .handleUpdateLanPolicy _ policy => policy

section Changes

variable {packageName other : String} {table : PolicyTable}

private theorem effectivePolicy_congr {changed : PolicyTable}
    (same :
      ∀ row : LanAccessPolicy, row.packageName = packageName →
        (row ∈ changed ↔ row ∈ table)) :
    effectivePolicy packageName changed =
      effectivePolicy packageName table := by
  rw [effectivePolicy, effectivePolicy, KeyedTable.find_congr same]

private theorem effectivePolicy_delete_other (different : packageName ≠ other)
    (policy : Policy) :
    effectivePolicy packageName
        (BackendSync.LanAccessPolicyDao.delete ⟨other, policy, true⟩
          table) =
      effectivePolicy packageName table := by
  apply effectivePolicy_congr
  intro row named
  have kept :
      decide (row.packageName = other) = false :=
    decide_eq_false (named ▸ different)
  rw [BackendSync.LanAccessPolicyDao.delete, KeyedTable.mem_deleteWhere]
  exact ⟨fun inside => inside.1, fun inside => ⟨inside, kept⟩⟩

private theorem effectivePolicy_insert_other (different : packageName ≠ other)
    (policy : Policy) :
    effectivePolicy packageName (table.insert ⟨other, policy, true⟩) =
      effectivePolicy packageName table := by
  apply effectivePolicy_congr
  intro row named
  have kept : row.packageName ≠ other := named ▸ different
  rw [KeyedTable.mem_insert]
  constructor
  · rintro (rfl | inside)
    · exact absurd rfl kept
    · exact inside.1
  · exact fun inside => Or.inr ⟨inside, kept⟩

/-- A change stores the policy chosen for its package, and none other. -/
private theorem effectivePolicy_change (change : PolicyChange)
    (packageName : String) :
    effectivePolicy packageName (change.apply table) =
      if packageName = changedPackage change then
        chosenPolicy change
      else
        effectivePolicy packageName table := by
  have stored (newPolicy : Policy) (named : String) :
      effectivePolicy packageName
          (if newPolicy = .default then
            BackendSync.LanAccessPolicyDao.delete ⟨named, newPolicy, true⟩
              table
          else
            table.insert ⟨named, newPolicy, true⟩) =
        if packageName = named then
          newPolicy
        else
          effectivePolicy packageName table := by
    by_cases own : packageName = named
    · subst named
      rw [if_pos rfl]
      split
      case isTrue unset => rw [effectivePolicy_delete, unset]
      case isFalse set => exact effectivePolicy_insert newPolicy
    · rw [if_neg own]
      split
      case isTrue unset => exact effectivePolicy_delete_other own newPolicy
      case isFalse set => exact effectivePolicy_insert_other own newPolicy
  cases change with
  | onChangeAccessPolicy named newPolicy => exact stored newPolicy named
  | updateLanAccessPolicy named newPolicy => exact stored newPolicy named
  | handleUpdateLanPolicy named policy =>
      by_cases own : packageName = named
      · subst named
        exact (effectivePolicy_insert policy).trans (if_pos rfl).symm
      · exact
          (effectivePolicy_insert_other own policy).trans (if_neg own).symm

private theorem effectivePolicy_setAllSynced (packageName : String)
    (table : PolicyTable) :
    effectivePolicy packageName (LanAccessPolicyDao.setAllSynced table) =
      effectivePolicy packageName table := by
  rw [effectivePolicy, effectivePolicy]
  congr 1
  apply Option.ext
  intro policy
  simp only [Option.map_eq_some_iff, KeyedTable.find_eq_some_iff]
  constructor
  · rintro ⟨row, ⟨inside, named⟩, rfl⟩
    rcases LanAccessPolicyDao.mem_setAllSynced.mp inside with
      ⟨old, member, -, rfl⟩ | ⟨member, -⟩
    · exact ⟨old, ⟨member, named⟩, rfl⟩
    · exact ⟨row, ⟨member, named⟩, rfl⟩
  · rintro ⟨row, ⟨inside, named⟩, rfl⟩
    by_cases marked : row.shouldSync = true
    · exact
        ⟨{ row with shouldSync := false },
          ⟨LanAccessPolicyDao.mem_setAllSynced.mpr
            (Or.inl ⟨row, inside, marked, rfl⟩), named⟩, rfl⟩
    · have synced : row.shouldSync = false :=
        Bool.eq_false_of_not_eq_true marked
      exact
        ⟨row,
          ⟨LanAccessPolicyDao.mem_setAllSynced.mpr
            (Or.inr ⟨inside, synced⟩), named⟩, rfl⟩

end Changes

/-- `selected` are the rows that the observer is about to be given.
`changedSince` are the packages whose policy was changed since they were
selected, `changed` those whose policy was changed since the rows were that
the observer was given last; nothing reads either. -/
structure PolicyStore where
  writes : Launching PolicyTable PolicyChange
  selected : Option (List LanAccessPolicy)
  firewall : Firewall
  changedSince : List String
  changed : List String

inductive StoreEvent where
  /-- The user chooses, for which a coroutine is launched. -/
  | choose (change : PolicyChange)
  /-- The coroutine at the index writes. -/
  | write (index : Nat)
  | setAllSynced
  /-- What `getAllLive` selects, in some order. -/
  | getAllLive (rows : List LanAccessPolicy)
  /-- The observer is given the rows selected last. -/
  | onChanged
  | firewall (event : FirewallEvent)

namespace PolicyStore

/-- A packet loop is started, whose cache is empty. -/
def start (table : PolicyTable) (notifications : Notifications)
    (packetIds : Nat → Int) : PolicyStore where
  writes := .start table
  selected := none
  firewall := .start notifications packetIds
  changedSince := []
  changed := table.rows.map LanAccessPolicy.packageName

def table (store : PolicyStore) : PolicyTable :=
  store.writes.shared

/-- Any other step of the packet loop. -/
def firewallStep (platform : Platform) (store : PolicyStore)
    (event : FirewallEvent) : PolicyStore :=
  match event with
  | .observe (.accessPolicies _) => store
  | event =>
      { store with firewall := store.firewall.step platform event }

/-- The package whose policy the coroutine changes. -/
def written (store : PolicyStore) (index : Nat) : List String :=
  (store.writes.waiting[index]?.map changedPackage).toList

def step (platform : Platform) (store : PolicyStore) :
    StoreEvent → PolicyStore
  | .choose change =>
      { store with
        writes :=
          Launching.step PolicyChange.apply store.writes
            (.launch change) }
  | .write index =>
      { store with
        writes :=
          Launching.step PolicyChange.apply store.writes (.complete index)
        changedSince := store.written index ++ store.changedSince
        changed := store.written index ++ store.changed }
  | .setAllSynced =>
      { store with
        writes :=
          { store.writes with
            shared := LanAccessPolicyDao.setAllSynced store.table } }
  | .getAllLive rows =>
      if rows.Perm store.table.rows then
        { store with selected := some rows, changedSince := [] }
      else
        store
  | .onChanged =>
      match store.selected with
      | some rows =>
          { store with
            selected := none
            firewall :=
              store.firewall.step platform
                (.observe (.accessPolicies rows))
            changed := store.changedSince }
      | none => store
  | .firewall event => store.firewallStep platform event

/-- The cache holds what is stored, but for these packages. -/
def Follows (cache : String → Option Policy) (table : PolicyTable)
    (changed : List String) : Prop :=
  ∀ packageName, packageName ∉ changed →
    (cache packageName).getD .default = effectivePolicy packageName table

/-- The observer's cache follows the table, and so would one made of the rows
it is about to be given. -/
structure CacheFollows (store : PolicyStore) : Prop where
  given :
    Follows store.firewall.settings.accessPoliciesCache store.table
      store.changed
  selected :
    ∀ rows, store.selected = some rows →
      Follows (ForwardSettings.cacheOf rows) store.table store.changedSince

end PolicyStore

/-- The policy the user has chosen last. -/
def chosenIn (packageName : String) (initially : Policy)
    (events : List StoreEvent) : Policy :=
  events.foldl
    (fun policy event =>
      match event with
      | .choose change =>
          if packageName = changedPackage change then
            chosenPolicy change
          else
            policy
      | .write _ | .setAllSynced | .getAllLive _ | .onChanged
      | .firewall _ => policy)
    initially

/-- No other choice for the package waits to be written while the user
chooses, unless it is the same. -/
def ChoosesAlike (packageName : String) (store : PolicyStore) :
    StoreEvent → Prop
  | .choose change =>
      packageName = changedPackage change →
        ∀ other ∈ store.writes.waiting,
          packageName = changedPackage other →
            chosenPolicy other = chosenPolicy change
  | .write _ | .setAllSynced | .getAllLive _ | .onChanged
  | .firewall _ => True

instance (packageName : String) (store : PolicyStore) :
    DecidablePred (ChoosesAlike packageName store)
  | .choose _ => inferInstanceAs (Decidable (_ → ∀ _ ∈ _, _ → _))
  | .write _ => inferInstanceAs (Decidable True)
  | .setAllSynced => inferInstanceAs (Decidable True)
  | .getAllLive _ => inferInstanceAs (Decidable True)
  | .onChanged => inferInstanceAs (Decidable True)
  | .firewall _ => inferInstanceAs (Decidable True)

/-- The last choice for the package is stored once none waits. -/
structure StoresLast (packageName : String) (initially : Policy)
    (events : List StoreEvent) (store : PolicyStore) : Prop where
  waiting :
    ∀ change ∈ store.writes.waiting, packageName = changedPackage change →
      chosenPolicy change = chosenIn packageName initially events
  stored :
    (∀ change ∈ store.writes.waiting,
        packageName ≠ changedPackage change) →
      effectivePolicy packageName store.table =
        chosenIn packageName initially events

section Runs

variable {platform : Platform} {store : PolicyStore}
  {firewall : Firewall} {packageName : String}

/-- Judging a packet leaves the settings alone. -/
private theorem settings_judge :
    (firewall.judge platform).settings = firewall.settings := by
  rw [Firewall.judge]
  cases firewall.judging with
  | none => rfl
  | some judging =>
      dsimp only
      cases judging.unread with
      | nil =>
          change
            (firewall.handleDecision platform judging).settings =
              firewall.settings
          rw [Firewall.handleDecision]
          split
          · rfl
          · rfl
      | cons field later => rfl

private theorem settings_handlePacket (packetBuffer : ByteBuffer)
    (answers : PacketAnswers) :
    (firewall.handlePacket packetBuffer answers).settings =
      firewall.settings := by
  rw [Firewall.handlePacket]
  cases IPHeader.ofPacket packetBuffer with
  | error exception => rfl
  | ok result =>
      obtain ⟨packetHeader, after⟩ := result
      dsimp only
      cases packetApp packetHeader answers with
      | none => rfl
      | some app => rfl

/-- Only the rows change the cache. -/
private theorem cache_firewallStep (event : FirewallEvent) :
    (store.firewallStep platform
          event).firewall.settings.accessPoliciesCache =
      store.firewall.settings.accessPoliciesCache := by
  cases event with
  | packet packetBuffer answers =>
      change
        (store.firewall.step platform
              (.packet packetBuffer answers)).settings.accessPoliciesCache =
          _
      rw [Firewall.step]
      split
      · rw [settings_handlePacket]
      · rfl
  | shouldForwardPacket =>
      exact
        congrArg ForwardSettings.accessPoliciesCache settings_judge
  | observe observed =>
      cases observed with
      | accessPolicies | defaultForwardPolicy | systemAppsForwardPolicy
      | allowMulticast | allowDns | hideMulticastNotifications
      | hideDnsNotifications => rfl
  | notification | proceed | select => rfl

private theorem rest_firewallStep (event : FirewallEvent) :
    store.firewallStep platform event =
      { store with
        firewall := (store.firewallStep platform event).firewall } := by
  cases event with
  | observe observed =>
      cases observed with
      | accessPolicies | defaultForwardPolicy | systemAppsForwardPolicy
      | allowMulticast | allowDns | hideMulticastNotifications
      | hideDnsNotifications => rfl
  | packet | shouldForwardPacket | notification | proceed | select => rfl

open PolicyStore

/-- A coroutine that writes. -/
private theorem write_cases (store : PolicyStore) (index : Nat) :
    store.writes.waiting[index]? = none ∧
        store.step platform (.write index) = store ∨
      ∃ change,
        store.writes.waiting[index]? = some change ∧
          store.step platform (.write index) =
            { store with
              writes :=
                { shared := change.apply store.table
                  waiting := store.writes.waiting.eraseIdx index
                  finished := store.writes.finished ++ [change] }
              changedSince := changedPackage change :: store.changedSince
              changed := changedPackage change :: store.changed } := by
  rw [PolicyStore.step, Launching.step, PolicyStore.written]
  cases waiting : store.writes.waiting[index]? with
  | none => exact Or.inl ⟨rfl, rfl⟩
  | some change => exact Or.inr ⟨change, rfl, rfl⟩

theorem PolicyStore.Follows.change {cache : String → Option Policy}
    {table : PolicyTable} {changed : List String}
    (follows : Follows cache table changed) (change : PolicyChange) :
    Follows cache (change.apply table)
      (changedPackage change :: changed) := by
  intro packageName unchanged
  obtain ⟨own, before⟩ := not_or.mp (unchanged ∘ List.mem_cons.mpr)
  exact
    (follows packageName before).trans
      ((effectivePolicy_change change packageName).trans (if_neg own)).symm

theorem PolicyStore.Follows.setAllSynced {cache : String → Option Policy}
    {table : PolicyTable} {changed : List String}
    (follows : Follows cache table changed) :
    Follows cache (LanAccessPolicyDao.setAllSynced table) changed :=
  fun packageName unchanged =>
    (follows packageName unchanged).trans
      (effectivePolicy_setAllSynced packageName table).symm

theorem PolicyStore.CacheFollows.step (follows : store.CacheFollows)
    (event : StoreEvent) : (store.step platform event).CacheFollows := by
  cases event with
  | choose change => exact ⟨follows.given, follows.selected⟩
  | write index =>
      rcases @write_cases platform store index with
        ⟨-, same⟩ | ⟨change, -, same⟩
      · rw [same]
        exact follows
      · rw [same]
        exact
          ⟨follows.given.change change,
            fun rows selected => (follows.selected rows selected).change _⟩
  | setAllSynced =>
      exact
        ⟨follows.given.setAllSynced,
          fun rows selected => (follows.selected rows selected).setAllSynced⟩
  | getAllLive rows =>
      rw [PolicyStore.step]
      split
      case isTrue fromTable =>
        refine ⟨follows.given, ?_⟩
        intro given isSelected packageName _
        cases isSelected
        exact cacheOf_rows fromTable packageName
      case isFalse other => exact follows
  | onChanged =>
      rw [PolicyStore.step]
      cases selected : store.selected with
      | none => exact follows
      | some rows =>
          refine ⟨follows.selected rows selected, ?_⟩
          intro later none
          cases none
  | firewall event =>
      have rest := @rest_firewallStep platform store event
      have cache := @cache_firewallStep platform store event
      rw [PolicyStore.step]
      refine ⟨?_, ?_⟩
      · rw [cache, rest]
        exact follows.given
      · rw [rest]
        exact follows.selected

private theorem cacheFollows_start (table : PolicyTable)
    (notifications : Notifications) (packetIds : Nat → Int) :
    (PolicyStore.start table notifications packetIds).CacheFollows := by
  refine ⟨?_, fun rows none => by cases none⟩
  intro packageName absent
  have missing : table.find packageName = none := by
    apply KeyedTable.find_eq_none_iff.mpr
    intro row inside same
    exact absent (List.mem_map.mpr ⟨row, inside, same⟩)
  show Policy.default = effectivePolicy packageName table
  rw [effectivePolicy, missing]
  rfl

private theorem chosenIn_concat (initially : Policy)
    (events : List StoreEvent) (event : StoreEvent) :
    chosenIn packageName initially (events ++ [event]) =
      chosenIn packageName (chosenIn packageName initially events)
        [event] :=
  List.foldl_append ..

/-- A step that neither chooses nor writes. -/
private theorem StoresLast.unchanged {initially : Policy}
    {events : List StoreEvent} {after : PolicyStore} {event : StoreEvent}
    (stores : StoresLast packageName initially events store)
    (chosen :
      chosenIn packageName initially (events ++ [event]) =
        chosenIn packageName initially events)
    (waiting : after.writes.waiting = store.writes.waiting)
    (table :
      effectivePolicy packageName after.table =
        effectivePolicy packageName store.table) :
    StoresLast packageName initially (events ++ [event]) after := by
  refine ⟨?_, ?_⟩
  · rw [chosen, waiting]
    exact stores.waiting
  · rw [chosen, waiting, table]
    exact stores.stored

theorem StoresLast.choose {initially : Policy} {events : List StoreEvent}
    (stores : StoresLast packageName initially events store)
    {change : PolicyChange}
    (alike : ChoosesAlike packageName store (.choose change)) :
    StoresLast packageName initially (events ++ [.choose change])
      (store.step platform (.choose change)) := by
  rw [PolicyStore.step, Launching.step]
  by_cases own : packageName = changedPackage change
  · have chosen :
        chosenIn packageName initially (events ++ [.choose change]) =
          chosenPolicy change := by
      rw [chosenIn_concat]
      exact if_pos own
    refine ⟨?_, ?_⟩
    · rw [chosen]
      intro other member named
      rcases List.mem_append.mp member with before | new
      · exact alike own other before named
      · rw [List.mem_singleton.mp new]
    · intro none
      exact
        absurd own (none change (List.mem_append_right _ (by simp)))
  · have chosen :
        chosenIn packageName initially (events ++ [.choose change]) =
          chosenIn packageName initially events := by
      rw [chosenIn_concat]
      exact if_neg own
    refine ⟨?_, ?_⟩
    · rw [chosen]
      intro other member named
      rcases List.mem_append.mp member with before | new
      · exact stores.waiting other before named
      · rw [List.mem_singleton.mp new] at named
        exact absurd named own
    · rw [chosen]
      intro none
      exact
        stores.stored fun other before =>
          none other (List.mem_append_left _ before)

theorem StoresLast.write {initially : Policy} {events : List StoreEvent}
    (stores : StoresLast packageName initially events store)
    (index : Nat) :
    StoresLast packageName initially (events ++ [.write index])
      (store.step platform (.write index)) := by
  have chosen :
      chosenIn packageName initially (events ++ [.write index]) =
        chosenIn packageName initially events :=
    chosenIn_concat ..
  rcases @write_cases platform store index with
    ⟨-, same⟩ | ⟨change, found, same⟩
  · rw [same]
    exact stores.unchanged chosen rfl rfl
  · rw [same]
    refine ⟨?_, ?_⟩
    · rw [chosen]
      intro other member
      exact stores.waiting other (List.mem_of_mem_eraseIdx member)
    · rw [chosen]
      intro none
      refine (effectivePolicy_change change packageName).trans ?_
      by_cases own : packageName = changedPackage change
      · rw [if_pos own]
        exact stores.waiting change (List.mem_of_getElem? found) own
      · rw [if_neg own]
        apply stores.stored
        intro other member
        -- Besides the coroutine that has written, the same ones wait.
        obtain ⟨bound, rfl⟩ := List.getElem?_eq_some_iff.mp found
        have moved := List.getElem_cons_eraseIdx_perm bound
        rcases List.mem_cons.mp (moved.symm.subset member) with
          rfl | remaining
        · exact own
        · exact none other remaining

theorem StoresLast.step {initially : Policy} {events : List StoreEvent}
    (stores : StoresLast packageName initially events store)
    {event : StoreEvent} (alike : ChoosesAlike packageName store event) :
    StoresLast packageName initially (events ++ [event])
      (store.step platform event) := by
  cases event with
  | choose change => exact stores.choose alike
  | write index => exact stores.write index
  | setAllSynced =>
      exact
        stores.unchanged (chosenIn_concat ..) rfl
          (effectivePolicy_setAllSynced packageName store.table)
  | getAllLive rows =>
      rw [PolicyStore.step]
      split
      · exact stores.unchanged (chosenIn_concat ..) rfl rfl
      · exact stores.unchanged (chosenIn_concat ..) rfl rfl
  | onChanged =>
      rw [PolicyStore.step]
      split
      · exact stores.unchanged (chosenIn_concat ..) rfl rfl
      · exact stores.unchanged (chosenIn_concat ..) rfl rfl
  | firewall event =>
      have rest := @rest_firewallStep platform store event
      rw [PolicyStore.step, rest]
      exact stores.unchanged (chosenIn_concat ..) rfl rfl

private theorem storesLast_run (packageName : String)
    {events : List StoreEvent} {table : PolicyTable}
    {notifications : Notifications} {packetIds : Nat → Int}
    (alike :
      StepsMeet (step platform) (ChoosesAlike packageName)
        (PolicyStore.start table notifications packetIds) events) :
    StoresLast packageName (effectivePolicy packageName table) events
      (run (step platform) (PolicyStore.start table notifications packetIds)
        events) := by
  refine
    @run_history_invariant _ _ (step platform) (ChoosesAlike packageName)
      (StoresLast packageName (effectivePolicy packageName table))
      (fun handled store event alike stores => stores.step alike) events []
      (PolicyStore.start table notifications packetIds) ?_ alike
  exact
    ⟨fun change member => absurd member List.not_mem_nil, fun _ => rfl⟩

/-- In every run in which the user makes no choice for an app while another
one for it waits to be written, a TCP or UDP packet of the app whose policy
is looked up once the choices are written, and in the rows selected since
then, is decided on by the policy chosen last. -/
theorem chosen_policy_decides (platform : Platform)
    (notifications : Notifications) (packetIds : Nat → Int)
    (table : PolicyTable) (events : List StoreEvent) (packageName : String)
    (alike :
      StepsMeet (step platform) (ChoosesAlike packageName)
        (PolicyStore.start table notifications packetIds) events)
    (written :
      ∀ change ∈
          (run (step platform)
            (PolicyStore.start table notifications packetIds)
            events).writes.waiting,
        packageName ≠ changedPackage change)
    (given :
      packageName ∉
        (run (step platform)
          (PolicyStore.start table notifications packetIds) events).changed)
    (packetHeader : IPHeader) (transport : packetHeader.isTcpOrUdp = true)
    (packageManager : InstalledPackages) (reads : DecisionReads)
    (lookedUp :
      DecisionField.Agrees reads
        ((run (step platform)
              (PolicyStore.start table notifications packetIds)
              events).firewall.readsNow ⟨packageName, true⟩ packageManager)
        .perAppPolicy) :
    (PolicyEngine.decide
            (decisionInput packetHeader ⟨packageName, true⟩
              reads)).shouldForward =
        true ↔
      chosenIn packageName (effectivePolicy packageName table) events =
          .allow ∨
        chosenIn packageName (effectivePolicy packageName table) events =
            .default ∧
          PolicyEngine.UnsetAppPasses
            (decisionInput packetHeader ⟨packageName, true⟩ reads) := by
  have follows :=
    @run_invariant _ _ (step platform) PolicyStore.CacheFollows
      (fun store event follows => follows.step event) events
      (PolicyStore.start table notifications packetIds)
      (cacheFollows_start table notifications packetIds)
  have stored := (storesLast_run packageName alike).stored written
  have policy :
      (decisionInput packetHeader ⟨packageName, true⟩
            reads).perAppPolicy =
        chosenIn packageName (effectivePolicy packageName table) events :=
    (Eq.trans lookedUp (follows.given packageName given)).trans stored
  have isTransport :
      (decisionInput packetHeader ⟨packageName, true⟩ reads).isTcpOrUdp =
        true := transport
  rw [PolicyEngine.decide_forwards_iff, PolicyEngine.Passes, isTransport,
    if_neg (by simp), if_neg (by simp [decisionInput]), policy]

/-- The user blocks an app that was allowed, and the rows are given. -/
def blockedLater : List StoreEvent :=
  [.choose (.handleUpdateLanPolicy "a" .allow), .write 0,
    .getAllLive [⟨"a", .allow, true⟩], .setAllSynced,
    .choose (.updateLanAccessPolicy "a" .block), .onChanged, .write 0,
    .getAllLive [⟨"a", .block, true⟩], .onChanged]

def sampleHeader : IPHeader where
  source := ⟨.v4 [10, 0, 0, 2], 4000⟩
  destination := ⟨.v4 [10, 0, 0, 1], 80⟩
  protocol := 6
  ipVersion := 4
  size := 40
  canDoDpi := false

def storeBlockedLater : PolicyStore :=
  run (step samplePlatform)
    (PolicyStore.start KeyedTable.empty sampleNotifications fun _ => 0)
    blockedLater

def readsBlockedLater : DecisionReads :=
  storeBlockedLater.firewall.readsNow ⟨"a", true⟩
    (ownedBy "a").packageManager

theorem chosen_policy_decides_blockedLater :
    chosenIn "a" .default blockedLater = .block ∧
      ((PolicyEngine.decide
              (decisionInput sampleHeader ⟨"a", true⟩
                readsBlockedLater)).shouldForward =
          true ↔
        chosenIn "a" (effectivePolicy "a" KeyedTable.empty)
              blockedLater =
            .allow ∨
          chosenIn "a" (effectivePolicy "a" KeyedTable.empty)
                blockedLater =
              .default ∧
            PolicyEngine.UnsetAppPasses
              (decisionInput sampleHeader ⟨"a", true⟩
                readsBlockedLater)) :=
  ⟨by decide +kernel,
    chosen_policy_decides samplePlatform sampleNotifications (fun _ => 0)
      KeyedTable.empty blockedLater "a" (by decide +kernel)
      (by decide +kernel) (by decide +kernel) sampleHeader (by decide)
      (ownedBy "a").packageManager readsBlockedLater rfl⟩

end Runs

end LanShield.VpnService
