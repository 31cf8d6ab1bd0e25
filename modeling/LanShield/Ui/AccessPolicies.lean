import LanShield.Java.Strings
import LanShield.Library.SortedMaps
import LanShield.BackendSync.SyncACL

/-!
# The screen of the per-app exceptions

`LANAccessPoliciesViewModel.getLanAccessPolicies` maps the label of each app
with a stored policy to its row, and `lookupAndFilterLanAccessPolicies` picks
the rows that are shown.  Apps are told apart by their package names, labels
need not be.
-/

namespace LanShield.Ui

open LanShield.Library LanShield.Java
open LanShield.BackendSync (Policy)

/-- The `char`s of a label. -/
abbrev Label := List UInt16

/-- `LanAccessPolicy` with all its columns. -/
structure LanAccessPolicy extends BackendSync.LanAccessPolicy where
  isSystem : Bool
  deriving DecidableEq, Repr

/-- The table `lan_access_policies`. -/
abbrev PolicyTable :=
  KeyedTable fun row : LanAccessPolicy => row.packageName

/-- `packageLabel` of the row's package, which `label` stands for. -/
def packageLabel (label : String → Label) (row : LanAccessPolicy) : Label :=
  label row.packageName

/-- `getAllLive` and `getAllNoSystem`. -/
def storedPolicies (showSystem : Bool) (table : PolicyTable) :
    List LanAccessPolicy :=
  if showSystem then
    table.rows
  else
    table.select fun row => !row.isSystem

/-- `getLanAccessPolicies`. -/
def getLanAccessPolicies (fold : UInt16 → UInt16) (label : String → Label)
    (showSystem : Bool) (table : PolicyTable) :
    SortedMap Label LanAccessPolicy (caseInsensitiveOrder fold) :=
  SortedMap.ofEntries (caseInsensitiveOrder fold)
    (associateBy (packageLabel label) (storedPolicies showSystem table))

/-- `lookupAndFilterLanAccessPolicies`. -/
def lookupAndFilterLanAccessPolicies (fold : UInt16 → UInt16)
    (allInstalledAppsWithDefaultPolicy :
      SortedMap Label LanAccessPolicy compare)
    (nonDefaultLanAccessPolicies :
      SortedMap Label LanAccessPolicy (caseInsensitiveOrder fold))
    (policyFilter : Policy) (searchQuery : String) :
    SortedMap Label LanAccessPolicy compare :=
  let lanAccessPolicies :=
    if policyFilter = .default then
      (SortedMap.ofEntries compare
          allInstalledAppsWithDefaultPolicy.toList).putAll
        nonDefaultLanAccessPolicies.toList
    else
      SortedMap.ofEntries compare
        (nonDefaultLanAccessPolicies.toList.filter fun entry =>
          entry.2.accessPolicy = policyFilter)
  if isBlank searchQuery then
    lanAccessPolicies
  else
    SortedMap.ofEntries compare
      (lanAccessPolicies.toList.filter fun entry =>
        containsIgnoringCase fold entry.1 (chars searchQuery) ||
          containsIgnoringCase fold (chars entry.2.packageName)
            (chars searchQuery))

/-- The fields of `ApplicationInfo` the screen reads. -/
structure ApplicationInfo where
  packageName : String
  isSystem : Bool
  deriving DecidableEq, Repr

/-- `packageInfoToLanAccessPolicy`. -/
def packageInfoToLanAccessPolicy (applicationInfo : ApplicationInfo) :
    LanAccessPolicy where
  packageName := applicationInfo.packageName
  accessPolicy := .default
  shouldSync := true
  isSystem := applicationInfo.isSystem

/-- `installedAppsWithDefaultPolicy` of `LANAccessPoliciesRoute`, for the app
named `ownPackage`. -/
def installedAppsWithDefaultPolicy (label : String → Label)
    (ownPackage : String) (showSystem : Bool)
    (applications : List ApplicationInfo) :
    SortedMap Label LanAccessPolicy compare :=
  SortedMap.ofEntries compare
    (associateBy (packageLabel label)
      ((applications.filter fun application =>
          application.packageName ≠ ownPackage ∧
            (showSystem = true ∨ application.isSystem = false)).map
        packageInfoToLanAccessPolicy))

/-- A map of installed apps, with their labels as keys. -/
structure InstalledApps (label : String → Label) where
  map : SortedMap Label LanAccessPolicy compare
  labelled :
    ∀ key row, map[key]? = some row → packageLabel label row = key

/-- The map the screen makes. -/
def InstalledApps.ofApplications (label : String → Label)
    (ownPackage : String) (showSystem : Bool)
    (applications : List ApplicationInfo) : InstalledApps label where
  map :=
    installedAppsWithDefaultPolicy label ownPackage showSystem applications
  labelled := by
    intro key row found
    exact (of_mem_associateBy (SortedMap.mem_of_getElem?_ofEntries found)).2

section Screen

variable {table : PolicyTable} {label : String → Label}
  {fold : UInt16 → UInt16}
  {installed : SortedMap Label LanAccessPolicy compare}
  {key : Label} {row : LanAccessPolicy} {policy : Policy}
  {searchQuery : String}

/-- The labels of stored rows differ, also when case is ignored. -/
def LabelsDiffer (table : PolicyTable) (label : String → Label)
    (fold : UInt16 → UInt16) : Prop :=
  ∀ row ∈ table, ∀ other ∈ table,
    caseInsensitiveOrder fold (packageLabel label row)
        (packageLabel label other) =
      .eq →
    row = other

/-- What is shown of the stored rows for a filter and a query. -/
def shown (table : PolicyTable) (label : String → Label)
    (fold : UInt16 → UInt16)
    (installed : SortedMap Label LanAccessPolicy compare)
    (policyFilter : Policy) (searchQuery : String) :
    SortedMap Label LanAccessPolicy compare :=
  lookupAndFilterLanAccessPolicies fold installed
    (getLanAccessPolicies fold label true table) policyFilter searchQuery

/-- No exception is hidden. -/
structure ShowsExceptions (table : PolicyTable) (label : String → Label)
    (fold : UInt16 → UInt16)
    (installed : SortedMap Label LanAccessPolicy compare)
    (searchQuery : String) : Prop where
  all :
    ∀ row ∈ table,
      (shown table label fold installed .default searchQuery).Contains row
  exactly :
    ∀ policy, policy ≠ .default →
      ∀ row,
        (shown table label fold installed policy searchQuery).Contains row ↔
          row ∈ table ∧ row.accessPolicy = policy

private theorem shown_default (blank : isBlank searchQuery = true) :
    shown table label fold installed .default searchQuery =
      installed.putAll
        (getLanAccessPolicies fold label true table).toList := by
  rw [shown, lookupAndFilterLanAccessPolicies, if_pos blank, if_pos rfl,
    SortedMap.ofEntries_toList]

private theorem shown_policy (blank : isBlank searchQuery = true)
    (other : policy ≠ .default) :
    shown table label fold installed policy searchQuery =
      SortedMap.ofEntries compare
        ((getLanAccessPolicies fold label true table).toList.filter
          fun entry => entry.2.accessPolicy = policy) := by
  rw [shown, lookupAndFilterLanAccessPolicies, if_pos blank, if_neg other]

/-! ### The map of the view model -/

/-- A value of the map is a stored row whose label is its key, up to case. -/
private theorem of_getLanAccessPolicies
    (found :
      (getLanAccessPolicies fold label true table)[key]? = some row) :
    row ∈ table ∧
      caseInsensitiveOrder fold (packageLabel label row) key = .eq := by
  rcases SortedMap.getElem?_putAll
      (∅ : SortedMap Label LanAccessPolicy (caseInsensitiveOrder fold))
      (associateBy (packageLabel label) (storedPolicies true table)) key with
    ⟨entry, inside, same, value⟩ | ⟨-, absent⟩
  · rw [getLanAccessPolicies, SortedMap.ofEntries, value,
      Option.some.injEq] at found
    obtain ⟨member, labelled⟩ := of_mem_associateBy inside
    rw [found] at member labelled
    exact ⟨member, by rw [labelled, same]⟩
  · rw [getLanAccessPolicies, SortedMap.ofEntries, absent,
      Std.ExtTreeMap.getElem?_empty] at found
    cases found

/-- The entries that decide about the label of a stored row. -/
private theorem decides_label (label : String → Label)
    (fold : UInt16 → UInt16)
    (stored : row ∈ table) :
    ∃ first last,
      SortedMap.Decides
        (associateBy (packageLabel label) (storedPolicies true table))
        (getLanAccessPolicies fold label true table)
        (packageLabel label row) first last := by
  have nodup :=
    nodup_associateBy (packageLabel label) (storedPolicies true table)
  rcases @SortedMap.ofEntries_decides _ _ (caseInsensitiveOrder fold) _ _
      nodup (packageLabel label row) with ⟨different, -⟩ | found
  · obtain ⟨entry, inside, same⟩ :=
      @exists_mem_associateBy _ _ _ (packageLabel label)
        (storedPolicies true table) row stored
    apply absurd _ (different entry inside)
    rw [same]
    exact Std.ReflCmp.compare_self
  · exact found

/-- If the labels differ, every row is in the map under its label. -/
theorem LabelsDiffer.mem_toList (differ : LabelsDiffer table label fold)
    (stored : row ∈ table) :
    (packageLabel label row, row) ∈
      (getLanAccessPolicies fold label true table).toList := by
  obtain ⟨first, last, decides⟩ := decides_label label fold stored
  have same {entry : Label × LanAccessPolicy}
      (inside :
        entry ∈ associateBy (packageLabel label) (storedPolicies true table))
      (equal :
        caseInsensitiveOrder fold entry.1 (packageLabel label row) = .eq) :
      entry = (packageLabel label row, row) := by
    obtain ⟨member, labelled⟩ := of_mem_associateBy inside
    have row_eq : entry.2 = row :=
      differ _ member _ stored (by rw [labelled, equal])
    rw [← row_eq, labelled]
  rw [SortedMap.mem_toList_iff, decides.getKey, decides.getElem,
    same decides.first_mem decides.first_eq,
    same decides.last_mem decides.last_eq]
  exact ⟨rfl, rfl⟩

private theorem LabelsDiffer.showsExceptions
    (differ : LabelsDiffer table label fold)
    (blank : isBlank searchQuery = true) :
    ShowsExceptions table label fold installed searchQuery where
  all := by
    intro row stored
    rw [shown_default blank]
    exact
      ⟨_, SortedMap.getElem?_putAll_of_mem (SortedMap.nodup_toList _)
        (differ.mem_toList stored)⟩
  exactly := by
    intro policy other row
    have nodup :
        (((getLanAccessPolicies fold label true table).toList.filter
            fun entry => entry.2.accessPolicy = policy).map
          Prod.fst).Nodup :=
      (SortedMap.nodup_toList _).sublist (List.filter_sublist.map Prod.fst)
    rw [shown_policy blank other, SortedMap.contains_ofEntries nodup]
    constructor
    · rintro ⟨key, inside⟩
      obtain ⟨member, chosen⟩ := List.mem_filter.mp inside
      have found := (SortedMap.mem_toList_iff.mp member).2
      exact ⟨(of_getLanAccessPolicies found).1, of_decide_eq_true chosen⟩
    · rintro ⟨stored, chosen⟩
      exact
        ⟨_, List.mem_filter.mpr
          ⟨differ.mem_toList stored, decide_eq_true chosen⟩⟩

/-- A row on the screen that has the place of `first` up to case has the value
there, or it is an installed app with another label. -/
private theorem value_or_elsewhere {installed : InstalledApps label}
    {entries : List (Label × LanAccessPolicy)}
    {first last : Label × LanAccessPolicy}
    (decides :
      SortedMap.Decides entries (getLanAccessPolicies fold label true table)
        key first last)
    (same : caseInsensitiveOrder fold (packageLabel label row) key = .eq)
    (onScreen :
      (installed.map.putAll
        (getLanAccessPolicies fold label true table).toList).Contains row) :
    row = last.2 ∨ packageLabel label row ≠ first.1 := by
  obtain ⟨place, found⟩ := onScreen
  rcases SortedMap.getElem?_putAll installed.map
      (getLanAccessPolicies fold label true table).toList place with
    ⟨entry, inside, -, value⟩ | ⟨different, value⟩
  · left
    rw [value, Option.some.injEq] at found
    have stored := (SortedMap.mem_toList_iff.mp inside).2
    rw [found] at stored
    have near := (of_getLanAccessPolicies stored).2
    have equal : caseInsensitiveOrder fold entry.1 key = .eq := by
      rw [← Std.TransCmp.congr_left near, same]
    rw [Std.ExtTreeMap.getElem?_congr equal, decides.getElem,
      Option.some.injEq] at stored
    exact stored.symm
  · right
    rw [value] at found
    rw [installed.labelled _ _ found]
    rintro rfl
    exact different _ decides.mem_toList Std.ReflCmp.compare_self

/-- Of stored rows with one label up to case, the row the place belongs to is
the one that is shown, so there is no other. -/
private theorem LabelsDiffer.of_showsExceptions
    (installed : InstalledApps label)
    (blank : isBlank searchQuery = true)
    (shows :
      ShowsExceptions table label fold installed.map searchQuery) :
    LabelsDiffer table label fold := by
  intro row stored other otherStored same
  obtain ⟨first, last, decides⟩ := decides_label label fold otherStored
  have shown_here {row : LanAccessPolicy} (inside : row ∈ table)
      (near :
        caseInsensitiveOrder fold (packageLabel label row)
            (packageLabel label other) =
          .eq) :
      row = last.2 ∨ packageLabel label row ≠ first.1 := by
    apply value_or_elsewhere decides near
    rw [← shown_default blank]
    exact shows.all row inside
  have one : first.1 = last.1 := by
    obtain ⟨firstStored, firstLabel⟩ := of_mem_associateBy decides.first_mem
    obtain ⟨-, lastLabel⟩ := of_mem_associateBy decides.last_mem
    have near := decides.first_eq
    rw [← firstLabel] at near
    have value : first.2 = last.2 :=
      (shown_here firstStored near).resolve_right (· firstLabel)
    rw [← firstLabel, value, lastLabel]
  have value {row : LanAccessPolicy} (inside : row ∈ table)
      (near :
        caseInsensitiveOrder fold (packageLabel label row)
            (packageLabel label other) =
          .eq) :
      row = last.2 := by
    obtain ⟨entry, member, labelled⟩ :=
      @exists_mem_associateBy _ _ _ (packageLabel label)
        (storedPolicies true table) row inside
    rw [← labelled] at near
    have only := decides.alone one entry member near
    rw [labelled] at near only
    refine (shown_here inside near).resolve_right (· ?_)
    rw [only, one]
  rw [value stored same, value otherStored Std.ReflCmp.compare_self]

/-- The screen shows all exceptions exactly if their labels differ. -/
theorem showsExceptions_iff (table : PolicyTable) (label : String → Label)
    (fold : UInt16 → UInt16) (blank : isBlank searchQuery = true) :
    ((∀ installed,
        ShowsExceptions table label fold installed searchQuery) ↔
      LabelsDiffer table label fold) ∧
    ∀ installed : InstalledApps label,
      ShowsExceptions table label fold installed.map searchQuery ↔
        LabelsDiffer table label fold := by
  have perMap (installed : InstalledApps label) :
      ShowsExceptions table label fold installed.map searchQuery ↔
        LabelsDiffer table label fold := by
    constructor
    · exact LabelsDiffer.of_showsExceptions installed blank
    · intro differ
      exact differ.showsExceptions blank
  refine ⟨⟨?_, ?_⟩, perMap⟩
  · intro shows
    exact (perMap ⟨∅, by simp⟩).mp (shows ∅)
  · intro differ installed
    exact differ.showsExceptions blank

end Screen

/-- Lower case of the basic letters. -/
def lowerCase (letter : UInt16) : UInt16 :=
  if 0x41 ≤ letter ∧ letter ≤ 0x5A then letter + 0x20 else letter

/-- A blocked app and an allowed app. -/
def twoApps : PolicyTable where
  rows :=
    [⟨⟨"org.first", .block, true⟩, false⟩,
      ⟨⟨"org.second", .allow, true⟩, false⟩]
  distinct := by decide

def twoLabels (packageName : String) : Label :=
  if packageName = "org.first" then chars "Files" else chars "files"

def twoInstalled : InstalledApps twoLabels :=
  .ofApplications twoLabels "org.distrinet.lanshield" true
    [⟨"org.first", false⟩, ⟨"org.second", false⟩]

theorem showsExceptions_iff_twoApps :
    ((∀ installed,
        ShowsExceptions twoApps twoLabels lowerCase installed "") ↔
      LabelsDiffer twoApps twoLabels lowerCase) ∧
    ∀ installed : InstalledApps twoLabels,
      ShowsExceptions twoApps twoLabels lowerCase installed.map "" ↔
        LabelsDiffer twoApps twoLabels lowerCase :=
  showsExceptions_iff twoApps twoLabels lowerCase (by decide)

/-- The blocked app is hidden. -/
theorem twoApps_hidden :
    isBlank "" = true ∧
      ¬ ShowsExceptions twoApps twoLabels lowerCase twoInstalled.map "" := by
  refine ⟨by decide, ?_⟩
  intro shows
  obtain ⟨key, found⟩ :=
    shows.all ⟨⟨"org.first", .block, true⟩, false⟩ List.mem_cons_self
  have listed := Std.ExtTreeMap.mem_toList_iff_getElem?_eq_some.mpr found
  have whole :
      (shown twoApps twoLabels lowerCase twoInstalled.map .default "").toList =
        [(chars "Files", ⟨⟨"org.second", .allow, true⟩, false⟩),
          (chars "files", ⟨⟨"org.second", .default, true⟩, false⟩)] := by
    decide +kernel
  rw [whole] at listed
  simp at listed

end LanShield.Ui
