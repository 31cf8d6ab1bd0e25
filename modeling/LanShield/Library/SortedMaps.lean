import Mathlib.Data.List.Induction
import Mathlib.Data.List.Nodup

/-!
# Maps that keep their first keys

An entry put in for a key that is there already replaces the value and leaves
the key.  The keys of a map are in the order they were put in, or they are
sorted by an order under which different keys may be equal.
-/

namespace LanShield.Library

section Linked

variable {Row Key Value : Type} [DecidableEq Key] {label : Row → Key}
  {rows : List Row} {row : Row}

/-- Put a value into a map that is the list of its entries. -/
def linkedPut (key : Key) (value : Value) :
    List (Key × Value) → List (Key × Value)
  | [] => [(key, value)]
  | entry :: rest =>
      if entry.1 = key then
        (key, value) :: rest
      else
        entry :: linkedPut key value rest

/-- The map from the labels of rows to the rows. -/
def associateBy (label : Row → Key) (rows : List Row) : List (Key × Row) :=
  rows.foldl (fun entries row => linkedPut (label row) row entries) []

private theorem keys_linkedPut (key : Key) (value : Value)
    (entries : List (Key × Value)) :
    (linkedPut key value entries).map Prod.fst =
      if key ∈ entries.map Prod.fst then
        entries.map Prod.fst
      else
        entries.map Prod.fst ++ [key] := by
  induction entries with
  | nil => rfl
  | cons entry rest inductionHypothesis =>
      rw [linkedPut]
      by_cases same : entry.1 = key
      · simp [same]
      · rw [if_neg same, List.map_cons, inductionHypothesis]
        simp only [List.map_cons, List.mem_cons, Ne.symm same, false_or]
        split
        · rfl
        · rfl

private theorem mem_linkedPut_self (key : Key) (value : Value)
    (entries : List (Key × Value)) :
    (key, value) ∈ linkedPut key value entries := by
  induction entries with
  | nil => exact List.mem_singleton_self _
  | cons entry rest inductionHypothesis =>
      rw [linkedPut]
      split
      · exact List.mem_cons_self
      · exact List.mem_cons_of_mem _ inductionHypothesis

private theorem eq_or_mem_of_mem_linkedPut {key : Key} {value : Value}
    {entries : List (Key × Value)} {entry : Key × Value}
    (inside : entry ∈ linkedPut key value entries) :
    entry = (key, value) ∨ entry ∈ entries := by
  induction entries with
  | nil => exact Or.inl (List.mem_singleton.mp inside)
  | cons first rest inductionHypothesis =>
      rw [linkedPut] at inside
      split at inside
      · exact (List.mem_cons.mp inside).imp_right (List.mem_cons_of_mem _)
      · rcases List.mem_cons.mp inside with rfl | later
        · exact Or.inr List.mem_cons_self
        · exact (inductionHypothesis later).imp_right (List.mem_cons_of_mem _)

private theorem associateBy_append_singleton (label : Row → Key)
    (rows : List Row)
    (row : Row) :
    associateBy label (rows ++ [row]) =
      linkedPut (label row) row (associateBy label rows) := by
  rw [associateBy, List.foldl_append]
  rfl

theorem nodup_associateBy (label : Row → Key) (rows : List Row) :
    ((associateBy label rows).map Prod.fst).Nodup := by
  induction rows using List.reverseRecOn with
  | nil => exact List.nodup_nil
  | append_singleton rows row inductionHypothesis =>
      rw [associateBy_append_singleton, keys_linkedPut]
      split
      case isTrue old => exact inductionHypothesis
      case isFalse new =>
        rw [List.nodup_append]
        refine ⟨inductionHypothesis, List.nodup_singleton _, ?_⟩
        rintro key inside other member rfl
        rw [List.mem_singleton.mp member] at inside
        exact new inside

/-- An entry is one of the rows under its label. -/
theorem of_mem_associateBy {entry : Key × Row}
    (inside : entry ∈ associateBy label rows) :
    entry.2 ∈ rows ∧ label entry.2 = entry.1 := by
  induction rows using List.reverseRecOn with
  | nil => cases inside
  | append_singleton rows row inductionHypothesis =>
      rw [associateBy_append_singleton] at inside
      rcases eq_or_mem_of_mem_linkedPut inside with rfl | old
      · exact ⟨List.mem_append_right _ (List.mem_singleton_self _), rfl⟩
      · exact (inductionHypothesis old).imp_left (List.mem_append_left _)

/-- The label of every row is a key. -/
theorem exists_mem_associateBy (inside : row ∈ rows) :
    ∃ entry ∈ associateBy label rows, entry.1 = label row := by
  induction rows using List.reverseRecOn with
  | nil => cases inside
  | append_singleton rows last inductionHypothesis =>
      rw [associateBy_append_singleton]
      rcases List.mem_append.mp inside with old | added
      · obtain ⟨entry, member, same⟩ := inductionHypothesis old
        have key :
            label row ∈ (linkedPut (label last) last
              (associateBy label rows)).map Prod.fst := by
          rw [keys_linkedPut]
          have before : label row ∈ (associateBy label rows).map Prod.fst :=
            List.mem_map.mpr ⟨entry, member, same⟩
          split
          · exact before
          · exact List.mem_append_left _ before
        exact List.mem_map.mp key
      · rw [List.mem_singleton.mp added]
        exact ⟨_, mem_linkedPut_self _ _ _, rfl⟩

end Linked

/-- A map sorted by `order`. -/
abbrev SortedMap (Key Value : Type) (order : Key → Key → Ordering) :=
  Std.ExtTreeMap Key Value order

namespace SortedMap

variable {Key Value : Type} {order : Key → Key → Ordering}
  [Std.TransCmp order]

def put (map : SortedMap Key Value order) (key : Key) (value : Value) :
    SortedMap Key Value order :=
  map.insert ((map.getKey? key).getD key) value

def putAll (map : SortedMap Key Value order) (entries : List (Key × Value)) :
    SortedMap Key Value order :=
  entries.foldl (fun map entry => map.put entry.1 entry.2) map

/-- The map that `entries` are put into one after the other. -/
def ofEntries (order : Key → Key → Ordering) [Std.TransCmp order]
    (entries : List (Key × Value)) : SortedMap Key Value order :=
  putAll ∅ entries

/-- Some key has the value. -/
def Contains (map : SortedMap Key Value order) (value : Value) : Prop :=
  ∃ key : Key, map[key]? = some value

section Put

variable {map : SortedMap Key Value order} {key other : Key} {value : Value}

/-- The key under which a value is put is the same up to the order. -/
private theorem order_keptKey (map : SortedMap Key Value order) (key : Key) :
    order ((map.getKey? key).getD key) key = .eq := by
  have kept := @Std.ExtTreeMap.compare_getKey?_self _ _ _ map _ key
  cases found : map.getKey? key with
  | none => exact Std.ReflCmp.compare_self
  | some first =>
      rw [found] at kept
      simpa using kept

theorem getElem?_put :
    (map.put key value)[other]? =
      if order key other = .eq then some value else map[other]? := by
  rw [put, Std.ExtTreeMap.getElem?_insert,
    Std.TransCmp.congr_left (order_keptKey map key)]

theorem getKey?_put :
    (map.put key value).getKey? other =
      if order key other = .eq then some ((map.getKey? other).getD key)
      else map.getKey? other := by
  rw [put, Std.ExtTreeMap.getKey?_insert,
    Std.TransCmp.congr_left (order_keptKey map key)]
  split
  case isTrue same => rw [Std.ExtTreeMap.getKey?_congr same]
  case isFalse different => rfl

end Put

section PutAll

variable {entries : List (Key × Value)} {key : Key} {value : Value}

private theorem putAll_append_singleton (map : SortedMap Key Value order)
    (entries : List (Key × Value)) (entry : Key × Value) :
    map.putAll (entries ++ [entry]) =
      (map.putAll entries).put entry.1 entry.2 := by
  rw [putAll, List.foldl_append]
  rfl

/-- A key has the value of an entry that is put in, or its old value. -/
theorem getElem?_putAll (map : SortedMap Key Value order)
    (entries : List (Key × Value)) (key : Key) :
    (∃ entry ∈ entries, order entry.1 key = .eq ∧
        (map.putAll entries)[key]? = some entry.2) ∨
      (∀ entry ∈ entries, order entry.1 key ≠ .eq) ∧
        (map.putAll entries)[key]? = map[key]? := by
  induction entries using List.reverseRecOn with
  | nil => exact Or.inr ⟨List.forall_mem_nil _, rfl⟩
  | append_singleton entries entry inductionHypothesis =>
      rw [putAll_append_singleton, getElem?_put]
      by_cases same : order entry.1 key = .eq
      · rw [if_pos same]
        exact Or.inl ⟨entry, by simp, same, rfl⟩
      · rw [if_neg same]
        rcases inductionHypothesis with
          ⟨other, inside, equal, found⟩ | ⟨different, kept⟩
        · exact Or.inl ⟨other, by simp [inside], equal, found⟩
        · refine Or.inr ⟨?_, kept⟩
          rw [List.forall_mem_append, List.forall_mem_singleton]
          exact ⟨different, same⟩

end PutAll

/-- Which entries a key has its place and its value from. -/
structure Decides (entries : List (Key × Value))
    (map : SortedMap Key Value order) (key : Key)
    (first last : Key × Value) : Prop where
  first_mem : first ∈ entries
  first_eq : order first.1 key = .eq
  last_mem : last ∈ entries
  last_eq : order last.1 key = .eq
  getKey : map.getKey? key = some first.1
  getElem : map[key]? = some last.2
  alone :
    first.1 = last.1 →
      ∀ entry ∈ entries, order entry.1 key = .eq → entry.1 = last.1

section OfEntries

variable {entries : List (Key × Value)} {map : SortedMap Key Value order}
  {key : Key} {first last entry : Key × Value}

private theorem decides_new
    (different : ∀ other ∈ entries, order other.1 key ≠ .eq)
    (absent : map.getKey? key = none) (same : order entry.1 key = .eq) :
    Decides (entries ++ [entry]) (map.put entry.1 entry.2) key entry
      entry where
  first_mem := List.mem_append_right _ (List.mem_singleton_self _)
  first_eq := same
  last_mem := List.mem_append_right _ (List.mem_singleton_self _)
  last_eq := same
  getKey := by
    rw [getKey?_put, if_pos same, absent]
    rfl
  getElem := by rw [getElem?_put, if_pos same]
  alone := by
    intro _ other inside equal
    rcases List.mem_append.mp inside with old | added
    · exact absurd equal (different other old)
    · rw [List.mem_singleton.mp added]

private theorem Decides.put_same
    (decides : Decides entries map key first last)
    (same : order entry.1 key = .eq) (new : first.1 ≠ entry.1) :
    Decides (entries ++ [entry]) (map.put entry.1 entry.2) key first
      entry where
  first_mem := List.mem_append_left _ decides.first_mem
  first_eq := decides.first_eq
  last_mem := List.mem_append_right _ (List.mem_singleton_self _)
  last_eq := same
  getKey := by
    rw [getKey?_put, if_pos same, decides.getKey]
    rfl
  getElem := by rw [getElem?_put, if_pos same]
  alone := fun one => absurd one new

private theorem Decides.put_other
    (decides : Decides entries map key first last)
    (different : order entry.1 key ≠ .eq) :
    Decides (entries ++ [entry]) (map.put entry.1 entry.2) key first
      last where
  first_mem := List.mem_append_left _ decides.first_mem
  first_eq := decides.first_eq
  last_mem := List.mem_append_left _ decides.last_mem
  last_eq := decides.last_eq
  getKey := by rw [getKey?_put, if_neg different, decides.getKey]
  getElem := by rw [getElem?_put, if_neg different, decides.getElem]
  alone := by
    intro one other inside equal
    rcases List.mem_append.mp inside with old | added
    · exact decides.alone one other old equal
    · rw [List.mem_singleton.mp added] at equal
      exact absurd equal different

/-- The place and the value belong together. -/
theorem Decides.mem_toList (decides : Decides entries map key first last) :
    (first.1, last.2) ∈ map.toList := by
  apply Std.ExtTreeMap.mem_toList_iff_getKey?_eq_some_and_getElem?_eq_some.mpr
  constructor
  · rw [Std.ExtTreeMap.getKey?_congr decides.first_eq, decides.getKey]
  · rw [Std.ExtTreeMap.getElem?_congr decides.first_eq, decides.getElem]

/-- The first of the equal keys stays, the value is that of the last. -/
theorem ofEntries_decides (nodup : (entries.map Prod.fst).Nodup)
    (key : Key) :
    ((∀ entry ∈ entries, order entry.1 key ≠ .eq) ∧
        (ofEntries order entries).getKey? key = none) ∨
      ∃ first last,
        Decides entries (ofEntries order entries) key first last := by
  induction entries using List.reverseRecOn with
  | nil => exact Or.inl ⟨List.forall_mem_nil _, Std.ExtTreeMap.getKey?_empty⟩
  | append_singleton entries entry inductionHypothesis =>
      rw [List.map_append, List.map_singleton, List.nodup_append] at nodup
      obtain ⟨nodup, -, fresh⟩ := nodup
      have new {other : Key × Value} (inside : other ∈ entries) :
          other.1 ≠ entry.1 :=
        fresh _ (List.mem_map_of_mem inside) _ (List.mem_singleton_self _)
      have step :
          ofEntries order (entries ++ [entry]) =
            (ofEntries order entries).put entry.1 entry.2 :=
        putAll_append_singleton ∅ entries entry
      rw [step]
      by_cases same : order entry.1 key = .eq
      · right
        rcases inductionHypothesis nodup with
          ⟨different, absent⟩ | ⟨first, last, decides⟩
        · exact ⟨entry, entry, decides_new different absent same⟩
        · exact ⟨first, entry, decides.put_same same (new decides.first_mem)⟩
      · rcases inductionHypothesis nodup with
          ⟨different, absent⟩ | ⟨first, last, decides⟩
        · left
          rw [getKey?_put, if_neg same, List.forall_mem_append,
            List.forall_mem_singleton]
          exact ⟨⟨different, same⟩, absent⟩
        · exact Or.inr ⟨first, last, decides.put_other same⟩

end OfEntries

section ToList

variable {map : SortedMap Key Value order} {key : Key} {value : Value}

theorem mem_toList_iff :
    (key, value) ∈ map.toList ↔
      map.getKey? key = some key ∧ map[key]? = some value :=
  Std.ExtTreeMap.mem_toList_iff_getKey?_eq_some_and_getElem?_eq_some

theorem nodup_toList (map : SortedMap Key Value order) :
    (map.toList.map Prod.fst).Nodup := by
  rw [List.Nodup, List.pairwise_map]
  exact Std.ExtTreeMap.distinct_keys_toList.imp Std.ReflCmp.ne_of_cmp_ne_eq

end ToList

section Lawful

variable [Std.LawfulEqCmp order] {entries : List (Key × Value)}
  {map : SortedMap Key Value order} {key : Key} {value : Value}

theorem getElem?_putAll_of_mem (nodup : (entries.map Prod.fst).Nodup)
    (inside : (key, value) ∈ entries) :
    (map.putAll entries)[key]? = some value := by
  rcases getElem?_putAll map entries key with
    ⟨⟨other, last⟩, member, same, found⟩ | ⟨different, -⟩
  · have equal : other = key := Std.LawfulEqCmp.eq_of_compare same
    have entry : (other, last) = (key, value) :=
      List.inj_on_of_nodup_map nodup member inside equal
    rw [found, (Prod.mk.inj entry).2]
  · exact absurd Std.ReflCmp.compare_self (different _ inside)

theorem mem_of_getElem?_ofEntries
    (found : (ofEntries order entries)[key]? = some value) :
    (key, value) ∈ entries := by
  rcases getElem?_putAll (∅ : SortedMap Key Value order) entries key with
    ⟨⟨other, last⟩, member, same, last_eq⟩ | ⟨-, absent⟩
  · have equal : other = key := Std.LawfulEqCmp.eq_of_compare same
    rw [ofEntries, last_eq, Option.some.injEq] at found
    rw [← equal, ← found]
    exact member
  · rw [ofEntries, absent, Std.ExtTreeMap.getElem?_empty] at found
    cases found

theorem contains_ofEntries (nodup : (entries.map Prod.fst).Nodup) :
    (ofEntries order entries).Contains value ↔
      ∃ key, (key, value) ∈ entries := by
  constructor
  · rintro ⟨key, found⟩
    exact ⟨key, mem_of_getElem?_ofEntries found⟩
  · rintro ⟨key, inside⟩
    exact ⟨key, getElem?_putAll_of_mem nodup inside⟩

theorem ofEntries_toList (map : SortedMap Key Value order) :
    ofEntries order map.toList = map := by
  apply Std.ExtTreeMap.ext_getElem?
  intro key
  rcases getElem?_putAll (∅ : SortedMap Key Value order) map.toList key with
    ⟨⟨other, value⟩, member, same, found⟩ | ⟨different, absent⟩
  · have equal : other = key := Std.LawfulEqCmp.eq_of_compare same
    subst equal
    rw [ofEntries, found, (mem_toList_iff.mp member).2]
  · rw [ofEntries, absent, Std.ExtTreeMap.getElem?_empty, eq_comm,
      Option.eq_none_iff_forall_ne_some]
    intro value found
    have member := Std.ExtTreeMap.mem_toList_iff_getElem?_eq_some.mpr found
    exact different _ member Std.ReflCmp.compare_self

end Lawful

end SortedMap

end LanShield.Library
