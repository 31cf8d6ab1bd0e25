import Mathlib.Data.List.Nodup

/-!
# Tables with a primary key

The rows of a database table, no two of which have the same key, and the
statements that change it.
-/

namespace LanShield.Library

/-- A table whose rows have the primary key `key`. -/
structure KeyedTable {Row Key : Type*} (key : Row → Key) where
  rows : List Row
  distinct : (rows.map key).Nodup

namespace KeyedTable

variable {Row Key : Type*} {key : Row → Key}

instance : Membership Row (KeyedTable key) :=
  ⟨fun table row => row ∈ table.rows⟩

private theorem mem_rows {table : KeyedTable key} {row : Row} :
    row ∈ table.rows ↔ row ∈ table :=
  Iff.rfl

instance (table : KeyedTable key) (holds : Row → Prop)
    [DecidablePred holds] : Decidable (∀ row ∈ table, holds row) :=
  inferInstanceAs (Decidable (∀ row ∈ table.rows, holds row))

instance (table : KeyedTable key) (holds : Row → Prop)
    [DecidablePred holds] : Decidable (∃ row ∈ table, holds row) :=
  inferInstanceAs (Decidable (∃ row ∈ table.rows, holds row))

def empty : KeyedTable key where
  rows := []
  distinct := List.nodup_nil

/-- The key determines the row. -/
theorem eq_of_key {table : KeyedTable key} {row other : Row}
    (inside : row ∈ table) (otherInside : other ∈ table)
    (same : key row = key other) : row = other :=
  List.inj_on_of_nodup_map table.distinct inside otherInside same

/-- `SELECT … WHERE`. -/
def select (table : KeyedTable key) (wanted : Row → Bool) : List Row :=
  table.rows.filter wanted

theorem mem_select {table : KeyedTable key} {wanted : Row → Bool}
    {row : Row} :
    row ∈ table.select wanted ↔ row ∈ table ∧ wanted row = true :=
  List.mem_filter

theorem nodup_select (table : KeyedTable key) (wanted : Row → Bool) :
    ((table.select wanted).map key).Nodup :=
  table.distinct.sublist (List.filter_sublist.map key)

/-- `DELETE … WHERE`. -/
def deleteWhere (unwanted : Row → Bool) (table : KeyedTable key) :
    KeyedTable key where
  rows := table.rows.filter fun row => !unwanted row
  distinct := table.distinct.sublist (List.filter_sublist.map key)

theorem mem_deleteWhere {table : KeyedTable key} {unwanted : Row → Bool}
    {row : Row} :
    row ∈ table.deleteWhere unwanted ↔
      row ∈ table ∧ unwanted row = false := by
  rw [← mem_rows, deleteWhere, List.mem_filter, Bool.not_eq_true', mem_rows]

/-- `UPDATE … WHERE`, of columns outside the key. -/
def update (wanted : Row → Bool) (change : Row → Row)
    (keeps : ∀ row, wanted row = true → key (change row) = key row)
    (table : KeyedTable key) : KeyedTable key where
  rows := table.rows.map fun row => if wanted row then change row else row
  distinct := by
    have same :
        (key ∘ fun row => if wanted row then change row else row) = key := by
      funext row
      by_cases chosen : wanted row = true
      · simp [chosen, keeps row chosen]
      · simp [chosen]
    rw [List.map_map, same]
    exact table.distinct

theorem mem_update {table : KeyedTable key} {wanted : Row → Bool}
    {change : Row → Row}
    {keeps : ∀ row, wanted row = true → key (change row) = key row}
    {row : Row} :
    row ∈ table.update wanted change keeps ↔
      (∃ old ∈ table, wanted old = true ∧ row = change old) ∨
        row ∈ table ∧ wanted row = false := by
  rw [← mem_rows, update, List.mem_map]
  constructor
  · rintro ⟨old, inside, rfl⟩
    by_cases chosen : wanted old = true
    · exact Or.inl ⟨old, inside, chosen, if_pos chosen⟩
    · rw [if_neg chosen]
      exact Or.inr ⟨inside, Bool.eq_false_iff.mpr chosen⟩
  · rintro (⟨old, inside, chosen, rfl⟩ | ⟨inside, other⟩)
    · exact ⟨old, inside, if_pos chosen⟩
    · exact ⟨row, inside, if_neg (Bool.eq_false_iff.mp other)⟩

/-- An update leaves the keys as they are. -/
theorem keys_update {wanted : Row → Bool} {change : Row → Row}
    {keeps : ∀ row, wanted row = true → key (change row) = key row}
    (table : KeyedTable key) :
    (table.update wanted change keeps).rows.map key = table.rows.map key := by
  rw [update, List.map_map]
  apply List.map_congr_left
  intro row _
  by_cases chosen : wanted row = true
  · simp [chosen, keeps row chosen]
  · simp [chosen]

section Replacing

variable [DecidableEq Key]

/-- `INSERT OR REPLACE`. -/
def insert (row : Row) (table : KeyedTable key) : KeyedTable key where
  rows := (table.deleteWhere fun old => key old = key row).rows ++ [row]
  distinct := by
    rw [List.map_append, List.map_singleton]
    apply List.Nodup.append
    · exact (table.deleteWhere fun old => key old = key row).distinct
    · exact List.nodup_singleton _
    · intro found inside same
      obtain ⟨old, member, rfl⟩ := List.mem_map.mp inside
      have kept := (mem_deleteWhere.mp member).2
      exact of_decide_eq_false kept (List.mem_singleton.mp same)

theorem mem_insert {table : KeyedTable key} {new row : Row} :
    row ∈ table.insert new ↔
      row = new ∨ row ∈ table ∧ key row ≠ key new := by
  have split :
      row ∈ table.insert new ↔
        row ∈ table.deleteWhere (fun old => key old = key new) ∨
          row ∈ [new] :=
    List.mem_append
  rw [split, mem_deleteWhere, List.mem_singleton, decide_eq_false_iff_not,
    or_comm]

/-- The row of a key. -/
def find (table : KeyedTable key) (wanted : Key) : Option Row :=
  table.rows.find? fun row => key row = wanted

theorem find_eq_some_iff {table : KeyedTable key} {wanted : Key}
    {row : Row} :
    table.find wanted = some row ↔ row ∈ table ∧ key row = wanted := by
  constructor
  · intro found
    have same := List.find?_some found
    exact ⟨List.mem_of_find?_eq_some found, of_decide_eq_true same⟩
  · rintro ⟨inside, rfl⟩
    rw [find]
    cases found : table.rows.find? fun old => key old = key row with
    | none =>
        have absent := List.find?_eq_none.mp found row inside
        exact absurd (decide_eq_true rfl) absent
    | some other =>
        have holds := List.find?_some found
        have same : key other = key row := of_decide_eq_true holds
        have member : other ∈ table := List.mem_of_find?_eq_some found
        rw [eq_of_key member inside same]

theorem find_eq_none_iff {table : KeyedTable key} {wanted : Key} :
    table.find wanted = none ↔ ∀ row ∈ table, key row ≠ wanted := by
  rw [find]
  rw [List.find?_eq_none]
  simp [mem_rows]

/-- The row of a key depends on the rows with that key. -/
theorem find_congr {table other : KeyedTable key} {wanted : Key}
    (same : ∀ row, key row = wanted → (row ∈ table ↔ row ∈ other)) :
    table.find wanted = other.find wanted := by
  apply Option.ext
  intro row
  rw [find_eq_some_iff, find_eq_some_iff]
  constructor
  · rintro ⟨inside, keyed⟩
    exact ⟨(same row keyed).mp inside, keyed⟩
  · rintro ⟨inside, keyed⟩
    exact ⟨(same row keyed).mpr inside, keyed⟩

end Replacing

end KeyedTable

end LanShield.Library
