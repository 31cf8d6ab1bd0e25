import Mathlib.Data.List.Nodup

/-!
# Reading a list page by page

A list of distinct keys is read by offsets while it changes.  As long as no
key that has been passed is taken out, and none that has been read is put in
again, no key is read twice and those that are there all the time are read.
-/

namespace LanShield.Library

variable {Key : Type*}

/-- `steady` are keys that have been in the list since the first page. -/
structure Paged (steady keys : List Key) (offset : Nat) (read : List Key) :
    Prop where
  distinct : keys.Nodup
  once : read.Nodup
  unread : ∀ key ∈ keys.drop offset, key ∉ read
  covered : ∀ key ∈ steady, key ∈ read ∨ key ∈ keys.drop offset

namespace Paged

variable {steady keys read : List Key} {offset : Nat}

theorem start (distinct : keys.Nodup) : Paged keys keys 0 [] where
  distinct := distinct
  once := List.nodup_nil
  unread _ _ impossible := by cases impossible
  covered _ inside := Or.inr inside

/-- The next page is read. -/
theorem page (paged : Paged steady keys offset read) (limit : Nat) :
    Paged steady keys (offset + limit)
      (read ++ (keys.drop offset).take limit) := by
  have rest :
      (keys.drop offset).take limit ++ keys.drop (offset + limit) =
        keys.drop offset := by
    rw [← List.drop_drop, List.take_append_drop]
  have distinct : (keys.drop offset).Nodup :=
    paged.distinct.sublist (List.drop_sublist _ _)
  rw [← rest] at distinct
  obtain ⟨pageDistinct, -, apart⟩ := List.nodup_append.mp distinct
  refine ⟨paged.distinct, ?_, ?_, ?_⟩
  · refine List.nodup_append.mpr ⟨paged.once, pageDistinct, ?_⟩
    rintro key before _ here rfl
    exact paged.unread key (List.mem_of_mem_take here) before
  · intro key behind
    rw [List.mem_append, not_or]
    constructor
    · apply paged.unread
      rw [← rest]
      exact List.mem_append_right _ behind
    · intro here
      exact apart key here key behind rfl
  · intro key here
    rcases paged.covered key here with before | behind
    · exact Or.inl (List.mem_append_left _ before)
    · rw [← rest] at behind
      rcases List.mem_append.mp behind with onPage | later
      · exact Or.inl (List.mem_append_right _ onPage)
      · exact Or.inr later

/-- Keys are taken out, and others are put in at the end. -/
theorem write (paged : Paged steady keys offset read)
    {steady' kept appended : List Key}
    (distinct : (kept ++ appended).Nodup)
    (old : kept.Sublist keys)
    (new : ∀ key ∈ appended, key ∉ read)
    (passed : keys.length ≤ offset ∨ keys.take offset <+: kept)
    (stays :
      ∀ key ∈ steady', key ∈ steady ∧ key ∈ kept ++ appended) :
    Paged steady' (kept ++ appended) offset read := by
  rcases (Nat.lt_or_ge offset keys.length).symm with short | long
  · have nothing : keys.drop offset = [] :=
      List.drop_of_length_le short
    have gone : kept.drop offset = [] :=
      List.drop_of_length_le (Nat.le_trans old.length_le short)
    refine ⟨distinct, paged.once, ?_, ?_⟩
    · intro key behind
      rw [List.drop_append, gone, List.nil_append] at behind
      exact new key (List.mem_of_mem_drop behind)
    · intro key here
      have before := paged.covered key (stays key here).1
      rw [nothing] at before
      exact Or.inl (before.resolve_right List.not_mem_nil)
  · obtain ⟨rest, rfl⟩ := passed.resolve_left (Nat.not_le.mpr long)
    have front : (keys.take offset).length = offset :=
      List.length_take_of_le (Nat.le_of_lt long)
    have behind :
        (keys.take offset ++ rest ++ appended).drop offset =
          rest ++ appended := by
      rw [List.append_assoc]
      exact List.drop_left' front
    have keptDistinct := (List.nodup_append.mp distinct).1
    have fresh : ∀ key ∈ rest, key ∈ keys.drop offset := by
      intro key later
      have inside := old.subset (List.mem_append_right _ later)
      rw [← List.take_append_drop offset keys] at inside
      rcases List.mem_append.mp inside with before | after
      · exact
          absurd rfl
            ((List.nodup_append.mp keptDistinct).2.2 key before key later)
      · exact after
    refine ⟨distinct, paged.once, ?_, ?_⟩
    · intro key later
      rw [behind] at later
      rcases List.mem_append.mp later with before | added
      · exact paged.unread key (fresh key before)
      · exact new key added
    · intro key here
      obtain ⟨always, still⟩ := stays key here
      rw [behind]
      refine (paged.covered key always).imp_right fun later => ?_
      rw [List.append_assoc] at still
      rcases List.mem_append.mp still with before | after
      · have apart := paged.distinct
        rw [← List.take_append_drop offset keys] at apart
        exact
          absurd rfl ((List.nodup_append.mp apart).2.2 key before key later)
      · exact after

/-- Behind the last key, everything has been read. -/
theorem complete (paged : Paged steady keys offset read)
    (ended : keys.drop offset = []) : ∀ key ∈ steady, key ∈ read := by
  intro key here
  have covered := paged.covered key here
  rw [ended] at covered
  exact covered.resolve_right List.not_mem_nil

end Paged

end LanShield.Library
