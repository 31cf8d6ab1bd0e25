import Mathlib.Algebra.Group.Nat.Defs
import Mathlib.Data.List.Basic

/-!
# Texts cut at separators

A text put together from parts with a separator between them, or from a front
and a back on both sides of one, can be taken apart again when the separator
does not occur where it would be ambiguous.  Numerals contain no separator.
-/

namespace LanShield.Library

section Cuts

variable {Letter : Type} {separator : Letter}
  {front back otherFront otherBack : List Letter}

/-- The first separator cuts a text in one way. -/
theorem cut_at_first (free : separator ∉ front)
    (otherFree : separator ∉ otherFront)
    (same :
      front ++ separator :: back = otherFront ++ separator :: otherBack) :
    front = otherFront ∧ back = otherBack := by
  induction front generalizing otherFront with
  | nil =>
      cases otherFront with
      | nil => exact ⟨rfl, List.tail_eq_of_cons_eq same⟩
      | cons letter rest =>
          have head : separator = letter := List.head_eq_of_cons_eq same
          rw [head] at otherFree
          exact absurd List.mem_cons_self otherFree
  | cons letter rest inductionHypothesis =>
      cases otherFront with
      | nil =>
          have head : letter = separator := List.head_eq_of_cons_eq same
          rw [head] at free
          exact absurd List.mem_cons_self free
      | cons otherLetter otherRest =>
          have head : letter = otherLetter := List.head_eq_of_cons_eq same
          obtain ⟨restSame, backSame⟩ :=
            inductionHypothesis (List.not_mem_of_not_mem_cons free)
              (List.not_mem_of_not_mem_cons otherFree)
              (List.tail_eq_of_cons_eq same)
          exact ⟨by rw [head, restSame], backSame⟩

/-- The last separator cuts a text in one way. -/
theorem cut_at_last (free : separator ∉ back)
    (otherFree : separator ∉ otherBack)
    (same :
      front ++ separator :: back = otherFront ++ separator :: otherBack) :
    front = otherFront ∧ back = otherBack := by
  have reversed :
      back.reverse ++ separator :: front.reverse =
        otherBack.reverse ++ separator :: otherFront.reverse := by
    simpa using congrArg List.reverse same
  obtain ⟨backSame, frontSame⟩ :=
    cut_at_first (by simpa using free) (by simpa using otherFree) reversed
  exact ⟨List.reverse_injective frontSame, List.reverse_injective backSame⟩

end Cuts

/-- The parts of a text between the separators. -/
def splitAt (separator : Char) (text : String) : List String :=
  (text.toList.splitOn separator).map String.ofList

/-- The parts with a separator between each two. -/
def joinWith (separator : Char) (parts : List String) : String :=
  (String.singleton separator).intercalate parts

section Parts

variable {separator letter : Char} {parts others : List String}

/-- Parts without the separator are found again, if there are any. -/
theorem splitAt_joinWith (free : ∀ part ∈ parts, separator ∉ part.toList)
    (nonempty : parts ≠ []) :
    splitAt separator (joinWith separator parts) = parts := by
  have found :
      List.splitOn separator
          ([separator].intercalate (parts.map String.toList)) =
        parts.map String.toList := by
    apply List.splitOn_intercalate
    · simpa using free
    · simpa using nonempty
  rw [splitAt, joinWith, String.toList_intercalate, String.toList_singleton,
    found, List.map_map]
  simp [Function.comp_def]

/-- Without parts the text is empty, which is split into one empty part. -/
theorem splitAt_joinWith_nil :
    splitAt separator (joinWith separator []) = [""] := by
  simp [splitAt, joinWith]

theorem joinWith_inj (free : ∀ part ∈ parts, separator ∉ part.toList)
    (otherFree : ∀ part ∈ others, separator ∉ part.toList)
    (nonempty : parts ≠ []) (otherNonempty : others ≠ [])
    (same : joinWith separator parts = joinWith separator others) :
    parts = others := by
  rw [← splitAt_joinWith free nonempty, same,
    splitAt_joinWith otherFree otherNonempty]

theorem notMem_joinWith (different : letter ≠ separator)
    (free : ∀ part ∈ parts, letter ∉ part.toList) :
    letter ∉ (joinWith separator parts).toList := by
  rw [joinWith, String.toList_intercalate, String.toList_singleton]
  induction parts with
  | nil => simp
  | cons part rest inductionHypothesis =>
      obtain ⟨here, later⟩ := List.forall_mem_cons.mp free
      cases rest with
      | nil => simpa using here
      | cons next rest =>
          have behind := inductionHypothesis later
          simp only [List.map_cons] at behind ⊢
          simp [List.intercalate_cons_cons, here, different, behind]

theorem mem_joinWith_of_mem {part : String} (inside : part ∈ parts)
    (member : letter ∈ part.toList) :
    letter ∈ (joinWith separator parts).toList := by
  rw [joinWith, String.toList_intercalate, String.toList_singleton]
  induction parts with
  | nil => cases inside
  | cons first rest inductionHypothesis =>
      rcases rest with _ | ⟨second, rest⟩
      · rw [List.mem_singleton] at inside
        subst inside
        simpa using member
      · rw [List.map_cons, List.map_cons, List.intercalate_cons_cons,
          List.mem_append, List.mem_append]
        rcases List.mem_cons.mp inside with rfl | later
        · exact Or.inl (Or.inl member)
        · exact Or.inr (inductionHypothesis later)

theorem mem_joinWith (two : 2 ≤ parts.length) :
    separator ∈ (joinWith separator parts).toList := by
  rw [joinWith, String.toList_intercalate, String.toList_singleton]
  rcases parts with _ | ⟨first, _ | ⟨second, rest⟩⟩
  · simp at two
  · simp at two
  · simp [List.intercalate_cons_cons]

end Parts

theorem decimal_inj {first second : Nat} :
    toString first = toString second ↔ first = second := by
  constructor
  · intro same
    have digits : Nat.toDigits 10 first = Nat.toDigits 10 second := by
      simpa using congrArg String.toList same
    have value := congrArg (fun digits => Nat.ofDigitChars 10 digits 0) digits
    simpa using value
  · exact congrArg toString

/-- A decimal numeral has digits only. -/
theorem notMem_decimal {letter : Char} (other : letter.isDigit = false)
    (number : Nat) : letter ∉ (toString number).toList := by
  intro member
  have digit : letter.isDigit = true := by
    apply @Nat.isDigit_of_mem_toDigits 10 number _ (by decide) (by decide)
    simpa using member
  rw [other] at digit
  cases digit

/-- The last `width` hexadecimal digits. -/
def hexDigits : (width : Nat) → (value : Nat) → List Char
  | 0, _ => []
  | width + 1, value =>
      hexDigits width (value / 16) ++ [Nat.digitChar (value % 16)]

private theorem digitChar_inj :
    ∀ first < 16, ∀ second < 16,
      Nat.digitChar first = Nat.digitChar second → first = second := by
  decide

private theorem length_hexDigits (width value : Nat) :
    (hexDigits width value).length = width := by
  induction width generalizing value with
  | zero => rfl
  | succ width inductionHypothesis =>
      rw [hexDigits, List.length_append, inductionHypothesis,
        List.length_singleton]

theorem hexDigits_inj {width : Nat} :
    ∀ {first second : Nat}, first < 16 ^ width → second < 16 ^ width →
      hexDigits width first = hexDigits width second → first = second := by
  induction width with
  | zero =>
      intro first second firstSmall secondSmall _
      omega
  | succ width inductionHypothesis =>
      intro first second firstSmall secondSmall same
      rw [hexDigits, hexDigits] at same
      obtain ⟨front, last⟩ :=
        List.append_inj same (by simp only [length_hexDigits])
      have high : first / 16 = second / 16 := by
        apply inductionHypothesis _ _ front
        · omega
        · omega
      have low : first % 16 = second % 16 :=
        digitChar_inj _ (Nat.mod_lt _ (by decide)) _
          (Nat.mod_lt _ (by decide)) (List.head_eq_of_cons_eq last)
      omega

theorem notMem_hexDigits {letter : Char}
    (other : ∀ digit < 16, Nat.digitChar digit ≠ letter)
    (width value : Nat) : letter ∉ hexDigits width value := by
  induction width generalizing value with
  | zero => exact List.not_mem_nil
  | succ width inductionHypothesis =>
      rw [hexDigits, List.mem_append, not_or]
      refine ⟨inductionHypothesis _, ?_⟩
      have different := other (value % 16) (Nat.mod_lt _ (by decide))
      simpa using different.symm

end LanShield.Library
