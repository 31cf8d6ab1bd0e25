import LanShield.Library.BigEndian

/-!
# One's complement sums of 16-bit words

A byte list is read as big-endian 16-bit words, with a zero byte behind an
odd last byte.  `wordSum` adds the words as numbers; `onesSum` adds them
with the end-around carry, and is `0xFFFF` exactly when the words carry a
correct checksum.
-/

namespace LanShield.Library

/-- The plain sum of the words. -/
def wordSum : List UInt8 → Nat
  | [] => 0
  | [high] => high.toNat * 256
  | high :: low :: rest => high.toNat * 256 + low.toNat + wordSum rest

/-- One's complement addition of two 16-bit words. -/
def onesAdd (first second : Nat) : Nat :=
  if first + second < 65536 then
    first + second
  else
    first + second - 65535

/-- The one's complement sum of the words. -/
def onesSum : List UInt8 → Nat
  | [] => 0
  | [high] => high.toNat * 256
  | high :: low :: rest =>
      onesAdd (high.toNat * 256 + low.toNat) (onesSum rest)

/-- The receiver's test of a checksummed block. -/
def ValidChecksum (bytes : List UInt8) : Prop :=
  onesSum bytes = 0xFFFF

instance (bytes : List UInt8) : Decidable (ValidChecksum bytes) :=
  inferInstanceAs (Decidable (onesSum bytes = 0xFFFF))

@[simp]
theorem wordSum_nil : wordSum [] = 0 :=
  rfl

private theorem wordSum_word (high low : UInt8) (rest : List UInt8) :
    wordSum (high :: low :: rest) =
      high.toNat * 256 + low.toNat + wordSum rest :=
  rfl

/-- Behind an even number of bytes the words of a list stay aligned. -/
theorem wordSum_append {front : List UInt8}
    (even : front.length % 2 = 0) (back : List UInt8) :
    wordSum (front ++ back) = wordSum front + wordSum back := by
  induction front using wordSum.induct with
  | case1 => simp
  | case2 high => simp at even
  | case3 high low rest inductionHypothesis =>
      have restEven : rest.length % 2 = 0 := by
        simp only [List.length_cons] at even
        omega
      rw [List.cons_append, List.cons_append, wordSum_word, wordSum_word,
        inductionHypothesis restEven]
      omega

/-- A zero byte behind an odd last byte is the padding that is read anyway.
-/
theorem wordSum_padded {bytes : List UInt8}
    (odd : bytes.length % 2 = 1) :
    wordSum (bytes ++ [0]) = wordSum bytes := by
  induction bytes using wordSum.induct with
  | case1 => simp at odd
  | case2 high => simp [wordSum]
  | case3 high low rest inductionHypothesis =>
      have restOdd : rest.length % 2 = 1 := by
        simp only [List.length_cons] at odd
        omega
      rw [List.cons_append, List.cons_append, wordSum_word, wordSum_word,
        inductionHypothesis restOdd]

private theorem wordSum_zeros (count : Nat) :
    wordSum (List.replicate count 0) = 0 := by
  induction count using Nat.twoStepInduction with
  | zero => rfl
  | one => rfl
  | more count inductionHypothesis _ =>
      rw [List.replicate_succ, List.replicate_succ, wordSum_word,
        inductionHypothesis]
      rfl

/-- Zeros in front of a list are skipped word by word; an odd one of them
shifts the list. -/
theorem wordSum_zeros_append (count : Nat) (bytes : List UInt8) :
    wordSum (List.replicate count 0 ++ bytes) =
      if count % 2 = 0 then wordSum bytes else wordSum (0 :: bytes) := by
  by_cases even : count % 2 = 0
  · rw [if_pos even, wordSum_append, wordSum_zeros, Nat.zero_add]
    rw [List.length_replicate]
    exact even
  · obtain ⟨half, rfl⟩ : ∃ half, count = half + 1 :=
      ⟨count - 1, by omega⟩
    rw [if_neg even, List.replicate_succ', List.append_assoc,
      wordSum_append, wordSum_zeros, Nat.zero_add]
    · rfl
    · rw [List.length_replicate]
      omega

theorem wordSum_le (bytes : List UInt8) :
    wordSum bytes ≤ 65535 * ((bytes.length + 1) / 2) := by
  induction bytes using wordSum.induct with
  | case1 => simp
  | case2 high =>
      have := high.toNat_lt
      simp only [wordSum, List.length_singleton]
      omega
  | case3 high low rest inductionHypothesis =>
      have := high.toNat_lt
      have := low.toNat_lt
      rw [wordSum_word, List.length_cons, List.length_cons]
      omega

theorem wordSum_toBigEndian (value : Int) :
    (wordSum (toBigEndian 2 value) : Int) = value % 65536 := by
  change
    (((UInt8.ofNat (value / 256 % 256).toNat).toNat * 256 +
      (UInt8.ofNat (value % 256).toNat).toNat + 0 : Nat) : Int) = _
  rw [UInt8.toNat_ofNat_of_lt' (by simp only [UInt8.size]; omega),
    UInt8.toNat_ofNat_of_lt' (by simp only [UInt8.size]; omega)]
  omega

/-- The word at an even index can be written over a zero word. -/
theorem wordSum_fill {front word : List UInt8} (back : List UInt8)
    (even : front.length % 2 = 0) (two : word.length = 2) :
    wordSum (front ++ word ++ back) =
      wordSum (front ++ [0, 0] ++ back) + wordSum word := by
  have frontWord : (front ++ word).length % 2 = 0 := by
    rw [List.length_append]
    omega
  have frontZero : (front ++ [0, 0] : List UInt8).length % 2 = 0 := by
    simp only [List.length_append, List.length_cons, List.length_nil]
    omega
  rw [wordSum_append frontWord, wordSum_append frontZero,
    wordSum_append even, wordSum_append even]
  have zero : wordSum [0, 0] = 0 := rfl
  omega

/-- The sum of the words when an odd last byte counts as the low byte of its
word. -/
def unpaddedSum : List UInt8 → Nat
  | [] => 0
  | [last] => last.toNat
  | high :: low :: rest => high.toNat * 256 + low.toNat + unpaddedSum rest

/-- An odd last byte, or zero. -/
def oddByte : List UInt8 → Nat
  | [] => 0
  | [last] => last.toNat
  | _ :: _ :: rest => oddByte rest

theorem wordSum_eq_unpaddedSum (bytes : List UInt8) :
    wordSum bytes = unpaddedSum bytes + 255 * oddByte bytes := by
  induction bytes using wordSum.induct with
  | case1 => rfl
  | case2 high =>
      change high.toNat * 256 = high.toNat + 255 * high.toNat
      omega
  | case3 high low rest inductionHypothesis =>
      rw [wordSum_word, inductionHypothesis, unpaddedSum, oddByte]
      omega

theorem oddByte_lt (bytes : List UInt8) : oddByte bytes < 256 := by
  induction bytes using wordSum.induct with
  | case1 => decide
  | case2 high => exact high.toNat_lt
  | case3 high low rest inductionHypothesis => exact inductionHypothesis

theorem oddByte_of_even {bytes : List UInt8}
    (even : bytes.length % 2 = 0) : oddByte bytes = 0 := by
  induction bytes using wordSum.induct with
  | case1 => rfl
  | case2 high => simp at even
  | case3 high low rest inductionHypothesis =>
      apply inductionHypothesis
      simp only [List.length_cons] at even
      omega

theorem oddByte_append {front : List UInt8}
    (even : front.length % 2 = 0) (back : List UInt8) :
    oddByte (front ++ back) = oddByte back := by
  induction front using wordSum.induct with
  | case1 => rfl
  | case2 high => simp at even
  | case3 high low rest inductionHypothesis =>
      apply inductionHypothesis
      simp only [List.length_cons] at even
      omega

/-- One's complement sums are sums modulo 65535, in which only the empty sum
is zero. -/
theorem onesSum_mod (bytes : List UInt8) :
    onesSum bytes % 65535 = wordSum bytes % 65535 ∧
      (onesSum bytes = 0 ↔ wordSum bytes = 0) ∧
      onesSum bytes < 65536 := by
  induction bytes using wordSum.induct with
  | case1 => simp [onesSum]
  | case2 high =>
      have := high.toNat_lt
      refine ⟨rfl, Iff.rfl, ?_⟩
      simp only [onesSum]
      omega
  | case3 high low rest inductionHypothesis =>
      have := high.toNat_lt
      have := low.toNat_lt
      obtain ⟨sameRest, zeroRest, smallRest⟩ := inductionHypothesis
      rw [wordSum_word, onesSum, onesAdd]
      split <;> omega

theorem validChecksum_iff (bytes : List UInt8) :
    ValidChecksum bytes ↔
      0 < wordSum bytes ∧ wordSum bytes % 65535 = 0 := by
  obtain ⟨same, zero, small⟩ := onesSum_mod bytes
  rw [ValidChecksum]
  omega

/-- The sum of the bytes at even indices minus the sum of those at odd ones.
-/
def alternatingSum : List UInt8 → Int
  | [] => 0
  | byte :: rest => byte.toNat - alternatingSum rest

/-- Shifting a list by one byte swaps the bytes of every word, which
multiplies the sum by 256 but for the alternating sum. -/
theorem wordSum_shifted (bytes : List UInt8) :
    (wordSum bytes : Int) - wordSum (0 :: bytes) =
      255 * alternatingSum bytes := by
  induction bytes using wordSum.induct with
  | case1 => simp [wordSum, alternatingSum]
  | case2 high =>
      simp only [wordSum, alternatingSum, UInt8.toNat_zero]
      omega
  | case3 high low rest inductionHypothesis =>
      have shifted :
          wordSum (0 :: high :: low :: rest) =
            high.toNat + low.toNat * 256 + wordSum (0 :: rest) := by
        cases rest with
        | nil => simp [wordSum]
        | cons next rest =>
            simp only [wordSum, UInt8.toNat_zero]
            omega
      rw [wordSum_word, shifted]
      simp only [alternatingSum]
      omega

end LanShield.Library
