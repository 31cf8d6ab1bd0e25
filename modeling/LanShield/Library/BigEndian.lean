import Mathlib.Data.List.Basic
import Mathlib.Tactic.Ring

/-!
# Slices of lists and big-endian numbers
-/

namespace LanShield.Library

section Slices

variable {α : Type*}

/-- The `count` items of a list from index `start` on. -/
def slice (items : List α) (start count : Nat) : List α :=
  (items.drop start).take count

theorem length_slice (items : List α) (start count : Nat) :
    (slice items start count).length = min count (items.length - start) := by
  simp [slice]

theorem length_slice_of_le {items : List α} {start count : Nat}
    (fits : start + count ≤ items.length) :
    (slice items start count).length = count := by
  rw [length_slice]
  omega

/-- A slice splits into two adjacent slices. -/
theorem slice_add (items : List α) (start first second : Nat) :
    slice items start (first + second) =
      slice items start first ++ slice items (start + first) second := by
  simp only [slice, List.take_add, List.drop_drop]

theorem slice_append_left {front : List α} {start count : Nat}
    (within : start + count ≤ front.length) (back : List α) :
    slice (front ++ back) start count = slice front start count := by
  unfold slice
  rw [List.drop_append_of_le_length (by omega),
    List.take_append_of_le_length]
  rw [List.length_drop]
  omega

theorem slice_append_right (front back : List α) (start count : Nat) :
    slice (front ++ back) (front.length + start) count =
      slice back start count := by
  unfold slice
  rw [List.drop_length_add_append]

theorem slice_all {items : List α} {count : Nat}
    (whole : items.length = count) : slice items 0 count = items := by
  rw [slice]
  rw [List.drop_zero, ← whole, List.take_length]

end Slices

/-- The number a list of bytes spells, most significant byte first. -/
def bigEndian (bytes : List UInt8) : Nat :=
  bytes.foldl (fun value byte => value * 256 + byte.toNat) 0

private theorem foldl_bigEndian (bytes : List UInt8) (start : Nat) :
    bytes.foldl (fun value byte => value * 256 + byte.toNat) start =
      start * 256 ^ bytes.length + bigEndian bytes := by
  induction bytes generalizing start with
  | nil =>
      simp [bigEndian]
  | cons byte rest inductionHypothesis =>
      rw [bigEndian, List.foldl_cons, List.foldl_cons,
        inductionHypothesis, inductionHypothesis (0 * 256 + byte.toNat),
        List.length_cons, pow_succ]
      ring

@[simp]
theorem bigEndian_nil : bigEndian [] = 0 :=
  rfl

theorem bigEndian_cons (byte : UInt8) (rest : List UInt8) :
    bigEndian (byte :: rest) =
      byte.toNat * 256 ^ rest.length + bigEndian rest := by
  rw [bigEndian, List.foldl_cons, foldl_bigEndian]
  simp

theorem bigEndian_singleton (byte : UInt8) :
    bigEndian [byte] = byte.toNat := by
  simp [bigEndian_cons]

theorem bigEndian_lt (bytes : List UInt8) :
    bigEndian bytes < 256 ^ bytes.length := by
  induction bytes with
  | nil =>
      simp
  | cons byte rest inductionHypothesis =>
      rw [bigEndian_cons, List.length_cons, pow_succ]
      have small : byte.toNat ≤ 255 := by
        have := byte.toNat_lt
        omega
      have scaled := Nat.mul_le_mul_right (256 ^ rest.length) small
      omega

theorem bigEndian_slice_lt (bytes : List UInt8) (start count : Nat) :
    bigEndian (slice bytes start count) < 256 ^ count := by
  have short : (slice bytes start count).length ≤ count := by
    rw [length_slice]
    exact Nat.min_le_left _ _
  exact
    (bigEndian_lt _).trans_le (Nat.pow_le_pow_right (by decide) short)

/-- Numbers of the same length spell the same value only when their bytes
agree. -/
theorem bigEndian_inj :
    ∀ {first second : List UInt8},
      first.length = second.length →
        bigEndian first = bigEndian second → first = second
  | [], [], _, _ => rfl
  | first :: firstRest, second :: secondRest, sameLength, sameValue => by
      have restLength : firstRest.length = secondRest.length := by
        simpa using sameLength
      rw [bigEndian_cons, bigEndian_cons, restLength] at sameValue
      have firstSmall := bigEndian_lt firstRest
      have secondSmall := bigEndian_lt secondRest
      rw [restLength] at firstSmall
      have headEqual : first.toNat = second.toNat := by
        have positive : 0 < 256 ^ secondRest.length :=
          Nat.pow_pos (by omega)
        have quotient := congrArg (· / 256 ^ secondRest.length) sameValue
        simpa only [Nat.mul_comm _ (256 ^ secondRest.length),
          Nat.mul_add_div positive, Nat.div_eq_of_lt firstSmall,
          Nat.div_eq_of_lt secondSmall, Nat.add_zero] using quotient
      have restEqual : firstRest = secondRest := by
        apply bigEndian_inj restLength
        rw [headEqual] at sameValue
        omega
      rw [UInt8.toNat_inj.mp headEqual, restEqual]

/-- The `width` low-order bytes of an integer, most significant first. -/
def toBigEndian : (width : Nat) → (value : Int) → List UInt8
  | 0, _ => []
  | width + 1, value =>
      toBigEndian width (value / 256) ++
        [UInt8.ofNat (value % 256).toNat]

@[simp]
theorem length_toBigEndian (width : Nat) (value : Int) :
    (toBigEndian width value).length = width := by
  induction width generalizing value with
  | zero => rfl
  | succ width inductionHypothesis =>
      simp [toBigEndian, inductionHypothesis]

private theorem bigEndian_append_byte (bytes : List UInt8) (byte : UInt8) :
    bigEndian (bytes ++ [byte]) = bigEndian bytes * 256 + byte.toNat := by
  rw [bigEndian]
  rw [List.foldl_append]
  rfl

private theorem emod_byte_mul (value modulus : Int)
    (positive : 0 < modulus) :
    value % (256 * modulus) =
      256 * (value / 256 % modulus) + value % 256 := by
  have low := Int.mul_ediv_add_emod value 256
  have high := Int.mul_ediv_add_emod (value / 256) modulus
  have small := Int.emod_lt_of_pos (value / 256) positive
  have nonneg := Int.emod_nonneg (value / 256) positive.ne'
  have split :
      value =
        256 * (value / 256 % modulus) + value % 256 +
          256 * modulus * (value / 256 / modulus) := by
    calc
      value = 256 * (value / 256) + value % 256 := low.symm
      _ = 256 * (modulus * (value / 256 / modulus) +
            value / 256 % modulus) + value % 256 := by rw [high]
      _ = _ := by ring
  conv_lhs => rw [split]
  rw [Int.add_mul_emod_self_left, Int.emod_eq_of_lt] <;> omega

/-- Reading back what was written keeps the low-order bytes. -/
theorem bigEndian_toBigEndian (width : Nat) (value : Int) :
    (bigEndian (toBigEndian width value) : Int) = value % 256 ^ width := by
  induction width generalizing value with
  | zero => simp [toBigEndian]
  | succ width inductionHypothesis =>
      have byte : (UInt8.ofNat (value % 256).toNat).toNat =
          (value % 256).toNat := by
        apply UInt8.toNat_ofNat_of_lt'
        simp only [UInt8.size]
        omega
      have positive : (0 : Int) < 256 ^ width := Int.pow_pos (by decide)
      rw [toBigEndian, bigEndian_append_byte, byte, Int.natCast_add,
        Int.natCast_mul, inductionHypothesis,
        Int.toNat_of_nonneg (Int.emod_nonneg _ (by decide)), pow_succ,
        mul_comm ((256 : Int) ^ width),
        emod_byte_mul value (256 ^ width) positive]
      omega

end LanShield.Library
