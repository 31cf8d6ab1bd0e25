import Mathlib.Algebra.Order.Ring.Int
import Mathlib.RingTheory.Coprime.Lemmas
import Mathlib.Tactic.NormNum
import Mathlib.Tactic.Positivity
import Mathlib.Tactic.Ring

/-!
# Fixed-width integers and serial numbers

Two's-complement narrowing of exact integers, and the reconstruction of an
exact counter from the 32-bit residue of a value at most one period behind
it.
-/

namespace LanShield.Library

/-- The signed 8-bit value congruent to `value`. -/
def signed8 (value : Int) : Int :=
  (value + 2 ^ 7) % 2 ^ 8 - 2 ^ 7

/-- The signed 16-bit value congruent to `value`. -/
def signed16 (value : Int) : Int :=
  (value + 2 ^ 15) % 2 ^ 16 - 2 ^ 15

/-- The signed 32-bit value congruent to `value`. -/
def signed32 (value : Int) : Int :=
  (value + 2 ^ 31) % 2 ^ 32 - 2 ^ 31

/-- The signed 64-bit value congruent to `value`. -/
def signed64 (value : Int) : Int :=
  (value + 2 ^ 63) % 2 ^ 64 - 2 ^ 63

/-- The residue of `value` on a 32-bit wire field. -/
def unsigned32 (value : Int) : Int :=
  value % 2 ^ 32

/-- Left shift of a 64-bit word: only the low six bits of the distance
count, and bits leaving the word are lost. -/
def shiftLeft64 (value distance : Int) : Int :=
  signed64 (value * 2 ^ (distance % 64).toNat)

theorem unsigned32_eq_self {value : Int}
    (nonneg : 0 ≤ value) (small : value < 2 ^ 32) :
    unsigned32 value = value := by
  rw [unsigned32]
  omega

theorem unsigned32_le {value : Int} (nonneg : 0 ≤ value) :
    unsigned32 value ≤ value := by
  rw [unsigned32]
  omega

theorem unsigned32_add_le (value : Int) (count : Nat) :
    unsigned32 (value + count) ≤ unsigned32 value + count := by
  unfold unsigned32
  omega

@[simp]
theorem unsigned32_unsigned32 (value : Int) :
    unsigned32 (unsigned32 value) = unsigned32 value := by
  unfold unsigned32
  omega

@[simp]
theorem unsigned32_signed32 (value : Int) :
    unsigned32 (signed32 value) = unsigned32 value := by
  unfold unsigned32 signed32
  omega

theorem signed16_lt (value : Int) : signed16 value < 2 ^ 15 := by
  rw [signed16]
  omega

theorem neg_le_signed16 (value : Int) : -2 ^ 15 ≤ signed16 value := by
  rw [signed16]
  omega

theorem signed16_eq_self {value : Int} (least : -2 ^ 15 ≤ value)
    (short : value < 2 ^ 15) : signed16 value = value := by
  rw [signed16]
  omega

theorem signed32_lt (value : Int) : signed32 value < 2 ^ 31 := by
  rw [signed32]
  omega

theorem neg_le_signed32 (value : Int) : -2 ^ 31 ≤ signed32 value := by
  rw [signed32]
  omega

theorem signed32_le {value : Int} (lower : -2 ^ 31 ≤ value) :
    signed32 value ≤ value := by
  rw [signed32]
  omega

theorem signed32_add_le (value : Int) (count : Nat) :
    signed32 (value + count) ≤ signed32 value + count := by
  unfold signed32
  omega

theorem unsigned32_add_congr {first second : Int}
    (same : unsigned32 first = unsigned32 second) (offset : Int) :
    unsigned32 (first + offset) = unsigned32 (second + offset) := by
  unfold unsigned32 at *
  omega

/-- A counter at least as large as a congruent signed 32-bit value equals it
exactly when it is itself below `2 ^ 31`. -/
theorem le_signed32_iff_lt {counter position : Int}
    (same : unsigned32 counter = unsigned32 position)
    (ahead : signed32 position ≤ counter) :
    counter ≤ signed32 position ↔ counter < 2 ^ 31 := by
  unfold unsigned32 at same
  unfold signed32 at *
  omega

/-- A shift by a small distance does not leave the 64-bit word. -/
theorem shiftLeft64_eq_mul {value distance : Int}
    (nonneg : 0 ≤ value) (small : value < 2 ^ 16)
    (distanceNonneg : 0 ≤ distance) (distanceSmall : distance ≤ 14) :
    shiftLeft64 value distance = value * 2 ^ distance.toNat := by
  have residue : distance % 64 = distance := by omega
  have power_le : (2 : Int) ^ distance.toNat ≤ 2 ^ 14 :=
    pow_le_pow_right₀ (by norm_num) (by omega)
  have power_pos : (0 : Int) < 2 ^ distance.toNat := by positivity
  have lower : 0 ≤ value * 2 ^ distance.toNat := by positivity
  have upper : value * 2 ^ distance.toNat ≤ 2 ^ 16 * 2 ^ 14 := by
    exact mul_le_mul small.le power_le power_pos.le (by norm_num)
  rw [shiftLeft64, signed64]
  rw [residue]
  omega

/-- Shifting a nonzero 16-bit value moves it, unless the distance is a
multiple of the word length. -/
theorem shiftLeft64_eq_self_iff {value distance : Int}
    (nonneg : 0 ≤ value) (small : value < 2 ^ 16) :
    shiftLeft64 value distance = value ↔
      value = 0 ∨ distance % 64 = 0 := by
  obtain ⟨shift, shift_eq⟩ :
      ∃ shift : Nat, distance % 64 = shift :=
    ⟨(distance % 64).toNat, by omega⟩
  have shift_lt : shift < 64 := by omega
  have unfolded :
      shiftLeft64 value distance = signed64 (value * 2 ^ shift) := by
    simp [shiftLeft64, shift_eq]
  rw [unfolded, shift_eq]
  constructor
  · intro fixed
    by_contra neither
    have value_ne : value ≠ 0 := fun zero => neither (Or.inl zero)
    have shift_pos : 0 < shift := by
      have : shift ≠ 0 := fun zero => neither (Or.inr (by omega))
      omega
    have divides : (2 ^ 64 : Int) ∣ value * (2 ^ shift - 1) := by
      have expanded :
          value * (2 ^ shift - 1) = value * 2 ^ shift - value := by
        ring
      rw [expanded]
      rw [signed64] at fixed
      omega
    have odd : IsCoprime (2 ^ 64 : Int) (2 ^ shift - 1) := by
      apply IsCoprime.pow_left
      refine ⟨2 ^ (shift - 1), -1, ?_⟩
      have split : (2 : Int) ^ shift = 2 ^ (shift - 1) * 2 := by
        rw [← pow_succ]
        congr 1
        omega
      rw [split]
      ring
    have value_divides : (2 ^ 64 : Int) ∣ value :=
      odd.dvd_of_dvd_mul_right divides
    omega
  · rintro (rfl | zero)
    · simp [signed64]
    · have shift_zero : shift = 0 := by omega
      subst shift_zero
      rw [signed64]
      omega

/-- The largest integer not above `next` with the residue of `wire`. -/
def reconstruct (next wire : Int) : Int :=
  next - unsigned32 (next - unsigned32 wire)

theorem reconstruct_le (next wire : Int) : reconstruct next wire ≤ next := by
  rw [reconstruct, unsigned32]
  omega

theorem lt_reconstruct (next wire : Int) :
    next - 2 ^ 32 < reconstruct next wire := by
  rw [reconstruct, unsigned32]
  omega

@[simp]
theorem unsigned32_reconstruct (next wire : Int) :
    unsigned32 (reconstruct next wire) = unsigned32 wire := by
  unfold reconstruct unsigned32
  omega

/-- A value of the last period is reconstructed from its residue. -/
theorem reconstruct_eq {next wire position : Int}
    (le : position ≤ next) (near : next < position + 2 ^ 32)
    (residue : unsigned32 position = unsigned32 wire) :
    reconstruct next wire = position := by
  rw [reconstruct, unsigned32] at *
  omega

end LanShield.Library
