import Mathlib.Data.Nat.Bitwise

/-!
# Bit prefixes of byte strings

The bits of a byte string, most significant bit first, and agreement on a
number of leading bits.
-/

namespace LanShield.Library

/-- Bytes behind the end count as zero. -/
def bitAt (bytes : List UInt8) (index : Nat) : Bool :=
  (bytes.getD (index / 8) 0).toNat.testBit (7 - index % 8)

/-- The byte strings agree on their first `count` bits. -/
def AgreeOn (count : Nat) (first second : List UInt8) : Prop :=
  ∀ index < count, bitAt first index = bitAt second index

instance (count : Nat) (first second : List UInt8) :
    Decidable (AgreeOn count first second) :=
  inferInstanceAs
    (Decidable (∀ index < count, bitAt first index = bitAt second index))

namespace AgreeOn

variable {count : Nat} {first second third : List UInt8}

theorem symm (agree : AgreeOn count first second) :
    AgreeOn count second first := by
  intro index below
  exact (agree index below).symm

theorem comm : AgreeOn count first second ↔ AgreeOn count second first :=
  ⟨symm, symm⟩

theorem trans (left : AgreeOn count first second)
    (right : AgreeOn count second third) : AgreeOn count first third := by
  intro index below
  exact (left index below).trans (right index below)

theorem mono {smaller : Nat} (le : smaller ≤ count)
    (agree : AgreeOn count first second) :
    AgreeOn smaller first second := by
  intro index below
  exact agree index (below.trans_le le)

theorem succ (agree : AgreeOn count first second)
    (next : bitAt first count = bitAt second count) :
    AgreeOn (count + 1) first second := by
  intro index below
  rcases Nat.lt_succ_iff_lt_or_eq.mp below with before | rfl
  · exact agree index before
  · exact next

end AgreeOn

section Bytes

variable {first second : List UInt8}

/-- Two bytes with the same bits, counted from the highest. -/
private theorem byte_eq_of_bits {left right : UInt8}
    (same : ∀ bit < 8,
      left.toNat.testBit (7 - bit) = right.toNat.testBit (7 - bit)) :
    left = right := by
  apply UInt8.toNat_inj.mp
  apply Nat.eq_of_testBit_eq
  intro index
  by_cases inside : index < 8
  · have position : 7 - (7 - index) = index := by omega
    have bits := same (7 - index) (by omega)
    rw [position] at bits
    exact bits
  · have high : 2 ^ 8 ≤ 2 ^ index :=
      Nat.pow_le_pow_right (by decide) (Nat.not_lt.mp inside)
    rw [Nat.testBit_lt_two_pow (left.toNat_lt.trans_le high),
      Nat.testBit_lt_two_pow (right.toNat_lt.trans_le high)]

/-- Agreement on whole bytes. -/
theorem agreeOn_bytes_iff {bytes : Nat} :
    AgreeOn (8 * bytes) first second ↔
      ∀ index < bytes, first.getD index 0 = second.getD index 0 := by
  constructor
  · intro agree index inside
    apply byte_eq_of_bits
    intro bit small
    have bits := agree (8 * index + bit) (by omega)
    have byte : (8 * index + bit) / 8 = index := by omega
    have position : (8 * index + bit) % 8 = bit := by omega
    unfold bitAt at bits
    rw [byte, position] at bits
    exact bits
  · intro same index below
    have inside : index / 8 < bytes := Nat.div_lt_of_lt_mul below
    unfold bitAt
    rw [same (index / 8) inside]

/-- Byte strings of one length are equal when their bits are. -/
theorem eq_of_bitAt (length_eq : first.length = second.length)
    (same : ∀ index, bitAt first index = bitAt second index) :
    first = second := by
  have bytewise :=
    (@agreeOn_bytes_iff first second first.length).mp
      fun index _ => same index
  apply List.ext_getElem length_eq
  intro index inside inside'
  have byte := bytewise index inside
  rwa [List.getD_eq_getElem _ _ inside,
    List.getD_eq_getElem _ _ inside'] at byte

/-- Agreement on whole bytes and on the highest bits of the next one, which
are those a mask keeps. -/
theorem agreeOn_masked_iff {bytes bits : Nat} {mask : UInt8}
    (fits : bits ≤ 8)
    (keeps : ∀ bit < 8,
      mask.toNat.testBit (7 - bit) = decide (bit < bits)) :
    AgreeOn (8 * bytes + bits) first second ↔
      (∀ index < bytes, first.getD index 0 = second.getD index 0) ∧
        first.getD bytes 0 &&& mask = second.getD bytes 0 &&& mask := by
  have masked (byte : UInt8) {bit : Nat} (small : bit < 8) :
      (byte &&& mask).toNat.testBit (7 - bit) =
        (byte.toNat.testBit (7 - bit) && decide (bit < bits)) := by
    rw [UInt8.toNat_and, Nat.testBit_and, keeps bit small]
  constructor
  · intro agree
    refine ⟨agreeOn_bytes_iff.mp (agree.mono (by omega)), ?_⟩
    apply byte_eq_of_bits
    intro bit small
    rw [masked _ small, masked _ small]
    by_cases kept : bit < bits
    · have same := agree (8 * bytes + bit) (by omega)
      have byte : (8 * bytes + bit) / 8 = bytes := by omega
      have position : (8 * bytes + bit) % 8 = bit := by omega
      unfold bitAt at same
      rw [byte, position] at same
      rw [same]
    · simp [kept]
  · rintro ⟨same, equal⟩ index below
    by_cases before : index < 8 * bytes
    · exact agreeOn_bytes_iff.mpr same index before
    · have byte : index / 8 = bytes := by omega
      have kept : index % 8 < bits := by omega
      have small : index % 8 < 8 := by omega
      have bit :=
        congrArg (fun byte : UInt8 => byte.toNat.testBit (7 - index % 8))
          equal
      rw [masked _ small, masked _ small, decide_eq_true kept,
        Bool.and_true, Bool.and_true] at bit
      unfold bitAt
      rw [byte]
      exact bit

end Bytes

/-- The bits of a byte under the mask of its highest `bits` bits. -/
theorem testBit_and_highMask (byte : UInt8) {bits index : Nat}
    (fits : bits ≤ 8) (inside : index < 8) :
    (UInt8.ofNat (byte.toNat &&& (255 <<< (8 - bits)))).toNat.testBit
        (7 - index) =
      (byte.toNat.testBit (7 - index) && decide (index < bits)) := by
  have high : (7 - index : Nat) < 8 := by omega
  have ones : (255 : Nat) = 2 ^ 8 - 1 := rfl
  rw [UInt8.toNat_ofNat', Nat.testBit_mod_two_pow, Nat.testBit_and,
    Nat.testBit_shiftLeft, ones, Nat.testBit_two_pow_sub_one]
  have low : 7 - index - (8 - bits) < 8 := by omega
  have shifted : 7 - index ≥ 8 - bits ↔ index < bits := by omega
  simp [high, low, shifted]

end LanShield.Library
