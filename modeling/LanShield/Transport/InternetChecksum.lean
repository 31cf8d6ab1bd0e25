import LanShield.Transport.Checksums

/-!
# `calculateChecksum` and the Internet checksum

`getNetworkInt` reads an odd last byte as the low byte of its word, where the
Internet checksum has it as the high byte.  Everything else of the two is the
same, and no step of the loops overflows.
-/

namespace LanShield.Library

/-- The one's complement of the one's complement sum of the words. -/
def internetChecksum (bytes : List UInt8) : List UInt8 :=
  toBigEndian 2 (65535 - onesSum bytes)

/-- Only a zero adds nothing as an odd last byte. -/
private theorem oddByte_eq_zero_iff (bytes : List UInt8) :
    oddByte bytes = 0 ↔
      bytes.length % 2 = 0 ∨ bytes.getLast? = some 0 := by
  induction bytes using wordSum.induct with
  | case1 => simp [oddByte]
  | case2 high => simp [oddByte, ← UInt8.toNat_inj]
  | case3 high low rest inductionHypothesis =>
      have parity :
          (high :: low :: rest).length % 2 = rest.length % 2 := by
        simp only [List.length_cons]
        omega
      rw [oddByte, inductionHypothesis, parity]
      cases rest with
      | nil => simp
      | cons next later => simp [List.getLast?_cons]

end LanShield.Library

namespace LanShield.Transport.PacketUtil

open LanShield.Library LanShield.Java LanShield.Transport

/-- Every addition of the summing loop stays inside an `int`. -/
def SumsInRange (data : List UInt8) : (start words : Nat) → Int → Prop
  | _, 0, _ => True
  | start, words + 1, sum =>
      (-2 ^ 31 ≤ sum + getNetworkInt data start 2 ∧
          sum + getNetworkInt data start 2 < 2 ^ 31) ∧
        SumsInRange data (start + 2) words
          (signed32 (sum + getNetworkInt data start 2))

/-- The sum `calculateChecksum` folds for a whole array. -/
def unfolded (data : List UInt8) : Int :=
  sumWords data 0 ((data.length - 0 + 1) / 2) 0

/-- `calculateChecksum` of a whole array sums and folds without overflow, its
folding loop ends, and it returns the Internet checksum. -/
structure ComputesInternetChecksum (data : List UInt8) : Prop where
  sums : SumsInRange data 0 ((data.length - 0 + 1) / 2) 0
  folds :
    ∀ rounds,
      0 ≤ carryOver rounds (unfolded data) ∧
        carryOver rounds (unfolded data) < 2 ^ 31
  ends : ∃ rounds, ¬ 0 < carryOver rounds (unfolded data) / 65536
  checksum :
    calculateChecksum data 0 data.length = internetChecksum data

section Sums

variable {data : List UInt8}

/-- The additions stay in range as long as all words together do. -/
private theorem sumsInRange {words : Nat} :
    ∀ {start : Nat} {sum : Int}, 0 ≤ sum →
      sum + unpaddedSum (slice data start (2 * words)) < 2 ^ 31 →
        SumsInRange data start words sum := by
  induction words with
  | zero =>
      intro start sum _ _
      trivial
  | succ words inductionHypothesis =>
      intro start sum nonneg small
      have word := getNetworkInt_add data start words
      have positive := getNetworkInt_eq data start
      have exact :
          signed32 (sum + getNetworkInt data start 2) =
            sum + getNetworkInt data start 2 := by
        rw [signed32]
        omega
      refine ⟨by omega, ?_⟩
      rw [exact]
      exact inductionHypothesis (by omega) (by omega)

/-- All words of an array, an odd last byte as a low one. -/
private theorem unfolded_eq (short : data.length ≤ 65535) :
    unfolded data = unpaddedSum data ∧ unpaddedSum data < 2 ^ 31 := by
  have bound := wordSum_le data
  rw [wordSum_eq_unpaddedSum] at bound
  have small : unpaddedSum data < 2 ^ 31 := by omega
  exact ⟨sumWords_whole small, small⟩

private theorem carryOver_inRange {rounds : Nat} :
    ∀ {sum : Int}, 0 ≤ sum → sum < 2 ^ 31 →
      0 ≤ carryOver rounds sum ∧ carryOver rounds sum < 2 ^ 31 := by
  induction rounds with
  | zero =>
      intro sum nonneg small
      exact ⟨nonneg, small⟩
  | succ rounds inductionHypothesis =>
      intro sum nonneg small
      rw [carryOver]
      split
      · exact inductionHypothesis (by omega) (by omega)
      · exact ⟨nonneg, small⟩

private theorem toBigEndian_two_eq_iff (first second : Int) :
    toBigEndian 2 first = toBigEndian 2 second ↔
      first % 65536 = second % 65536 := by
  constructor
  · intro same
    rw [← wordSum_toBigEndian, ← wordSum_toBigEndian, same]
  · intro same
    apply bigEndian_inj
    · rw [length_toBigEndian, length_toBigEndian]
    · rw [← Int.natCast_inj, bigEndian_toBigEndian, bigEndian_toBigEndian]
      exact same

/-- The two checksums differ by what an odd last byte counts too little. -/
private theorem calculateChecksum_eq_iff (short : data.length ≤ 65535) :
    calculateChecksum data 0 data.length = internetChecksum data ↔
      oddByte data = 0 := by
  obtain ⟨whole, small⟩ := unfolded_eq short
  obtain ⟨nonneg, ended, same, zero⟩ :=
    carryOver_three (Int.natCast_nonneg (unpaddedSum data)) (by omega)
  obtain ⟨onesSame, onesZero, onesSmall⟩ := onesSum_mod data
  have padded := wordSum_eq_unpaddedSum data
  have byte := oddByte_lt data
  rw [calculateChecksum, internetChecksum, ← unfolded, whole,
    toBigEndian_two_eq_iff]
  omega

end Sums

/-- For every array, also near the limit of the accumulator, the result is
the Internet checksum exactly if an odd last byte is zero. -/
theorem computesInternetChecksum_iff {data : List UInt8}
    (short : data.length ≤ 65535) :
    ComputesInternetChecksum data ↔
      data.length % 2 = 0 ∨ data.getLast? = some 0 := by
  rw [← oddByte_eq_zero_iff, ← calculateChecksum_eq_iff short]
  obtain ⟨whole, small⟩ := unfolded_eq short
  constructor
  · intro computes
    exact computes.checksum
  · intro checksum
    refine ⟨?_, ?_, ⟨3, ?_⟩, checksum⟩
    · apply sumsInRange (le_refl 0)
      rw [slice_words]
      omega
    · intro rounds
      rw [whole]
      exact carryOver_inRange (Int.natCast_nonneg _) (by omega)
    · rw [whole]
      have ended := @carryOver_three_le (unpaddedSum data) (by omega)
      omega

/-- An echo reply with one byte of data, as `packetToBuffer` sums it. -/
def oddReply : List UInt8 :=
  [0, 0, 0, 0, 0, 1, 0, 2, 65]

theorem computesInternetChecksum_iff_even :
    ComputesInternetChecksum (oddReply ++ [66]) ↔
      10 % 2 = 0 ∨ (oddReply ++ [66]).getLast? = some 0 :=
  computesInternetChecksum_iff (by decide)

/-- The last byte counts as the low byte of its word. -/
theorem oddReply_checksum :
    ¬ ComputesInternetChecksum oddReply ∧
      calculateChecksum oddReply 0 9 = [0xFF, 0xBB] ∧
      internetChecksum oddReply = [0xBE, 0xFC] := by
  refine ⟨?_, by decide, by decide⟩
  intro computes
  exact absurd computes.checksum (by decide)

end LanShield.Transport.PacketUtil
