import LanShield.Library.OnesComplement
import LanShield.Transport.PacketUtil

/-!
# The checksum loop computes one's complement checksums

`calculateChecksum` complements the sum of its 16-bit words, so that a block
which gets the result for its checksum field passes the receiver's test.
-/

namespace LanShield.Transport.PacketUtil

open LanShield.Library LanShield.Java LanShield.Transport

theorem overwrite_append_left {front source : List UInt8} {offset : Nat}
    (fits : offset + source.length ≤ front.length) (back : List UInt8) :
    overwrite (front ++ back) offset source =
      overwrite front offset source ++ back := by
  unfold overwrite
  rw [List.take_append_of_le_length (by omega),
    List.drop_append_of_le_length fits, List.append_assoc,
    List.append_assoc, List.append_assoc]

theorem overwrite_append_right (front back source : List UInt8)
    (offset : Nat) :
    overwrite (front ++ back) (front.length + offset) source =
      front ++ overwrite back offset source := by
  unfold overwrite
  rw [List.take_length_add_append, Nat.add_assoc,
    List.drop_length_add_append, List.append_assoc, List.append_assoc,
    List.append_assoc]

theorem overwrite_whole {buffer source : List UInt8}
    (same : source.length = buffer.length) :
    overwrite buffer 0 source = source := by
  rw [overwrite]
  rw [List.take_zero, List.nil_append, Nat.zero_add, same,
    List.drop_length, List.append_nil]

/-- The bytes before `offset` and behind what was copied stay. -/
theorem overwrite_overwrite {buffer first second : List UInt8}
    {offset : Nat} (room : offset ≤ buffer.length)
    (same : first.length = second.length) :
    overwrite (overwrite buffer offset first) offset second =
      overwrite buffer offset second := by
  have taken : (buffer.take offset).length = offset := by
    rw [List.length_take]
    exact Nat.min_eq_left room
  have restored :
      (buffer.take offset ++ first ++
          buffer.drop (offset + first.length)).drop
          (offset + second.length) =
        buffer.drop (offset + second.length) := by
    rw [← same]
    exact List.drop_left' (by rw [List.length_append, taken])
  unfold overwrite
  rw [restored, List.append_assoc (buffer.take offset) first,
    List.take_left' taken]

/-- A word is read without a sign. -/
theorem getNetworkInt_eq (data : List UInt8) (start : Nat) :
    getNetworkInt data start 2 = bigEndian (slice data start 2) := by
  have bound := bigEndian_slice_lt data start 2
  rw [getNetworkInt, signed32, Nat.min_eq_left (by decide : 2 ≤ 4)]
  omega

/-- One round reads a word, or what is left of one. -/
theorem getNetworkInt_add (data : List UInt8) (start words : Nat) :
    getNetworkInt data start 2 +
        unpaddedSum (slice data (start + 2) (2 * words)) =
      unpaddedSum (slice data start (2 * (words + 1))) := by
  have split :
      slice data start (2 * (words + 1)) =
        slice data start 2 ++ slice data (start + 2) (2 * words) := by
    rw [Nat.mul_succ, Nat.add_comm (2 * words), slice_add]
  have size := length_slice data start 2
  rw [getNetworkInt_eq, split]
  match first : slice data start 2 with
  | high :: low :: more =>
      have none : more = [] := by
        apply List.eq_nil_of_length_eq_zero
        rw [first, List.length_cons, List.length_cons] at size
        omega
      rw [none]
      simp only [bigEndian, List.foldl_cons, List.foldl_nil,
        List.cons_append, List.nil_append, unpaddedSum]
      omega
  | [last] =>
      rw [first, List.length_singleton] at size
      have nothing : slice data (start + 2) (2 * words) = [] := by
        apply List.eq_nil_of_length_eq_zero
        rw [length_slice]
        omega
      rw [nothing]
      simp [bigEndian, unpaddedSum]
  | [] =>
      rw [first, List.length_nil] at size
      have nothing : slice data (start + 2) (2 * words) = [] := by
        apply List.eq_nil_of_length_eq_zero
        rw [length_slice]
        omega
      rw [nothing]
      rfl

/-- The loop adds the words of the bytes it runs over, an odd last byte as
a low one. -/
private theorem sumWords_eq {data : List UInt8} {words : Nat} :
    ∀ {start : Nat} {sum : Int}, 0 ≤ sum →
      sum + unpaddedSum (slice data start (2 * words)) < 2 ^ 31 →
        sumWords data start words sum =
          sum + unpaddedSum (slice data start (2 * words)) := by
  induction words with
  | zero =>
      intro start sum _ _
      simp [sumWords, slice, unpaddedSum]
  | succ words inductionHypothesis =>
      intro start sum nonneg small
      have word := getNetworkInt_add data start words
      have positive := getNetworkInt_eq data start
      have exact :
          signed32 (sum + getNetworkInt data start 2) =
            sum + getNetworkInt data start 2 := by
        rw [signed32]
        omega
      rw [sumWords, exact, inductionHypothesis (by omega) (by omega)]
      omega

/-- The rounds of the loop run over the whole array. -/
theorem slice_words (data : List UInt8) :
    slice data 0 (2 * ((data.length - 0 + 1) / 2)) = data := by
  rw [slice, List.drop_zero]
  apply List.take_of_length_le
  omega

theorem sumWords_whole {data : List UInt8}
    (small : unpaddedSum data < 2 ^ 31) :
    sumWords data 0 ((data.length - 0 + 1) / 2) 0 = unpaddedSum data := by
  have looped :=
    @sumWords_eq data ((data.length - 0 + 1) / 2) 0 0 (le_refl _)
  rw [slice_words, Int.zero_add] at looped
  exact looped (by omega)

/-- Carrying over keeps a sum modulo 65535, and makes no sum zero. -/
theorem carryOver_three {sum : Int} (nonneg : 0 ≤ sum)
    (small : sum < 2 ^ 31) :
    0 ≤ carryOver 3 sum ∧ carryOver 3 sum < 65536 ∧
      carryOver 3 sum % 65535 = sum % 65535 ∧
      (carryOver 3 sum = 0 ↔ sum = 0) := by
  have ended := carryOver_three_le small
  simp only [carryOver] at ended ⊢
  split_ifs at ended ⊢ <;> omega

/-- Together with its checksum the sum the loop makes is a positive multiple
of 65535. -/
private theorem calculateChecksum_unpadded {data : List UInt8}
    (small : unpaddedSum data < 2 ^ 31) :
    let word := calculateChecksum data 0 data.length
    0 < wordSum word + unpaddedSum data ∧
      (wordSum word + unpaddedSum data) % 65535 = 0 := by
  obtain ⟨nonneg, ended, same, zero⟩ :=
    carryOver_three (Int.natCast_nonneg (unpaddedSum data)) (by omega)
  have complement :=
    wordSum_toBigEndian (-carryOver 3 (unpaddedSum data : Int) - 1)
  rw [calculateChecksum]
  dsimp only
  rw [sumWords_whole small]
  omega

/-- Together with its checksum a block of whole words adds up to a positive
multiple of 65535. -/
theorem calculateChecksum_spec {data : List UInt8}
    (even : data.length % 2 = 0) (small : wordSum data < 2 ^ 31) :
    let word := calculateChecksum data 0 data.length
    0 < wordSum word + wordSum data ∧
      (wordSum word + wordSum data) % 65535 = 0 := by
  have unpadded : wordSum data = unpaddedSum data := by
    rw [wordSum_eq_unpaddedSum, oddByte_of_even even, Nat.mul_zero,
      Nat.add_zero]
  rw [unpadded] at small ⊢
  exact calculateChecksum_unpadded small

/-- A block that gets the result for its checksum field passes the test
behind a pseudo-header exactly when the pseudo-header, and an odd last byte
counted 255 times, vanish from the sum. -/
theorem validChecksum_filled {pseudo front back : List UInt8}
    (pseudoEven : pseudo.length % 2 = 0) (even : front.length % 2 = 0)
    (small : unpaddedSum (front ++ [0, 0] ++ back) < 2 ^ 31) :
    let zeroed := front ++ [0, 0] ++ back
    ValidChecksum
        (pseudo ++
          (front ++ calculateChecksum zeroed 0 zeroed.length ++ back)) ↔
      (wordSum pseudo + 255 * oddByte zeroed) % 65535 = 0 := by
  intro zeroed
  have sumSmall : unpaddedSum zeroed < 2 ^ 31 := small
  obtain ⟨positive, divisible⟩ := calculateChecksum_unpadded sumSmall
  have two :
      (calculateChecksum zeroed 0 zeroed.length).length = 2 := by
    rw [calculateChecksum]
    exact length_toBigEndian 2 _
  have padded : wordSum zeroed = unpaddedSum zeroed + 255 * oddByte zeroed :=
    wordSum_eq_unpaddedSum zeroed
  have filled :
      wordSum
          (front ++ calculateChecksum zeroed 0 zeroed.length ++ back) =
        wordSum zeroed +
          wordSum (calculateChecksum zeroed 0 zeroed.length) :=
    wordSum_fill back even two
  rw [validChecksum_iff, wordSum_append pseudoEven, filled]
  omega

/-- The loop reads nothing behind the index it stops at. -/
theorem calculateChecksum_append {front : List UInt8}
    (even : front.length % 2 = 0) (back : List UInt8) :
    calculateChecksum (front ++ back) 0 front.length =
      calculateChecksum front 0 front.length := by
  have same (words : Nat) :
      ∀ (start : Nat) (sum : Int),
        start + 2 * words ≤ front.length →
          sumWords (front ++ back) start words sum =
            sumWords front start words sum := by
    induction words with
    | zero =>
        intro start sum _
        rfl
    | succ words inductionHypothesis =>
        intro start sum within
        have word :
            getNetworkInt (front ++ back) start 2 =
              getNetworkInt front start 2 := by
          unfold getNetworkInt
          rw [slice_append_left (by omega)]
        rw [sumWords, sumWords, word]
        exact inductionHypothesis _ _ (by omega)
  unfold calculateChecksum
  rw [same _ _ _ (by omega)]

/-- Zeroing the word at `index` and writing the checksum there. -/
def sealAt (index : Nat) (bytes : List UInt8) : List UInt8 :=
  let zeroed := overwrite bytes index [0, 0]
  overwrite zeroed index (calculateChecksum zeroed 0 bytes.length)

/-- A word written over a zero word adds to the sum. -/
theorem wordSum_overwrite {bytes word : List UInt8} {index : Nat}
    (even : index % 2 = 0) (fits : index + 2 ≤ bytes.length)
    (two : word.length = 2) :
    wordSum (overwrite bytes index word) =
      wordSum (overwrite bytes index [0, 0]) + wordSum word := by
  have taken : (bytes.take index).length % 2 = 0 := by
    rw [List.length_take]
    omega
  rw [overwrite]
  rw [two]
  exact wordSum_fill _ taken two

/-- A block whose words at `index` hold the checksum of the block with a
zero there passes the receiver's test. -/
theorem validChecksum_overwrite {bytes word : List UInt8} {index : Nat}
    (even : index % 2 = 0) (fits : index + 2 ≤ bytes.length)
    (two : word.length = 2)
    (positive : 0 < wordSum word + wordSum (overwrite bytes index [0, 0]))
    (divisible :
      (wordSum word + wordSum (overwrite bytes index [0, 0])) % 65535 =
        0) :
    ValidChecksum (overwrite bytes index word) := by
  rw [validChecksum_iff, wordSum_overwrite even fits two, Nat.add_comm]
  exact ⟨positive, divisible⟩

@[simp]
theorem length_calculateChecksum (data : List UInt8)
    (offset length : Nat) :
    (calculateChecksum data offset length).length = 2 := by
  rw [calculateChecksum]
  exact length_toBigEndian 2 _

theorem length_sealAt {bytes : List UInt8} {index : Nat}
    (fits : index + 2 ≤ bytes.length) :
    (sealAt index bytes).length = bytes.length := by
  have zeroed : (overwrite bytes index [0, 0]).length = bytes.length :=
    length_overwrite fits
  rw [sealAt]
  rw [length_overwrite, zeroed]
  rw [length_calculateChecksum, zeroed]
  exact fits

theorem validChecksum_sealAt {bytes : List UInt8} {index : Nat}
    (evenLength : bytes.length % 2 = 0) (even : index % 2 = 0)
    (fits : index + 2 ≤ bytes.length) (short : bytes.length < 65536) :
    ValidChecksum (sealAt index bytes) := by
  have zeroed : (overwrite bytes index [0, 0]).length = bytes.length :=
    length_overwrite fits
  have small := wordSum_le (overwrite bytes index [0, 0])
  rw [zeroed] at small
  have summed :=
    @calculateChecksum_spec (overwrite bytes index [0, 0]) (by omega)
      (by omega)
  rw [zeroed] at summed
  have rewritten :
      sealAt index bytes =
        overwrite bytes index
          (calculateChecksum (overwrite bytes index [0, 0]) 0
            bytes.length) :=
    overwrite_overwrite (by omega)
      (length_calculateChecksum _ _ _).symm
  rw [rewritten]
  exact
    validChecksum_overwrite even fits (length_calculateChecksum _ _ _)
      summed.1 summed.2

/-- A checksum changes no other byte. -/
theorem slice_sealAt {bytes : List UInt8} {index start count : Nat}
    (fits : index + 2 ≤ bytes.length)
    (outside : start + count ≤ index ∨ index + 2 ≤ start) :
    slice (sealAt index bytes) start count = slice bytes start count := by
  have zeroed : (overwrite bytes index [0, 0]).length = bytes.length :=
    length_overwrite fits
  rw [sealAt]
  rw [slice_overwrite_outside, slice_overwrite_outside fits outside]
  · rw [length_calculateChecksum, zeroed]
    exact fits
  · rw [length_calculateChecksum]
    exact outside

end LanShield.Transport.PacketUtil
