import LanShield.Transport.IPHeader
import Mathlib.Tactic.SplitIfs

/-!
# Checksums and byte-array helpers of `PacketUtil`
-/

namespace LanShield.Transport.PacketUtil

open LanShield.Library LanShield.Java LanShield.Transport

/-- `getNetworkInt`: at most four bytes from `start` on, fewer at the end of
the array. -/
def getNetworkInt (buffer : List UInt8) (start length : Nat) : Int :=
  signed32 (bigEndian (slice buffer start (min length 4)))

/-- `while((sum >> 16) > 0) sum = (sum & 0xffff) + (sum >> 16)`, for at
most `rounds` rounds. -/
def carryOver : (rounds : Nat) → (sum : Int) → Int
  | 0, sum => sum
  | rounds + 1, sum =>
      if 0 < sum / 65536 then
        carryOver rounds (sum % 65536 + sum / 65536)
      else
        sum

/-- Three rounds end the loop for every `int`. -/
theorem carryOver_three_le {sum : Int} (small : sum < 2 ^ 31) :
    carryOver 3 sum / 65536 ≤ 0 := by
  simp only [carryOver]
  split_ifs <;> omega

/-- The summing loop of `calculateChecksum`, with `words` iterations. -/
def sumWords (data : List UInt8) : (start words : Nat) → Int → Int
  | _, 0, sum => sum
  | start, words + 1, sum =>
      sumWords data (start + 2) words
        (signed32 (sum + getNetworkInt data start 2))

/-- `calculateChecksum`; `length` is the index the loop stops at. -/
def calculateChecksum (data : List UInt8) (offset length : Nat) :
    List UInt8 :=
  let sum :=
    carryOver 3 (sumWords data offset ((length - offset + 1) / 2) 0)
  toBigEndian 2 (-sum - 1)

/-- `System.arraycopy` of a whole source array into `buffer` at `offset`,
where it fits. -/
def overwrite (buffer : List UInt8) (offset : Nat) (source : List UInt8) :
    List UInt8 :=
  buffer.take offset ++ source ++ buffer.drop (offset + source.length)

/-- `IPHeader.calculateIpChecksum`; IPv6 has none. -/
def calculateIpChecksum (header : IPHeader) (buffer : List UInt8) :
    List UInt8 :=
  match header with
  | .v4 header =>
      let zeroed := overwrite buffer 10 [0, 0]
      overwrite zeroed 10
        (calculateChecksum zeroed 0 header.getIPHeaderLength)
  | .v6 _ => buffer

/-- `calculateTCPHeaderChecksum`. -/
def calculateTCPHeaderChecksum
    (data : List UInt8) (offset tcpLength : Nat) (ipHeader : IPHeader) :
    Except JavaException (List UInt8) := do
  let pseudoTcpHeader ← ipHeader.getTcpPseudoHeader (signed16 tcpLength)
  let buffer := pseudoTcpHeader ++ slice data offset tcpLength
  let padded :=
    if buffer.length % 2 ≠ 0 then buffer ++ [0] else buffer
  return calculateChecksum padded 0 padded.length

/-- `writeIntToBytes`, which writes nothing when there is no room. -/
def writeIntToBytes (value : Int) (buffer : List UInt8) (offset : Nat) :
    List UInt8 :=
  if buffer.length < offset + 4 then
    buffer
  else
    buffer.take offset ++ toBigEndian 4 value ++ buffer.drop (offset + 4)

@[simp]
theorem length_overwrite {buffer : List UInt8} {offset : Nat}
    {source : List UInt8} (fits : offset + source.length ≤ buffer.length) :
    (overwrite buffer offset source).length = buffer.length := by
  simp only [overwrite, List.length_append, List.length_take,
    List.length_drop]
  omega

/-- Inside the bytes that were copied the buffer holds the copy. -/
theorem slice_overwrite_inside {buffer source : List UInt8}
    {offset start count : Nat} (room : offset ≤ buffer.length)
    (within : start + count ≤ source.length) :
    slice (overwrite buffer offset source) (offset + start) count =
      slice source start count := by
  have skipped :
      (overwrite buffer offset source).drop offset =
        source ++ buffer.drop (offset + source.length) := by
    rw [overwrite]
    rw [List.append_assoc, List.drop_append_of_le_length,
      List.drop_take_self, List.nil_append]
    rw [List.length_take]
    omega
  unfold slice
  rw [← List.drop_drop, skipped, List.drop_append_of_le_length (by omega),
    List.take_append_of_le_length]
  rw [List.length_drop]
  omega

/-- Outside them it holds what it held before. -/
theorem slice_overwrite_outside {buffer source : List UInt8}
    {offset start count : Nat}
    (fits : offset + source.length ≤ buffer.length)
    (outside : start + count ≤ offset ∨ offset + source.length ≤ start) :
    slice (overwrite buffer offset source) start count =
      slice buffer start count := by
  apply List.ext_getElem?
  intro index
  unfold slice overwrite
  by_cases inside : index < count
  · simp only [List.getElem?_take, List.getElem?_drop, if_pos inside]
    rcases outside with before | behind
    · rw [List.append_assoc, List.getElem?_append_left,
        List.getElem?_take_of_lt]
      · omega
      · rw [List.length_take]
        omega
    · rw [List.getElem?_append_right, List.getElem?_drop]
      · congr 1
        rw [List.length_append, List.length_take]
        omega
      · rw [List.length_append, List.length_take]
        omega
  · simp only [List.getElem?_take, if_neg inside]

end LanShield.Transport.PacketUtil
