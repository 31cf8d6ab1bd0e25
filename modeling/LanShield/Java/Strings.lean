import LanShield.Java.ByteBuffer
import Mathlib.Data.List.DropRight

/-!
# The parts of Kotlin's strings the database texts are read with

White space and digits are those of Unicode, as far as they are single
`char`s.
-/

namespace LanShield.Java

/-- `Char.isWhitespace`, which are the characters that are white space or
spaces for Java. -/
def isWhitespace (letter : Char) : Bool :=
  let code := letter.toNat
  (9 ≤ code ∧ code ≤ 13) ∨ (0x1C ≤ code ∧ code ≤ 0x20) ∨ code = 0xA0 ∨
    code = 0x1680 ∨ (0x2000 ≤ code ∧ code ≤ 0x200A) ∨ code = 0x2028 ∨
      code = 0x2029 ∨ code = 0x202F ∨ code = 0x205F ∨ code = 0x3000

/-- `isBlank`. -/
def isBlank (text : String) : Bool :=
  text.toList.all isWhitespace

/-- `trim`. -/
def trim (text : String) : String :=
  String.ofList
    ((text.toList.dropWhile isWhitespace).rdropWhile isWhitespace)

/-- A text without white space at either end. -/
structure Trimmed (text : String) : Prop where
  first : text.toList.head?.any isWhitespace = false
  last : text.toList.getLast?.any isWhitespace = false

instance (text : String) : Decidable (Trimmed text) :=
  decidable_of_iff
    (text.toList.head?.any isWhitespace = false ∧
      text.toList.getLast?.any isWhitespace = false)
    ⟨fun both => ⟨both.1, both.2⟩, fun both => ⟨both.first, both.last⟩⟩

theorem Trimmed.trim_eq {text : String} (trimmed : Trimmed text) :
    trim text = text := by
  obtain ⟨first, last⟩ := trimmed
  have front : text.toList.dropWhile isWhitespace = text.toList := by
    apply List.dropWhile_eq_self_iff.mpr
    intro nonempty
    rw [List.head?_eq_getElem?, List.getElem?_eq_getElem nonempty,
      Option.any_some] at first
    exact Bool.eq_false_iff.mp first
  have back : text.toList.rdropWhile isWhitespace = text.toList := by
    apply List.rdropWhile_eq_self_iff.mpr
    intro nonempty
    rw [List.getLast?_eq_some_getLast nonempty, Option.any_some] at last
    exact Bool.eq_false_iff.mp last
  rw [trim, front, back, String.ofList_toList]

/-- `lastIndexOf`, `none` where Kotlin returns `-1`. -/
def lastIndexOf (text : String) (letter : Char) : Option Nat :=
  if letter ∈ text.toList then
    some (text.length - 1 - text.toList.reverse.idxOf letter)
  else
    none

/-- `substring`. -/
def substring (text : String) (startIndex endIndex : Nat) : String :=
  String.ofList ((text.toList.take endIndex).drop startIndex)

section LastPlace

variable {text : String} {front back : List Char} {letter : Char}

theorem lastIndexOf_eq (whole : text.toList = front ++ letter :: back)
    (free : letter ∉ back) : lastIndexOf text letter = some front.length := by
  have behind : text.toList.reverse.idxOf letter = back.length := by
    rw [whole, List.reverse_append, List.reverse_cons, List.append_assoc,
      List.idxOf_append_of_notMem (by simpa using free), List.length_reverse,
      List.singleton_append, List.idxOf_cons_self, Nat.add_zero]
  have length : text.length = front.length + (back.length + 1) := by
    rw [← String.length_toList, whole, List.length_append, List.length_cons]
  rw [lastIndexOf, if_pos (by simp [whole]), behind]
  congr 1
  omega

theorem substring_front (whole : text.toList = front ++ letter :: back) :
    substring text 0 front.length = String.ofList front := by
  rw [substring, whole, List.take_left, List.drop_zero]

theorem substring_back (whole : text.toList = front ++ letter :: back) :
    substring text (front.length + 1) text.length = String.ofList back := by
  rw [substring, ← String.length_toList, List.take_length, whole,
    ← List.drop_drop, List.drop_left, List.drop_one, List.tail_cons]

end LastPlace

/-- The `char`s of a text, two for a letter outside the first plane. -/
def chars (text : String) : List UInt16 :=
  text.toList.flatMap fun letter =>
    let code := letter.toNat
    if code < 0x10000 then
      [code.toUInt16]
    else
      [(0xD800 + (code - 0x10000) / 0x400).toUInt16,
        (0xDC00 + (code - 0x10000) % 0x400).toUInt16]

/-- `String.CASE_INSENSITIVE_ORDER`, where `fold` takes a `char` to upper case
and back to lower case. -/
def caseInsensitiveOrder (fold : UInt16 → UInt16) :
    List UInt16 → List UInt16 → Ordering :=
  compareOn (List.map fold)

instance (fold : UInt16 → UInt16) :
    Std.TransCmp (caseInsensitiveOrder fold) :=
  inferInstanceAs (Std.TransCmp (compareOn (List.map fold)))

/-- `contains` with `ignoreCase`. -/
def containsIgnoringCase (fold : UInt16 → UInt16)
    (text other : List UInt16) : Bool :=
  other.map fold <:+: text.map fold

/-- The zeros of the decimal digits. -/
def decimalZeros : List Nat :=
  [0x30, 0x660, 0x6F0, 0x7C0, 0x966, 0x9E6, 0xA66, 0xAE6, 0xB66, 0xBE6,
    0xC66, 0xCE6, 0xD66, 0xDE6, 0xE50, 0xED0, 0xF20, 0x1040, 0x1090,
    0x17E0, 0x1810, 0x1946, 0x19D0, 0x1A80, 0x1A90, 0x1B50, 0x1BB0, 0x1C40,
    0x1C50, 0xA620, 0xA8D0, 0xA900, 0xA9D0, 0xA9F0, 0xAA50, 0xABF0, 0xFF10]

/-- `Character.digit` with radix 10. -/
def digitOf (letter : Char) : Option Nat :=
  (decimalZeros.find? fun first =>
      first ≤ letter.toNat ∧ letter.toNat < first + 10).map
    fun first => letter.toNat - first

/-- The value of digits, of which there is one at least. -/
def digitsValue (digits : List Char) : Option Nat :=
  if digits = [] then
    none
  else
    digits.foldlM
      (fun value letter => (digitOf letter).map (value * 10 + ·)) 0

/-- The value of an optional sign and digits. -/
def signedValue : List Char → Option Int
  | '-' :: digits => (digitsValue digits).map fun value => -value
  | '+' :: digits => (digitsValue digits).map fun value => value
  | digits => (digitsValue digits).map fun value => value

/-- `toIntOrNull`. -/
def toIntOrNull (text : String) : Option Int32 := do
  let value ← signedValue text.toList
  if -2147483648 ≤ value ∧ value ≤ 2147483647 then
    return Int32.ofInt value
  else
    none

/-- `toInt`. -/
def toInt (text : String) : Except JavaException Int32 :=
  match toIntOrNull text with
  | some value => .ok value
  | none => .error .numberFormat

private theorem digitOf_digitChar :
    ∀ digit < 10, digitOf (Nat.digitChar digit) = some digit := by
  decide

private theorem foldlM_toDigits (number : Nat) :
    (Nat.toDigits 10 number).foldlM
        (fun value letter => (digitOf letter).map (value * 10 + ·)) 0 =
      some number := by
  induction number using Nat.strong_induction_on with
  | _ number inductionHypothesis =>
      rcases Nat.lt_or_ge number 10 with small | large
      · rw [Nat.toDigits_of_lt_base small, List.foldlM_cons]
        simp [digitOf_digitChar number small]
      · rw [Nat.toDigits_of_base_le (by decide) large, List.foldlM_append,
          inductionHypothesis _ (by omega)]
        have last := digitOf_digitChar (number % 10) (by omega)
        simp [last]
        omega

private theorem digitsValue_toDigits (number : Nat) :
    digitsValue (Nat.toDigits 10 number) = some number := by
  rw [digitsValue, if_neg Nat.toDigits_ne_nil, foldlM_toDigits]

/-! ### Printed numbers -/

theorem toList_toString_nat (magnitude : Nat) :
    (toString (magnitude : Int)).toList = Nat.toDigits 10 magnitude := by
  rw [Int.toString_eq_repr, Int.repr_eq_if, if_pos (by omega),
    Int.toNat_natCast, Nat.toList_repr]

private theorem toList_toString_negSucc (magnitude : Nat) :
    (toString (Int.negSucc magnitude)).toList =
      '-' :: Nat.toDigits 10 (magnitude + 1) := by
  rw [Int.toString_eq_repr, Int.repr_eq_if, if_neg (by omega),
    String.toList_append, Int.neg_negSucc]
  exact congrArg ('-' :: ·) Nat.toList_repr

private theorem signedValue_toDigits (magnitude : Nat) :
    signedValue (Nat.toDigits 10 magnitude) = some (magnitude : Int) := by
  have value := digitsValue_toDigits magnitude
  have digits {letter : Char}
      (member : letter ∈ Nat.toDigits 10 magnitude) :
      letter.isDigit = true :=
    Nat.isDigit_of_mem_toDigits (by decide) (by decide) member
  rw [signedValue.eq_def]
  split
  case h_1 rest text =>
      rw [text] at digits
      exact absurd (digits List.mem_cons_self) (by decide)
  case h_2 rest text =>
      rw [text] at digits
      exact absurd (digits List.mem_cons_self) (by decide)
  case h_3 =>
      rw [value]
      rfl

private theorem signedValue_toString (number : Int) :
    signedValue (toString number).toList = some number := by
  rcases number with magnitude | magnitude
  · rw [Int.ofNat_eq_natCast, toList_toString_nat, signedValue_toDigits]
  · rw [toList_toString_negSucc, signedValue, digitsValue_toDigits,
      Int.negSucc_eq]
    rfl

theorem toIntOrNull_toString (number : Int32) :
    toIntOrNull (toString number.toInt) = some number := by
  have low := number.le_toInt
  have high := number.toInt_lt
  rw [toIntOrNull, signedValue_toString]
  simp only [Option.bind_eq_bind, Option.bind_some]
  rw [if_pos (by omega), Int32.ofInt_toInt]
  rfl

/-- A printed number consists of digits and a sign. -/
theorem isDigit_of_mem_toString {number : Int} {letter : Char}
    (member : letter ∈ (toString number).toList) :
    letter = '-' ∨ letter.isDigit = true := by
  have digit {magnitude : Nat}
      (member : letter ∈ Nat.toDigits 10 magnitude) :
      letter.isDigit = true :=
    Nat.isDigit_of_mem_toDigits (by decide) (by decide) member
  rcases number with magnitude | magnitude
  · rw [Int.ofNat_eq_natCast, toList_toString_nat] at member
    exact Or.inr (digit member)
  · rw [toList_toString_negSucc, List.mem_cons] at member
    exact member.imp_right digit

private theorem isWhitespace_of_isDigit {letter : Char}
    (digit : letter.isDigit = true) : isWhitespace letter = false := by
  have bounds : 48 ≤ letter.toNat ∧ letter.toNat ≤ 57 :=
    Char.isDigit_iff_toNat.mp digit
  simp only [isWhitespace, decide_eq_false_iff_not]
  omega

theorem isBlank_toString (number : Int) :
    isBlank (toString number) = false := by
  have nonempty : (toString number).toList ≠ [] := by
    intro empty
    have value := signedValue_toString number
    rw [empty] at value
    cases value
  obtain ⟨letter, member⟩ := List.exists_mem_of_ne_nil _ nonempty
  rw [isBlank, List.all_eq_false]
  refine ⟨letter, member, ?_⟩
  rcases isDigit_of_mem_toString member with rfl | digit
  · decide
  · simpa using isWhitespace_of_isDigit digit

end LanShield.Java
