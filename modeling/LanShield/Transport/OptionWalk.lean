import LanShield.Transport.TcpOptions

/-!
# The options of a segment, on its bytes

A receiver reads the option bytes to their end, or to a byte that ends the
list.  `handleTcpOptions` takes that byte for padding and counts what it has
read in an index of its own, so it can find options behind the list and
behind the header.  The last option of a kind decides.
-/

namespace LanShield.Transport

open LanShield.Library LanShield.Java

/-- An option behind its kind and its size. -/
structure FoundOption where
  kind : UInt8
  value : List UInt8
  deriving DecidableEq, Repr

namespace FoundOption

/-- The number an option of this kind carries. -/
def number (kind : UInt8) (option : FoundOption) : Option Nat :=
  if option.kind = kind then some (bigEndian option.value) else none

/-- The last number that options of this kind carry. -/
def lastNumber (kind : UInt8) (options : List FoundOption) : Option Nat :=
  options.reverse.findSome? (number kind)

private theorem lastNumber_cons (kind : UInt8) (option : FoundOption)
    (options : List FoundOption) :
    lastNumber kind (option :: options) =
      (lastNumber kind options).or (number kind option) := by
  rw [lastNumber, List.reverse_cons, List.findSome?_append,
    List.findSome?_singleton, lastNumber]

end FoundOption

/-- The options a receiver finds in its option bytes: zero ends the list, one
is padding, any other kind is followed by the length of the option.  Every
round consumes at least one byte. -/
def receivedOptions : (rounds : Nat) → List UInt8 → List FoundOption
  | 0, _ => []
  | _ + 1, [] => []
  | rounds + 1, kind :: rest =>
      if kind = 0 then
        []
      else if kind = 1 then
        receivedOptions rounds rest
      else
        match rest with
        | [] => []
        | length :: body =>
            if length.toNat < 2 ∨ body.length < length.toNat - 2 then
              []
            else
              ⟨kind, body.take (length.toNat - 2)⟩ ::
                receivedOptions rounds (body.drop (length.toNat - 2))

/-- The maximum segment sizes the option bytes announce. -/
def announcedSizes (options : List UInt8) : List Nat :=
  ((receivedOptions options.length options).filter fun option =>
    option.value.length = 2).filterMap (FoundOption.number 2)

example : announcedSizes [2, 4, 0, 10, 0, 2, 4, 5, 180] = [10] := by
  decide

/-- How many bytes `handleTcpOptions` takes behind kind and size. -/
def valueLength (kind size : UInt8) : Nat :=
  if kind = 2 then
    2
  else if kind = 3 then
    1
  else if kind = 4 then
    0
  else if kind = 8 then
    8
  else
    (signed8 size.toNat - 2).toNat

/-- How many bytes its index counts for the option. -/
def countedLength (kind size : UInt8) : Int :=
  if kind = 2 then
    4
  else if kind = 3 then
    3
  else if kind = 4 then
    2
  else if kind = 8 then
    10
  else
    signed8 size.toNat

/-- The options that stand one behind the other at the front of the bytes,
until `due` bytes have been counted.  Neither zero nor one ends the list. -/
def optionsAlong : (rounds : Nat) → (due : Int) → List UInt8 →
    List FoundOption
  | 0, _, _ => []
  | _ + 1, _, [] => []
  | rounds + 1, due, kind :: rest =>
      if due ≤ 0 then
        []
      else if kind = 0 ∨ kind = 1 then
        optionsAlong rounds (due - 1) rest
      else
        match rest with
        | [] => []
        | size :: body =>
            ⟨kind, body.take (valueLength kind size)⟩ ::
              optionsAlong rounds (due - countedLength kind size)
                (body.drop (valueLength kind size))

example :
    FoundOption.lastNumber 2
        (optionsAlong 9 9 [2, 4, 0, 10, 0, 2, 4, 5, 180]) =
      some 1460 := by
  decide

private theorem optionsAlong_cons (rounds : Nat) (due : Int) (kind : UInt8)
    (rest : List UInt8) :
    optionsAlong (rounds + 1) due (kind :: rest) =
      if due ≤ 0 then
        []
      else if kind = 0 ∨ kind = 1 then
        optionsAlong rounds (due - 1) rest
      else
        match rest with
        | [] => []
        | size :: body =>
            ⟨kind, body.take (valueLength kind size)⟩ ::
              optionsAlong rounds (due - countedLength kind size)
                (body.drop (valueLength kind size)) := by
  cases rest <;> rfl

/-- The options found behind the fixed fields of a TCP header, in bytes that
may go on behind the header. -/
def walkedOptions (tcp : List UInt8) : List FoundOption :=
  optionsAlong (tcp.length - 20)
    (((tcp.getD 12 0).toNat / 16 : Nat) * 4 - 20) (tcp.drop 20)

/-- The window scale the walk ends with, zero without one. -/
def walkedScale (tcp : List UInt8) : Nat :=
  (FoundOption.lastNumber 3 (walkedOptions tcp)).getD 0

/-- The maximum segment size the walk ends with, zero without one. -/
def walkedSize (tcp : List UInt8) : Nat :=
  (FoundOption.lastNumber 2 (walkedOptions tcp)).getD 0

/-- A maximum segment size has two bytes.  The induction follows the rounds
of the walk. -/
private theorem length_value_le {rounds : Nat} :
    ∀ {due : Int} {bytes : List UInt8} {option : FoundOption},
      option ∈ optionsAlong rounds due bytes → option.kind = 2 →
        option.value.length ≤ 2 := by
  induction rounds with
  | zero =>
      intro due bytes option member
      cases member
  | succ rounds inductionHypothesis =>
      intro due bytes option member segment
      cases bytes with
      | nil => cases member
      | cons kind rest =>
          rw [optionsAlong_cons] at member
          split at member
          · cases member
          · split at member
            · exact inductionHypothesis member segment
            · cases rest with
              | nil => cases member
              | cons size body =>
                  rcases List.mem_cons.mp member with rfl | later
                  · change kind = 2 at segment
                    rw [valueLength, if_pos segment]
                    exact List.length_take_le 2 body
                  · exact inductionHypothesis later segment

theorem walkedSize_lt (tcp : List UInt8) : walkedSize tcp < 65536 := by
  rw [walkedSize]
  cases last : FoundOption.lastNumber 2 (walkedOptions tcp) with
  | none => exact Nat.two_pow_pos 16
  | some size =>
      obtain ⟨option, member, number⟩ :=
        List.exists_of_findSome?_eq_some last
      rw [List.mem_reverse] at member
      rw [FoundOption.number] at number
      split at number
      · next segment =>
        have short := length_value_le member segment
        have small := bigEndian_lt option.value
        have bound := Nat.pow_le_pow_right (by decide : 0 < 256) short
        cases number
        exact lt_of_lt_of_le small bound
      · cases number

namespace TCPPacketFactory

/-- What an option makes of the header. -/
def applyOption (header : TCPHeader) (option : FoundOption) : TCPHeader :=
  if option.kind = 2 then
    { header with maxSegmentSize := signed16 (bigEndian option.value) }
  else if option.kind = 3 then
    { header with windowScale := signed8 (bigEndian option.value) }
  else if option.kind = 4 then
    { header with isSelectiveAckPermitted := true }
  else if option.kind = 8 then
    { header with
      timeStampSender := signed32 (bigEndian (option.value.take 4))
      timeStampReplyTo := signed32 (bigEndian (option.value.drop 4)) }
  else
    header

/-- One round of the loop, on the bytes in front of and behind it. -/
inductive Found (header : TCPHeader) :
    List UInt8 → Int × TCPHeader → List UInt8 → Prop
  | padding {kind : UInt8} (rest : List UInt8)
      (short : kind = 0 ∨ kind = 1) :
      Found header (kind :: rest) (1, header) rest
  | option {kind : UInt8} (size : UInt8) (body : List UInt8)
      (long : ¬ (kind = 0 ∨ kind = 1)) :
      Found header (kind :: size :: body)
        (countedLength kind size,
          applyOption header ⟨kind, body.take (valueLength kind size)⟩)
        (body.drop (valueLength kind size))

/-- A fixed-width read takes its bytes from the front. -/
private theorem completes_front {α : Type} (count : Nat)
    (decode : List UInt8 → α) (buffer : ByteBuffer) :
    Action.Completes
      (fun value after =>
        count ≤ buffer.unread.length ∧
          value = decode (buffer.unread.take count) ∧
          after = buffer.advance count)
      (fun _ => True)
      (Reading.getBytes count >>= fun bytes => pure (decode bytes))
      buffer := by
  by_cases fits : count ≤ buffer.remaining
  · have front : buffer.unread.take count =
        slice buffer.array buffer.position count := by
      have read := @ByteBuffer.slice_unread buffer 0 count (by omega)
      rw [Nat.add_zero] at read
      exact read
    have enough : count ≤ buffer.unread.length := by
      rw [ByteBuffer.length_unread]
      exact fits
    apply Action.completes_of_ok
    · exact Reading.getBytes_bind_eq_ok.mpr ⟨fits, rfl, rfl⟩
    · exact ⟨enough, by rw [front], rfl⟩
  · have thrown : Reading.getBytes count buffer = .error .bufferUnderflow :=
      if_neg fits
    exact Action.completes_of_error (Action.bind_of_error thrown) trivial

/-- The byte in front, as the loop reads it. -/
private theorem completes_byte (buffer : ByteBuffer) :
    Action.Completes
      (fun value after =>
        ∃ byte rest,
          buffer.unread = byte :: rest ∧
            value = signed8 (bigEndian [byte]) ∧ after.unread = rest)
      (fun _ => True) Reading.getByte buffer := by
  apply (completes_front 1 (fun bytes => signed8 (bigEndian bytes))
    buffer).mono
  rintro value after ⟨enough, rfl, rfl⟩
  obtain ⟨byte, rest, unread⟩ := List.exists_cons_of_length_pos enough
  refine ⟨byte, rest, unread, ?_, ?_⟩
  · rw [unread]
    rfl
  · rw [ByteBuffer.unread_advance, unread]
    rfl

/-- An option whose value one read decodes. -/
private theorem completes_value {α : Type} {header : TCPHeader}
    {bytes : List UInt8} {buffer : ByteBuffer} (count : Nat)
    (decode : List UInt8 → α) (finish : α → Int × TCPHeader)
    (found :
      Found header bytes (finish (decode (buffer.unread.take count)))
        (buffer.unread.drop count)) :
    Action.Completes
      (fun result after => Found header bytes result after.unread)
      (fun _ => True)
      ((Reading.getBytes count >>= fun bytes => pure (decode bytes)) >>=
        fun value => pure (finish value))
      buffer := by
  apply (completes_front count decode buffer).bind
  rintro value after ⟨-, rfl, rfl⟩
  apply Action.completes_pure
  rw [ByteBuffer.unread_advance]
  exact found

/-- The cases are those of the option's kind. -/
private theorem readOption_found (header : TCPHeader) (stream : ByteBuffer) :
    Action.Completes
      (fun result after => Found header stream.unread result after.unread)
      (fun _ => True) (readOption header) stream := by
  rw [readOption]
  apply (completes_byte stream).bind
  rintro _ behindKind ⟨kind, rest, unread, rfl, restUnread⟩
  obtain ⟨is0, is1, is2, is3, is4, is8⟩ := kind_eq_iff kind
  simp only [is0, is1, is2, is3, is4, is8]
  rw [unread]
  by_cases short : kind = 0 ∨ kind = 1
  · rw [if_pos short]
    apply Action.completes_pure
    rw [restUnread]
    exact .padding rest short
  · rw [if_neg short]
    apply (completes_byte behindKind).bind
    rintro _ behindSize ⟨size, _, sizeUnread, rfl, rfl⟩
    rw [restUnread] at sizeUnread
    rw [sizeUnread]
    have size_eq : bigEndian [size] = size.toNat := bigEndian_singleton size
    have found := @Found.option header kind size behindSize.unread short
    simp only [valueLength, countedLength, applyOption] at found
    by_cases segment : kind = 2
    · simp only [if_pos segment] at found
      rw [if_pos segment]
      exact
        completes_value 2 (fun bytes => signed16 (bigEndian bytes)) _ found
    · simp only [if_neg segment] at found
      rw [if_neg segment]
      by_cases scale : kind = 3
      · simp only [if_pos scale] at found
        rw [if_pos scale]
        exact
          completes_value 1 (fun bytes => signed8 (bigEndian bytes)) _ found
      · simp only [if_neg scale] at found
        rw [if_neg scale]
        by_cases permitted : kind = 4
        · simp only [if_pos permitted, List.drop_zero] at found
          rw [if_pos permitted]
          exact Action.completes_pure found
        · simp only [if_neg permitted] at found
          rw [if_neg permitted]
          by_cases stamps : kind = 8
          · simp only [if_pos stamps] at found
            rw [if_pos stamps]
            apply
              (completes_front 4 (fun bytes => signed32 (bigEndian bytes))
                behindSize).bind
            rintro sender _ ⟨-, readSender, rfl⟩
            rw [readSender]
            refine
              completes_value 4 (fun bytes => signed32 (bigEndian bytes)) _
                ?_
            rw [ByteBuffer.unread_advance, List.drop_drop]
            rw [List.take_take, List.drop_take] at found
            exact found
          · simp only [if_neg stamps] at found
            rw [if_neg stamps, size_eq, skipRemainingOptions]
            exact
              completes_value (signed8 size.toNat - 2).toNat (fun _ => ())
                _ found

/-- Each option of the walk changes the header in turn.  The induction
follows the rounds of the loop. -/
private theorem handleTcpOptions_walk {optionsSize : Int} {rounds : Nat} :
    ∀ {index : Int} {header : TCPHeader} {stream : ByteBuffer},
      Action.Completes
        (fun result _ =>
          result =
            (optionsAlong rounds (optionsSize - index)
              stream.unread).foldl applyOption header)
        (fun _ => True) (handleTcpOptions optionsSize rounds index header)
        stream := by
  induction rounds with
  | zero =>
      intro index header stream
      rw [handleTcpOptions]
      by_cases going : index < optionsSize
      · rw [if_pos going]
        exact Action.completes_of_error rfl trivial
      · rw [if_neg going]
        exact Action.completes_pure rfl
  | succ rounds inductionHypothesis =>
      intro index header stream
      rw [handleTcpOptions_succ]
      by_cases going : index < optionsSize
      · have due : ¬ optionsSize - index ≤ 0 := by omega
        rw [if_pos going]
        apply (readOption_found header stream).bind
        rintro ⟨step, next⟩ middle found
        apply inductionHypothesis.mono
        intro result after walked
        rw [walked, ← Int.sub_sub]
        generalize stream.unread = bytes at found ⊢
        generalize middle.unread = rest at found ⊢
        cases found with
        | padding rest short =>
            rw [optionsAlong_cons, if_neg due, if_pos short]
        | option size body long =>
            rw [optionsAlong_cons, if_neg due, if_neg long]
            rfl
      · have ended : optionsSize - index ≤ 0 := by omega
        rw [if_neg going]
        apply Action.completes_pure
        cases stream.unread with
        | nil => rfl
        | cons kind rest =>
            rw [optionsAlong_cons, if_pos ended]
            rfl

/-- The header comes from the fixed fields and the options of the walk. -/
private theorem createTCPHeader_walk {stream after : ByteBuffer}
    {header : TCPHeader}
    (parsed : createTCPHeader stream = .ok (header, after)) :
    header =
      (walkedOptions stream.unread).foldl applyOption
        (fixedHeader stream) := by
  by_cases short : stream.remaining < 20
  · rw [createTCPHeader_short short] at parsed
    cases parsed
  · have enough : 20 ≤ stream.remaining := by omega
    have offset_eq :
        (stream.unread.getD 12 0).toNat / 16 = dataOffset stream := by
      obtain ⟨byte, read⟩ := @exists_byte stream 12 (by omega)
      have unread := @ByteBuffer.slice_unread stream 12 1 (by omega)
      rw [dataOffset, read, bigEndian_singleton,
        getD_of_slice (unread.trans read)]
    rw [walkedOptions, offset_eq, ByteBuffer.length_unread,
      ← ByteBuffer.unread_advance]
    rw [createTCPHeader_of_twenty enough, fixedHeader_dataOffset] at parsed
    split at parsed
    · cases parsed
    · split at parsed
      · have walked :=
          @handleTcpOptions_walk ((dataOffset stream : Int) * 4 - 20)
            (stream.remaining - 20) 0 (fixedHeader stream)
            (stream.advance 20)
        rw [Action.Completes, parsed] at walked
        rw [Int.sub_zero] at walked
        exact walked
      · have ended : (dataOffset stream : Int) * 4 - 20 ≤ 0 := by omega
        cases parsed
        cases stream.remaining - 20 with
        | zero => rfl
        | succ rounds =>
            cases (stream.advance 20).unread with
            | nil => rfl
            | cons kind rest =>
                rw [optionsAlong_cons, if_pos ended]
                rfl

/-- A field that only options of one kind change is the number of the last
one. -/
private theorem foldl_applyOption {Value : Type} {field : TCPHeader → Value}
    {kind : UInt8} {decode : Nat → Value}
    (changes :
      ∀ header option,
        field (applyOption header option) =
          ((FoundOption.number kind option).map decode).getD (field header))
    (options : List FoundOption) (header : TCPHeader) :
    field (options.foldl applyOption header) =
      ((FoundOption.lastNumber kind options).map decode).getD
        (field header) := by
  induction options generalizing header with
  | nil => rfl
  | cons option options inductionHypothesis =>
      rw [List.foldl_cons, inductionHypothesis, FoundOption.lastNumber_cons]
      cases FoundOption.lastNumber kind options with
      | some number => rfl
      | none => exact changes header option

section Parsed

variable {stream after : ByteBuffer} {header : TCPHeader}

theorem windowScale_walk
    (parsed : createTCPHeader stream = .ok (header, after)) :
    header.windowScale = signed8 (walkedScale stream.unread) := by
  have walked := congrArg TCPHeader.windowScale (createTCPHeader_walk parsed)
  rw [@foldl_applyOption Int TCPHeader.windowScale 3
    (fun number => signed8 number)] at walked
  · rw [walked, walkedScale]
    cases FoundOption.lastNumber 3 (walkedOptions stream.unread) with
    | some number => rfl
    | none => rfl
  · intro header option
    rw [applyOption, FoundOption.number]
    split_ifs <;> simp_all

theorem maxSegmentSize_walk
    (parsed : createTCPHeader stream = .ok (header, after)) :
    header.maxSegmentSize = signed16 (walkedSize stream.unread) := by
  have walked :=
    congrArg TCPHeader.maxSegmentSize (createTCPHeader_walk parsed)
  rw [@foldl_applyOption Int TCPHeader.maxSegmentSize 2
    (fun number => signed16 number)] at walked
  · rw [walked, walkedSize]
    cases FoundOption.lastNumber 2 (walkedOptions stream.unread) with
    | some number =>
        rw [Option.map_some, Option.getD_some, Option.getD_some]
    | none =>
        have zero : signed16 0 = 0 :=
          signed16_eq_self (by omega) (by omega)
        rw [Option.map_none, Option.getD_none, Option.getD_none,
          Nat.cast_zero, zero]
        rfl
  · intro header option
    rw [applyOption, FoundOption.number]
    by_cases own : option.kind = 2
    · rw [if_pos own, if_pos own, Option.map_some, Option.getD_some]
    · rw [if_neg own, if_neg own, Option.map_none, Option.getD_none]
      split_ifs <;> rfl

end Parsed

end TCPPacketFactory

end LanShield.Transport
