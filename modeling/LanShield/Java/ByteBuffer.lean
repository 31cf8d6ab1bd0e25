import LanShield.Library.BigEndian
import LanShield.Library.SerialNumber

/-!
# The parts of the Java platform the engine reads packets with

Exceptions are values of `JavaException`.  A `ByteBuffer` is a backing array
with a position and a limit; the fields `position_le_limit` and
`limit_le_capacity` are the class's own invariant, so a buffer outside it
cannot be built.  Relative reads are actions of `Reading`: they either
return a value and advance the position, or throw.
-/

namespace LanShield.Java

open LanShield.Library

/-- The exceptions the modelled code can raise. -/
inductive JavaException where
  | packetHeader (message : String)
  | illegalArgument (message : String)
  | illegalState (message : String)
  | bufferUnderflow
  | bufferOverflow
  | indexOutOfBounds
  | unknownHost
  | nullPointer
  | numberFormat
  | nonterminating
  deriving DecidableEq, Repr

/-- `java.nio.ByteBuffer` over an accessible array with array offset zero. -/
structure ByteBuffer where
  array : List UInt8
  position : Nat
  limit : Nat
  position_le_limit : position ≤ limit
  limit_le_capacity : limit ≤ array.length
  deriving DecidableEq

namespace ByteBuffer

def capacity (buffer : ByteBuffer) : Nat :=
  buffer.array.length

def remaining (buffer : ByteBuffer) : Nat :=
  buffer.limit - buffer.position

def hasRemaining (buffer : ByteBuffer) : Bool :=
  decide (buffer.position < buffer.limit)

/-- The bytes between position and limit. -/
def unread (buffer : ByteBuffer) : List UInt8 :=
  slice buffer.array buffer.position buffer.remaining

/-- `ByteBuffer.wrap`. -/
def wrap (bytes : List UInt8) : ByteBuffer where
  array := bytes
  position := 0
  limit := bytes.length
  position_le_limit := Nat.zero_le _
  limit_le_capacity := le_refl _

/-- `ByteBuffer.allocate`. -/
def allocate (capacity : Nat) : ByteBuffer :=
  wrap (List.replicate capacity 0)

def rewind (buffer : ByteBuffer) : ByteBuffer where
  array := buffer.array
  position := 0
  limit := buffer.limit
  position_le_limit := Nat.zero_le _
  limit_le_capacity := buffer.limit_le_capacity

/-- Skip `count` bytes, or all that remain. -/
def advance (buffer : ByteBuffer) (count : Nat) : ByteBuffer where
  array := buffer.array
  position := min (buffer.position + count) buffer.limit
  limit := buffer.limit
  position_le_limit := Nat.min_le_right _ _
  limit_le_capacity := buffer.limit_le_capacity

/-- The relative bulk `put`. -/
def put (buffer : ByteBuffer) (bytes : List UInt8) :
    Except JavaException ByteBuffer :=
  if fits : bytes.length ≤ buffer.remaining then
    .ok
      { array :=
          buffer.array.take buffer.position ++ bytes ++
            buffer.array.drop (buffer.position + bytes.length)
        position := buffer.position + bytes.length
        limit := buffer.limit
        position_le_limit := by
          have := buffer.position_le_limit
          simp only [remaining] at fits
          omega
        limit_le_capacity := by
          have := buffer.position_le_limit
          have := buffer.limit_le_capacity
          simp only [remaining] at fits
          simp only [List.length_append, List.length_take,
            List.length_drop]
          omega }
  else
    .error .bufferOverflow

private theorem length_le_compacted (buffer : ByteBuffer) :
    buffer.array.length ≤
      (buffer.unread ++ buffer.array.drop buffer.remaining).length := by
  have := buffer.position_le_limit
  have := buffer.limit_le_capacity
  simp only [unread, remaining, slice, List.length_append,
    List.length_take, List.length_drop]
  omega

/-- `compact`: the bytes between position and limit are copied to the start
of the array, the bytes behind them stay as they were, the position is set
behind the copied bytes and the limit to the capacity. -/
def compact (buffer : ByteBuffer) : ByteBuffer where
  array := buffer.unread ++ buffer.array.drop buffer.remaining
  position := buffer.remaining
  limit := buffer.array.length
  position_le_limit :=
    (Nat.sub_le _ _).trans buffer.limit_le_capacity
  limit_le_capacity := buffer.length_le_compacted

/-- The absolute `get`. -/
def getAt (buffer : ByteBuffer) (index : Nat) :
    Except JavaException UInt8 :=
  if inside : index < buffer.limit then
    .ok
      (buffer.array.get
        ⟨index, inside.trans_le buffer.limit_le_capacity⟩)
  else
    .error .indexOutOfBounds

/-- The absolute `getShort`. -/
def getShortAt (buffer : ByteBuffer) (index : Nat) :
    Except JavaException Int :=
  if index + 2 ≤ buffer.limit then
    .ok (signed16 (bigEndian (slice buffer.array index 2)))
  else
    .error .indexOutOfBounds

theorem getAt_eq_ok {buffer : ByteBuffer} {index : Nat} {byte : UInt8}
    (read : buffer.getAt index = .ok byte) :
    index < buffer.limit ∧
      byte.toNat = bigEndian (slice buffer.array index 1) := by
  rw [getAt] at read
  split at read
  · next inside =>
    have within := inside.trans_le buffer.limit_le_capacity
    have one : slice buffer.array index 1 = [buffer.array[index]] := by
      rw [slice]
      rw [List.drop_eq_getElem_cons within]
      rfl
    cases read
    refine ⟨inside, ?_⟩
    rw [one, bigEndian_cons]
    simp [List.get_eq_getElem]
  · cases read

theorem getShortAt_eq_ok {buffer : ByteBuffer} {index : Nat} {value : Int}
    (read : buffer.getShortAt index = .ok value) :
    value = signed16 (bigEndian (slice buffer.array index 2)) := by
  rw [getShortAt] at read
  split at read
  · exact (Except.ok.inj read).symm
  · cases read

theorem getAt_of_lt {buffer : ByteBuffer} {index : Nat}
    (inside : index < buffer.limit) : ∃ byte, buffer.getAt index = .ok byte :=
  ⟨_, dif_pos inside⟩

theorem getShortAt_of_le {buffer : ByteBuffer} {index : Nat}
    (inside : index + 2 ≤ buffer.limit) :
    ∃ value, buffer.getShortAt index = .ok value :=
  ⟨_, if_pos inside⟩

theorem length_unread (buffer : ByteBuffer) :
    buffer.unread.length = buffer.remaining := by
  have := buffer.position_le_limit
  have := buffer.limit_le_capacity
  rw [unread, length_slice_of_le]
  simp only [remaining]
  omega

/-- What is read at an index behind the position. -/
theorem slice_unread {buffer : ByteBuffer} {start count : Nat}
    (within : start + count ≤ buffer.remaining) :
    slice buffer.unread start count =
      slice buffer.array (buffer.position + start) count := by
  unfold unread slice
  rw [List.drop_take, List.drop_drop, List.take_take,
    Nat.min_eq_left (by omega)]

@[simp]
theorem array_advance (buffer : ByteBuffer) (count : Nat) :
    (buffer.advance count).array = buffer.array :=
  rfl

@[simp]
theorem limit_advance (buffer : ByteBuffer) (count : Nat) :
    (buffer.advance count).limit = buffer.limit :=
  rfl

@[simp]
theorem array_rewind (buffer : ByteBuffer) :
    buffer.rewind.array = buffer.array :=
  rfl

@[simp]
theorem position_rewind (buffer : ByteBuffer) :
    buffer.rewind.position = 0 :=
  rfl

theorem position_advance {buffer : ByteBuffer} {count : Nat}
    (fits : count ≤ buffer.remaining) :
    (buffer.advance count).position = buffer.position + count := by
  have := buffer.position_le_limit
  simp only [remaining] at fits
  simp only [advance]
  omega

@[simp]
theorem advance_zero (buffer : ByteBuffer) : buffer.advance 0 = buffer := by
  have within := buffer.position_le_limit
  cases buffer
  simp only [advance, Nat.add_zero, ByteBuffer.mk.injEq, true_and, and_true]
  exact Nat.min_eq_left within

/-- Only the bytes that remain can be skipped. -/
theorem advance_min (buffer : ByteBuffer) (count : Nat) :
    buffer.advance (min count buffer.remaining) = buffer.advance count := by
  have := buffer.position_le_limit
  simp only [advance, remaining, ByteBuffer.mk.injEq, true_and, and_true]
  omega

theorem unread_advance (buffer : ByteBuffer) (count : Nat) :
    (buffer.advance count).unread = buffer.unread.drop count := by
  have := buffer.position_le_limit
  simp only [unread, advance, remaining, slice, List.drop_take,
    List.drop_drop]
  by_cases inside : buffer.position + count ≤ buffer.limit
  · rw [Nat.min_eq_left inside]
    congr 1
    omega
  · rw [Nat.min_eq_right (by omega), Nat.sub_self, List.take_zero,
      Nat.sub_eq_zero_of_le (by omega), List.take_zero]

@[simp]
theorem unread_wrap (bytes : List UInt8) : (wrap bytes).unread = bytes := by
  simp [unread, wrap, remaining, slice]

@[simp]
theorem remaining_wrap (bytes : List UInt8) :
    (wrap bytes).remaining = bytes.length :=
  rfl

theorem hasRemaining_iff (buffer : ByteBuffer) :
    buffer.hasRemaining = true ↔ 0 < buffer.remaining := by
  simp only [hasRemaining, remaining, decide_eq_true_eq]
  omega

/-- After `compact`, what a reader of the remaining bytes sees is not what
was unread before, but the bytes that lie behind the copy. -/
theorem unread_compact (buffer : ByteBuffer) :
    buffer.compact.unread = buffer.array.drop buffer.remaining := by
  change
    ((buffer.unread ++ buffer.array.drop buffer.remaining).drop
          buffer.remaining).take
        (buffer.array.length - buffer.remaining) =
      buffer.array.drop buffer.remaining
  rw [List.drop_left' buffer.length_unread]
  exact List.take_of_length_le (List.length_drop ..).le

@[simp]
theorem remaining_advance (buffer : ByteBuffer) (count : Nat) :
    (buffer.advance count).remaining = buffer.remaining - count := by
  have := buffer.position_le_limit
  simp only [remaining, advance]
  omega

@[simp]
theorem advance_advance (buffer : ByteBuffer) (first second : Nat) :
    (buffer.advance first).advance second =
      buffer.advance (first + second) := by
  simp only [advance, ByteBuffer.mk.injEq, true_and, and_true]
  omega

end ByteBuffer

/-- An action on a buffer that returns a value or throws. -/
abbrev Reading :=
  StateT ByteBuffer (Except JavaException)

namespace Reading

def throw {α : Type} (exception : JavaException) : Reading α :=
  fun _ => .error exception

/-- The relative bulk `get`. -/
def getBytes (count : Nat) : Reading (List UInt8) := fun buffer =>
  if count ≤ buffer.remaining then
    .ok (slice buffer.array buffer.position count, buffer.advance count)
  else
    .error .bufferUnderflow

/-- `get`: one byte, as a signed number. -/
def getByte : Reading Int := do
  let bytes ← getBytes 1
  return signed8 (bigEndian bytes)

/-- `getShort`. -/
def getShort : Reading Int := do
  let bytes ← getBytes 2
  return signed16 (bigEndian bytes)

/-- `getInt`. -/
def getInt : Reading Int := do
  let bytes ← getBytes 4
  return signed32 (bigEndian bytes)

/-- `position(int)`. -/
def setPosition (index : Nat) : Reading Unit := fun buffer =>
  if inside : index ≤ buffer.limit then
    .ok
      ((), { buffer with
        position := index
        position_le_limit := inside })
  else
    .error (.illegalArgument "newPosition > limit")

/-- An absolute read leaves the position alone. -/
def absolute {α : Type}
    (read : ByteBuffer → Except JavaException α) : Reading α :=
  fun buffer => (read buffer).map fun value => (value, buffer)

theorem bind_eq_ok {α β : Type}
    {action : Reading α} {next : α → Reading β}
    {buffer : ByteBuffer} {result : β × ByteBuffer} :
    (action >>= next) buffer = .ok result ↔
      ∃ value after,
        action buffer = .ok (value, after) ∧
          next value after = .ok result := by
  simp only [bind, StateT.bind, Except.bind]
  cases outcome : action buffer with
  | error exception =>
      simp
  | ok pair =>
      obtain ⟨value, after⟩ := pair
      simp

theorem bind_of_eq_ok {α β : Type}
    {action : Reading α} {next : α → Reading β}
    {buffer after : ByteBuffer} {value : α}
    (outcome : action buffer = .ok (value, after)) :
    (action >>= next) buffer = next value after := by
  simp only [bind, StateT.bind, Except.bind, outcome]

theorem map_of_eq_ok {α β : Type} {action : Reading α} {f : α → β}
    {buffer after : ByteBuffer} {value : α}
    (outcome : action buffer = .ok (value, after)) :
    (f <$> action) buffer = .ok (f value, after) := by
  simp only [Functor.map, StateT.map, bind, Except.bind, outcome]
  rfl

theorem map_of_eq_error {α β : Type} {action : Reading α} {f : α → β}
    {buffer : ByteBuffer} {exception : JavaException}
    (outcome : action buffer = .error exception) :
    (f <$> action) buffer = .error exception := by
  simp only [Functor.map, StateT.map, bind, Except.bind, outcome]

theorem modify_bind {α : Type} (f : ByteBuffer → ByteBuffer)
    (next : PUnit → Reading α) (buffer : ByteBuffer) :
    (modify f >>= next) buffer = next ⟨⟩ (f buffer) :=
  rfl

theorem pure_eq_ok {α : Type}
    {value result : α} {buffer after : ByteBuffer} :
    (pure value : Reading α) buffer = .ok (result, after) ↔
      result = value ∧ after = buffer := by
  change Except.ok (value, buffer) = Except.ok (result, after) ↔ _
  rw [Except.ok.injEq, Prod.mk.injEq, eq_comm, @eq_comm _ after]

theorem getBytes_eq_ok {count : Nat} {buffer after : ByteBuffer}
    {result : List UInt8} :
    getBytes count buffer = .ok (result, after) ↔
      count ≤ buffer.remaining ∧
        result = slice buffer.array buffer.position count ∧
        after = buffer.advance count := by
  rw [getBytes]
  split <;> simp_all [eq_comm]

theorem get_bind {α : Type} (next : ByteBuffer → Reading α)
    (buffer : ByteBuffer) :
    (get >>= next) buffer = next buffer buffer :=
  rfl

@[simp]
theorem throw_apply {α : Type} (exception : JavaException)
    (buffer : ByteBuffer) :
    (throw exception : Reading α) buffer = .error exception :=
  rfl

theorem setPosition_eq_ok {index : Nat} {buffer after : ByteBuffer}
    {result : Unit}
    (done : setPosition index buffer = .ok (result, after)) :
    index ≤ buffer.limit ∧ after.array = buffer.array ∧
      after.position = index ∧ after.limit = buffer.limit := by
  rw [setPosition] at done
  split at done
  · next inside =>
    cases done
    exact ⟨inside, rfl, rfl, rfl⟩
  · cases done

theorem setPosition_of_le {index : Nat} {buffer : ByteBuffer}
    (inside : index ≤ buffer.limit) :
    ∃ after,
      setPosition index buffer = .ok ((), after) ∧
        after.position = index ∧ after.limit = buffer.limit :=
  ⟨_, dif_pos inside, rfl, rfl⟩

theorem absolute_eq_ok {α : Type}
    {read : ByteBuffer → Except JavaException α}
    {buffer after : ByteBuffer} {result : α} :
    absolute read buffer = .ok (result, after) ↔
      read buffer = .ok result ∧ after = buffer := by
  rw [absolute]
  cases outcome : read buffer with
  | error exception =>
      simp [Except.map]
  | ok read_value =>
      simp [Except.map, eq_comm]

/-- A fixed-width read that decodes the bytes it takes. -/
theorem getBytes_bind_eq_ok {α : Type} {count : Nat}
    {decode : List UInt8 → α} {buffer after : ByteBuffer} {result : α} :
    (getBytes count >>= fun bytes => pure (decode bytes)) buffer =
        .ok (result, after) ↔
      count ≤ buffer.remaining ∧
        result = decode (slice buffer.array buffer.position count) ∧
        after = buffer.advance count := by
  simp only [bind_eq_ok, getBytes_eq_ok, pure_eq_ok, and_assoc,
    exists_and_left, exists_eq_left]

theorem getByte_eq_ok {buffer after : ByteBuffer} {result : Int} :
    getByte buffer = .ok (result, after) ↔
      1 ≤ buffer.remaining ∧
        result =
          signed8 (bigEndian (slice buffer.array buffer.position 1)) ∧
        after = buffer.advance 1 :=
  getBytes_bind_eq_ok

theorem getShort_eq_ok {buffer after : ByteBuffer} {result : Int} :
    getShort buffer = .ok (result, after) ↔
      2 ≤ buffer.remaining ∧
        result =
          signed16 (bigEndian (slice buffer.array buffer.position 2)) ∧
        after = buffer.advance 2 :=
  getBytes_bind_eq_ok

theorem getInt_eq_ok {buffer after : ByteBuffer} {result : Int} :
    getInt buffer = .ok (result, after) ↔
      4 ≤ buffer.remaining ∧
        result =
          signed32 (bigEndian (slice buffer.array buffer.position 4)) ∧
        after = buffer.advance 4 :=
  getBytes_bind_eq_ok

section Advanced

variable {buffer : ByteBuffer} {offset : Nat}

/-- A fixed-width read behind bytes that were skipped. -/
private theorem getBytes_advance {α : Type} {count : Nat}
    {decode : List UInt8 → α}
    (fits : offset + count ≤ buffer.remaining) :
    (getBytes count >>= fun bytes => pure (decode bytes))
        (buffer.advance offset) =
      .ok
        (decode (slice buffer.array (buffer.position + offset) count),
          buffer.advance (offset + count)) := by
  have skipped :
      (buffer.advance offset).position = buffer.position + offset :=
    ByteBuffer.position_advance (by omega)
  rw [getBytes_bind_eq_ok, ByteBuffer.remaining_advance,
    ByteBuffer.array_advance, skipped, ByteBuffer.advance_advance]
  exact ⟨by omega, rfl, rfl⟩

theorem getByte_advance (fits : offset + 1 ≤ buffer.remaining) :
    getByte (buffer.advance offset) =
      .ok
        (signed8
            (bigEndian (slice buffer.array (buffer.position + offset) 1)),
          buffer.advance (offset + 1)) :=
  getBytes_advance fits

theorem getShort_advance (fits : offset + 2 ≤ buffer.remaining) :
    getShort (buffer.advance offset) =
      .ok
        (signed16
            (bigEndian (slice buffer.array (buffer.position + offset) 2)),
          buffer.advance (offset + 2)) :=
  getBytes_advance fits

theorem getInt_advance (fits : offset + 4 ≤ buffer.remaining) :
    getInt (buffer.advance offset) =
      .ok
        (signed32
            (bigEndian (slice buffer.array (buffer.position + offset) 4)),
          buffer.advance (offset + 4)) :=
  getBytes_advance fits

end Advanced

end Reading

end LanShield.Java
