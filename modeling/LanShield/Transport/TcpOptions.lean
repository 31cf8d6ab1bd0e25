import LanShield.Library.Throwing
import LanShield.Transport.PacketReparse

/-!
# Where the option loop of the TCP parser ends

The loop counts what it has read in an index of its own.  It ends at the
payload exactly when the option bytes are a list of options whose sizes the
index follows.
-/

namespace LanShield.Java.Reading

open LanShield.Library

/-- A fixed-width read returns, or the buffer underflows. -/
private theorem completes_decode {α : Type} (count : Nat)
    (decode : List UInt8 → α) (buffer : ByteBuffer) :
    Action.Completes
      (fun value after =>
        count ≤ buffer.remaining ∧
          value = decode (slice buffer.array buffer.position count) ∧
          after = buffer.advance count)
      (· = .bufferUnderflow)
      (getBytes count >>= fun bytes => pure (decode bytes)) buffer := by
  by_cases fits : count ≤ buffer.remaining
  · exact
      Action.completes_of_ok (getBytes_bind_eq_ok.mpr ⟨fits, rfl, rfl⟩)
        ⟨fits, rfl, rfl⟩
  · have thrown : getBytes count buffer = .error .bufferUnderflow :=
      if_neg fits
    exact Action.completes_of_error (Action.bind_of_error thrown) rfl

end LanShield.Java.Reading

namespace LanShield.Transport.TCPPacketFactory

open LanShield.Library LanShield.Java

/-- How many bytes the loop takes for an option behind its kind and size, if
the index moves by as many. -/
def optionBody (kind size : UInt8) : Option Nat :=
  if kind = 2 then
    some 2
  else if kind = 3 then
    some 1
  else if kind = 4 then
    some 0
  else if kind = 8 then
    some 8
  else if 2 ≤ size.toNat ∧ size.toNat < 128 then
    some (size.toNat - 2)
  else
    none

/-- The bytes of one option.  The end-of-options byte is one like any
other. -/
inductive TcpOption : List UInt8 → Prop where
  | single (kind : UInt8) (short : kind = 0 ∨ kind = 1) : TcpOption [kind]
  | sized (kind size : UInt8) (body : List UInt8)
      (long : ¬ (kind = 0 ∨ kind = 1))
      (taken : optionBody kind size = some body.length) :
      TcpOption (kind :: size :: body)

/-- Options one behind the other. -/
inductive OptionList : List UInt8 → Prop where
  | nil : OptionList []
  | cons (option rest : List UInt8) (first : TcpOption option)
      (later : OptionList rest) : OptionList (option ++ rest)

private theorem TcpOption.length_pos {option : List UInt8}
    (bytes : TcpOption option) : 0 < option.length := by
  cases bytes with
  | single kind short =>
      exact Nat.one_pos
  | sized kind size body long taken =>
      exact Nat.succ_pos _

/-- One option: how far the index moves, and what the header becomes. -/
def readOption (header : TCPHeader) : Reading (Int × TCPHeader) := do
  let optionKind ← Reading.getByte
  if optionKind = 0 ∨ optionKind = 1 then
    return (1, header)
  else
    let size ← Reading.getByte
    if optionKind = 2 then
      let maxSegmentSize ← Reading.getShort
      return (4, { header with maxSegmentSize })
    else if optionKind = 3 then
      let windowScale ← Reading.getByte
      return (3, { header with windowScale })
    else if optionKind = 4 then
      return (2, { header with isSelectiveAckPermitted := true })
    else if optionKind = 8 then
      let timeStampSender ← Reading.getInt
      let timeStampReplyTo ← Reading.getInt
      return (10, { header with timeStampSender, timeStampReplyTo })
    else
      skipRemainingOptions size
      return (size, header)

theorem handleTcpOptions_succ (optionsSize : Int) (rounds : Nat)
    (index : Int) (header : TCPHeader) :
    handleTcpOptions optionsSize (rounds + 1) index header =
      if index < optionsSize then do
        let option ← readOption header
        handleTcpOptions optionsSize rounds (index + option.1) option.2
      else
        return header := by
  rw [handleTcpOptions]
  by_cases going : index < optionsSize
  · rw [if_pos going, if_pos going, readOption, bind_assoc]
    congr 1
    funext optionKind
    by_cases short : optionKind = 0 ∨ optionKind = 1
    · rw [if_pos short, if_pos short, pure_bind]
    · rw [if_neg short, if_neg short, bind_assoc]
      congr 1
      funext size
      have other : index + 2 + size - 2 = index + size := by omega
      rw [other]
      split_ifs
      · rw [bind_assoc]
        rfl
      · rw [bind_assoc]
        rfl
      · rfl
      · rw [bind_assoc]
        congr 1
        funext timeStampSender
        rw [bind_assoc]
        rfl
      · rw [bind_assoc]
        rfl
  · rw [if_neg going, if_neg going]

theorem exists_byte {stream : ByteBuffer} {offset : Nat}
    (inside : offset + 1 ≤ stream.remaining) :
    ∃ byte, slice stream.array (stream.position + offset) 1 = [byte] := by
  have within := stream.limit_le_capacity
  have ahead := stream.position_le_limit
  rw [ByteBuffer.remaining] at inside
  have length_eq :
      (slice stream.array (stream.position + offset) 1).length = 1 :=
    length_slice_of_le (by omega)
  exact List.length_eq_one_iff.mp length_eq

/-- A byte as the loop compares it. -/
private theorem signed8_byte_eq_iff (byte : UInt8) {number : Nat}
    (small : number < 128) :
    signed8 (bigEndian [byte]) = number ↔ byte = UInt8.ofNat number := by
  have below := byte.toNat_lt
  rw [← UInt8.toNat_inj, UInt8.toNat_ofNat', bigEndian_cons, bigEndian_nil,
    List.length_nil, pow_zero, Nat.mul_one, Nat.add_zero, signed8]
  omega

/-- The kinds the loop knows, as bytes. -/
theorem kind_eq_iff (byte : UInt8) :
    (signed8 (bigEndian [byte]) = 0 ↔ byte = 0) ∧
      (signed8 (bigEndian [byte]) = 1 ↔ byte = 1) ∧
      (signed8 (bigEndian [byte]) = 2 ↔ byte = 2) ∧
      (signed8 (bigEndian [byte]) = 3 ↔ byte = 3) ∧
      (signed8 (bigEndian [byte]) = 4 ↔ byte = 4) ∧
      (signed8 (bigEndian [byte]) = 8 ↔ byte = 8) :=
  ⟨signed8_byte_eq_iff byte (by decide : 0 < 128),
    signed8_byte_eq_iff byte (by decide : 1 < 128),
    signed8_byte_eq_iff byte (by decide : 2 < 128),
    signed8_byte_eq_iff byte (by decide : 3 < 128),
    signed8_byte_eq_iff byte (by decide : 4 < 128),
    signed8_byte_eq_iff byte (by decide : 8 < 128)⟩

/-- The size byte of an option of unknown kind. -/
private theorem optionBody_other {kind size : UInt8}
    (unknown : kind ≠ 2 ∧ kind ≠ 3 ∧ kind ≠ 4 ∧ kind ≠ 8) :
    optionBody kind size =
      if 2 ≤ signed8 (bigEndian [size]) then
        some (signed8 (bigEndian [size]) - 2).toNat
      else
        none := by
  obtain ⟨not2, not3, not4, not8⟩ := unknown
  have small := size.toNat_lt
  have value_eq : bigEndian [size] = size.toNat := by
    rw [bigEndian_cons, bigEndian_nil, List.length_nil, pow_zero,
      Nat.mul_one, Nat.add_zero]
  rw [optionBody, if_neg not2, if_neg not3, if_neg not4, if_neg not8,
    value_eq, signed8]
  by_cases long : 2 ≤ size.toNat ∧ size.toNat < 128
  · rw [if_pos long, if_pos (by omega)]
    congr 1
    omega
  · rw [if_neg long, if_neg (by omega)]

/-- What one round has taken: no less than the index moves, and as much
only when the bytes are an option. -/
def Took (step : Int) (stream after : ByteBuffer) : Prop :=
  ∃ taken : Nat,
    0 < taken ∧ taken ≤ stream.remaining ∧ after = stream.advance taken ∧
      step ≤ taken ∧
      (step = taken →
        TcpOption (slice stream.array stream.position taken))

private theorem took_single {stream : ByteBuffer} {kind : UInt8}
    (room : 1 ≤ stream.remaining)
    (read : slice stream.array stream.position 1 = [kind])
    (short : kind = 0 ∨ kind = 1) : Took 1 stream (stream.advance 1) := by
  refine ⟨1, Nat.one_pos, room, rfl, le_rfl, fun _ => ?_⟩
  rw [read]
  exact TcpOption.single kind short

private theorem took_sized {step : Int} {stream : ByteBuffer}
    {kind size : UInt8}
    (body : Nat) (room : 2 + body ≤ stream.remaining)
    (readKind : slice stream.array stream.position 1 = [kind])
    (readSize : slice stream.array (stream.position + 1) 1 = [size])
    (long : ¬ (kind = 0 ∨ kind = 1)) (behind : step ≤ 2 + body)
    (follows : step = 2 + body → optionBody kind size = some body) :
    Took step stream (stream.advance (2 + body)) := by
  refine ⟨2 + body, by omega, room, rfl, by omega, fun same => ?_⟩
  have within := stream.limit_le_capacity
  have inside := stream.position_le_limit
  rw [ByteBuffer.remaining] at room
  have body_length :
      (slice stream.array (stream.position + 2) body).length = body :=
    length_slice_of_le (by omega)
  have two : slice stream.array stream.position 2 = [kind, size] := by
    rw [slice_add stream.array stream.position 1 1, readKind, readSize]
    rfl
  rw [slice_add, two]
  apply TcpOption.sized kind size
    (slice stream.array (stream.position + 2) body) long
  rw [body_length]
  exact follows (by omega)

/-- The cases are those of the option's kind. -/
private theorem readOption_took (header : TCPHeader) (stream : ByteBuffer) :
    Action.Completes (fun option after => Took option.1 stream after)
      (· = .bufferUnderflow) (readOption header) stream := by
  rw [readOption]
  apply (Reading.completes_decode 1 _ stream).bind
  rintro kind _ ⟨room, rfl, rfl⟩
  obtain ⟨byte, readKind⟩ := exists_byte room
  rw [Nat.add_zero] at readKind
  rw [readKind]
  obtain ⟨is0, is1, is2, is3, is4, is8⟩ := kind_eq_iff byte
  simp only [is0, is1, is2, is3, is4, is8]
  by_cases short : byte = 0 ∨ byte = 1
  · rw [if_pos short]
    exact Action.completes_pure (took_single room readKind short)
  · rw [if_neg short]
    apply (Reading.completes_decode 1 _ (stream.advance 1)).bind
    rintro size _ ⟨roomSize, rfl, rfl⟩
    rw [ByteBuffer.remaining_advance] at roomSize
    obtain ⟨sizeByte, readSize⟩ := @exists_byte stream 1 (by omega)
    rw [ByteBuffer.position_advance room, ByteBuffer.array_advance,
      readSize, ByteBuffer.advance_advance]
    by_cases segment : byte = 2
    · rw [if_pos segment]
      apply (Reading.completes_decode 2 _ _).bind
      rintro maxSegmentSize _ ⟨roomBody, -, rfl⟩
      rw [ByteBuffer.remaining_advance] at roomBody
      rw [ByteBuffer.advance_advance]
      apply Action.completes_pure
      apply took_sized 2 (by omega) readKind readSize short le_rfl
      intro _
      rw [segment]
      rfl
    · rw [if_neg segment]
      by_cases scale : byte = 3
      · rw [if_pos scale]
        apply (Reading.completes_decode 1 _ _).bind
        rintro windowScale _ ⟨roomBody, -, rfl⟩
        rw [ByteBuffer.remaining_advance] at roomBody
        rw [ByteBuffer.advance_advance]
        apply Action.completes_pure
        apply took_sized 1 (by omega) readKind readSize short le_rfl
        intro _
        rw [scale]
        rfl
      · rw [if_neg scale]
        by_cases permitted : byte = 4
        · rw [if_pos permitted]
          apply Action.completes_pure
          apply took_sized 0 (by omega) readKind readSize short le_rfl
          intro _
          rw [permitted]
          rfl
        · rw [if_neg permitted]
          by_cases stamps : byte = 8
          · rw [if_pos stamps]
            apply (Reading.completes_decode 4 _ _).bind
            rintro sender _ ⟨roomSender, -, rfl⟩
            apply (Reading.completes_decode 4 _ _).bind
            rintro replyTo _ ⟨roomReplyTo, -, rfl⟩
            rw [ByteBuffer.advance_advance,
              ByteBuffer.remaining_advance] at roomReplyTo
            rw [ByteBuffer.advance_advance, ByteBuffer.advance_advance]
            apply Action.completes_pure
            apply took_sized 8 (by omega) readKind readSize short le_rfl
            intro _
            rw [stamps]
            rfl
          · rw [if_neg stamps, skipRemainingOptions]
            generalize size_eq : signed8 (bigEndian [sizeByte]) = size
            apply
              (Reading.completes_decode (size - 2).toNat (fun _ => ())
                _).bind
            rintro _ _ ⟨roomBody, -, rfl⟩
            rw [ByteBuffer.remaining_advance] at roomBody
            rw [ByteBuffer.advance_advance]
            apply Action.completes_pure
            have behind : size ≤ 2 + (size - 2).toNat := by omega
            apply took_sized (size - 2).toNat (by omega) readKind readSize
              short behind
            intro same
            have unknown : byte ≠ 2 ∧ byte ≠ 3 ∧ byte ≠ 4 ∧ byte ≠ 8 :=
              ⟨segment, scale, permitted, stamps⟩
            rw [optionBody_other unknown, size_eq, if_pos (by omega)]

/-- The loop has taken at least the bytes that were due, and no more only
along an option list. -/
def Walked (due : Int) (stream after : ByteBuffer) : Prop :=
  ∃ count : Nat,
    count ≤ stream.remaining ∧ after = stream.advance count ∧
      due ≤ count ∧
      (due = count →
        OptionList (slice stream.array stream.position count))

private theorem walked_nothing {due : Int} (stream : ByteBuffer)
    (ended : due ≤ 0) : Walked due stream stream := by
  refine ⟨0, Nat.zero_le _, (stream.advance_zero).symm, ended, fun _ => ?_⟩
  exact OptionList.nil

theorem Took.walked {due step : Int} {stream middle after : ByteBuffer}
    (took : Took step stream middle)
    (walked : Walked (due - step) middle after) :
    Walked due stream after := by
  obtain ⟨taken, -, room, rfl, behind, option⟩ := took
  obtain ⟨count, fits, after_eq, enough, list⟩ := walked
  rw [ByteBuffer.remaining_advance] at fits
  rw [ByteBuffer.advance_advance] at after_eq
  rw [ByteBuffer.position_advance room, ByteBuffer.array_advance] at list
  refine ⟨taken + count, by omega, after_eq, by omega, fun same => ?_⟩
  rw [slice_add]
  apply OptionList.cons
  · exact option (by omega)
  · exact list (by omega)

/-- The loop ends, having taken at least what the index counts, or it runs
out of bytes.  The induction follows its rounds. -/
private theorem handleTcpOptions_walks {optionsSize : Int} {rounds : Nat} :
    ∀ {index : Int} {header : TCPHeader} {stream : ByteBuffer},
      Action.Completes
        (fun _ after => Walked (optionsSize - index) stream after)
        (· = .bufferUnderflow)
        (handleTcpOptions optionsSize rounds index header) stream := by
  induction rounds with
  | zero =>
      intro index header stream
      rw [handleTcpOptions]
      by_cases going : index < optionsSize
      · rw [if_pos going]
        exact Action.completes_of_error rfl rfl
      · rw [if_neg going]
        exact Action.completes_pure (walked_nothing stream (by omega))
  | succ rounds inductionHypothesis =>
      intro index header stream
      rw [handleTcpOptions_succ]
      by_cases going : index < optionsSize
      · rw [if_pos going]
        apply (readOption_took header stream).bind
        intro option middle took
        apply inductionHypothesis.mono
        intro _ after walked
        rw [← Int.sub_sub] at walked
        exact took.walked walked
      · rw [if_neg going]
        exact Action.completes_pure (walked_nothing stream (by omega))

/-- The loop ends by itself: with a round for each byte that is left, more
rounds change nothing. -/
private theorem handleTcpOptions_rounds {optionsSize : Int} {rounds : Nat} :
    ∀ {index : Int} {header : TCPHeader} {stream : ByteBuffer},
      stream.remaining ≤ rounds →
        handleTcpOptions optionsSize (rounds + 1) index header stream =
          handleTcpOptions optionsSize rounds index header stream := by
  induction rounds with
  | zero =>
      intro index header stream empty
      rw [handleTcpOptions_succ, handleTcpOptions]
      by_cases going : index < optionsSize
      · rw [if_pos going, if_pos going]
        have nothing : ¬ 1 ≤ stream.remaining := by omega
        have thrown : Reading.getBytes 1 stream = .error .bufferUnderflow :=
          if_neg nothing
        exact
          Action.bind_of_error
            (Action.bind_of_error (Action.bind_of_error thrown))
      · rw [if_neg going, if_neg going]
  | succ rounds inductionHypothesis =>
      intro index header stream enough
      rw [handleTcpOptions_succ, handleTcpOptions_succ]
      by_cases going : index < optionsSize
      · rw [if_pos going, if_pos going]
        apply Action.bind_congr_of_ok
        intro option middle read
        have took := readOption_took header stream
        rw [Action.Completes, read] at took
        obtain ⟨taken, positive, room, rfl, -, -⟩ := took
        apply inductionHypothesis
        rw [ByteBuffer.remaining_advance]
        omega
      · rw [if_neg going, if_neg going]

private theorem handleTcpOptions_ends {optionsSize index : Int} {rounds : Nat}
    {header : TCPHeader} {stream : ByteBuffer}
    (enough : stream.remaining ≤ rounds) :
    handleTcpOptions optionsSize rounds index header stream =
      handleTcpOptions optionsSize stream.remaining index header
        stream := by
  induction rounds, enough using Nat.le_induction with
  | base =>
      rfl
  | succ rounds enough inductionHypothesis =>
      rw [handleTcpOptions_rounds enough, inductionHypothesis]

/-- The bytes of an option are taken, and the index moves by as many. -/
theorem TcpOption.read {option : List UInt8} (bytes : TcpOption option)
    {stream : ByteBuffer} (room : option.length ≤ stream.remaining)
    (unread : slice stream.array stream.position option.length = option)
    (header : TCPHeader) :
    ∃ result,
      readOption header stream =
        .ok
          (((option.length : Int), result),
            stream.advance option.length) := by
  cases bytes with
  | single kind short =>
      have read :=
        Reading.getByte_eq_ok.mpr
          ⟨(room : 1 ≤ stream.remaining), rfl, rfl⟩
      have kind_eq : slice stream.array stream.position 1 = [kind] := unread
      obtain ⟨is0, is1, -⟩ := kind_eq_iff kind
      rw [kind_eq] at read
      refine ⟨header, ?_⟩
      rw [readOption, Action.bind_of_ok read,
        if_pos (short.imp is0.mpr is1.mpr)]
      rfl
  | sized kind size body long taken =>
      have length_eq : (kind :: size :: body).length = 2 + body.length := by
        rw [List.length_cons, List.length_cons]
        omega
      rw [length_eq] at room unread ⊢
      rw [Nat.add_assoc 1 1 body.length, slice_add, slice_add] at unread
      have within := stream.limit_le_capacity
      have inside := stream.position_le_limit
      have byte (offset : Nat) (fits : offset ≤ 1) :
          (slice stream.array (stream.position + offset) 1).length = 1 := by
        rw [ByteBuffer.remaining] at room
        exact length_slice_of_le (by omega)
      obtain ⟨kind_eq, unread⟩ :=
        @List.append_inj _ _ [kind] _ _ unread (byte 0 (by decide))
      obtain ⟨size_eq, -⟩ :=
        @List.append_inj _ _ [size] _ _ unread (byte 1 (by decide))
      have readKind :=
        Reading.getByte_eq_ok.mpr
          ⟨(by omega : 1 ≤ stream.remaining), rfl, rfl⟩
      have readSize :=
        @Reading.getByte_advance stream 1 (by omega)
      rw [kind_eq] at readKind
      rw [size_eq] at readSize
      obtain ⟨is0, is1, is2, is3, is4, is8⟩ := kind_eq_iff kind
      rw [readOption, Action.bind_of_ok readKind,
        if_neg (fun short => long (short.imp is0.mp is1.mp)),
        Action.bind_of_ok readSize]
      simp only [is2, is3, is4, is8]
      by_cases segment : kind = 2
      · rw [optionBody, if_pos segment, Option.some_inj] at taken
        rw [← taken] at room ⊢
        rw [if_pos segment,
          Action.bind_of_ok (Reading.getShort_advance room)]
        exact ⟨_, rfl⟩
      · rw [if_neg segment]
        by_cases scale : kind = 3
        · rw [optionBody, if_neg segment, if_pos scale,
            Option.some_inj] at taken
          rw [← taken] at room ⊢
          rw [if_pos scale,
            Action.bind_of_ok (Reading.getByte_advance room)]
          exact ⟨_, rfl⟩
        · rw [if_neg scale]
          by_cases permitted : kind = 4
          · rw [optionBody, if_neg segment, if_neg scale,
              if_pos permitted, Option.some_inj] at taken
            rw [← taken, if_pos permitted]
            exact ⟨_, rfl⟩
          · rw [if_neg permitted]
            by_cases stamps : kind = 8
            · rw [optionBody, if_neg segment, if_neg scale,
                if_neg permitted, if_pos stamps, Option.some_inj] at taken
              rw [← taken] at room ⊢
              rw [if_pos stamps,
                Action.bind_of_ok
                  (Reading.getInt_advance (by omega)),
                Action.bind_of_ok
                  (Reading.getInt_advance (by omega))]
              exact ⟨_, rfl⟩
            · rw [optionBody_other
                ⟨segment, scale, permitted, stamps⟩] at taken
              split at taken
              · next enough =>
                rw [Option.some_inj] at taken
                have fits : body.length ≤ (stream.advance 2).remaining := by
                  rw [ByteBuffer.remaining_advance]
                  omega
                have skipped :
                    skipRemainingOptions (signed8 (bigEndian [size]))
                        (stream.advance 2) =
                      .ok ((), stream.advance (2 + body.length)) := by
                  rw [skipRemainingOptions, taken,
                    ← ByteBuffer.advance_advance]
                  exact Reading.getBytes_bind_eq_ok.mpr ⟨fits, rfl, rfl⟩
                have moved :
                    signed8 (bigEndian [size]) =
                      (2 + body.length : Nat) := by
                  omega
                rw [if_neg stamps, Action.bind_of_ok skipped, moved]
                exact ⟨_, rfl⟩
              · cases taken

theorem OptionList.read {options : List UInt8}
    (list : OptionList options) :
    ∀ {rounds : Nat} {index : Int} {header : TCPHeader}
      {stream : ByteBuffer},
      options.length ≤ rounds → options.length ≤ stream.remaining →
        slice stream.array stream.position options.length = options →
          ∃ result,
            handleTcpOptions (index + options.length) rounds index header
                stream =
              .ok (result, stream.advance options.length) := by
  induction list with
  | nil =>
      intro rounds index header stream _ _ _
      have ended : ¬ index < index + (0 : Nat) := by omega
      rw [List.length_nil, ByteBuffer.advance_zero]
      cases rounds with
      | zero =>
          rw [handleTcpOptions, if_neg ended]
          exact ⟨header, rfl⟩
      | succ rounds =>
          rw [handleTcpOptions_succ, if_neg ended]
          exact ⟨header, rfl⟩
  | cons option rest first later inductionHypothesis =>
      intro rounds index header stream enough room unread
      have positive := first.length_pos
      rw [List.length_append] at enough room unread
      obtain ⟨rounds, rfl⟩ : ∃ fewer, rounds = fewer + 1 :=
        ⟨rounds - 1, by omega⟩
      have firstRoom : option.length ≤ stream.remaining := by omega
      have within := stream.limit_le_capacity
      have inside := stream.position_le_limit
      have first_length :
          (slice stream.array stream.position option.length).length =
            option.length := by
        rw [ByteBuffer.remaining] at room
        exact length_slice_of_le (by omega)
      rw [slice_add] at unread
      obtain ⟨first_eq, rest_eq⟩ := List.append_inj unread first_length
      obtain ⟨result, read⟩ := first.read firstRoom first_eq header
      rw [← ByteBuffer.position_advance firstRoom,
        ← ByteBuffer.array_advance stream option.length] at rest_eq
      obtain ⟨final, readRest⟩ :=
        @inductionHypothesis rounds (index + option.length) result
          (stream.advance option.length) (by omega)
          (by rw [ByteBuffer.remaining_advance]; omega) rest_eq
      have size_eq :
          index + (option ++ rest).length =
            index + option.length + rest.length := by
        rw [List.length_append]
        omega
      rw [handleTcpOptions_succ, if_pos (by omega), size_eq,
        Action.bind_of_ok read, readRest, ByteBuffer.advance_advance,
        List.length_append]
      exact ⟨final, rfl⟩

/-- The data offset, in words. -/
def dataOffset (stream : ByteBuffer) : Nat :=
  bigEndian (slice stream.array (stream.position + 12) 1) / 16

/-- The parser returns a header of at least five words and stops behind it,
or it throws a `PacketHeaderException`. -/
def EndsAtPayload (stream : ByteBuffer) : Prop :=
  Action.Completes
    (fun header after =>
      5 ≤ header.dataOffset ∧
        after.position = stream.position + 4 * header.dataOffset)
    (fun failure => ∃ message, failure = .packetHeader message)
    createTCPHeader stream

/-- The packet is too short by one of the two checks, or it holds the whole
header and its options are a list of options. -/
def OptionsFill (stream : ByteBuffer) : Prop :=
  stream.remaining < 20 ∨
    stream.remaining < 13 + (dataOffset stream - 5) * 4 ∨
    5 ≤ dataOffset stream ∧ 4 * dataOffset stream ≤ stream.remaining ∧
      OptionList
        (slice stream.array (stream.position + 20)
          (4 * dataOffset stream - 20))

theorem fixedHeader_dataOffset (stream : ByteBuffer) :
    (fixedHeader stream).dataOffset = dataOffset stream := by
  have small := bigEndian_slice_lt stream.array (stream.position + 12) 1
  rw [fixedHeader, dataOffset, TCPHeader.create, signed8]
  dsimp only
  omega

private theorem createTCPHeader_dataOffset {stream after : ByteBuffer}
    {header : TCPHeader}
    (parsed : createTCPHeader stream = .ok (header, after)) :
    header.dataOffset = dataOffset stream := by
  have same := (createTCPHeader_fields parsed).2.1
  rw [SameFixedFields] at same
  have offset_eq := congrArg TCPHeader.dataOffset same
  rw [← fixedHeader_dataOffset]
  exact offset_eq

theorem createTCPHeader_short {stream : ByteBuffer}
    (short : stream.remaining < 20) :
    createTCPHeader stream =
      .error
        (.packetHeader
          ("There is not enough space for TCP header from " ++
            "provided starting position")) := by
  rw [createTCPHeader, Reading.get_bind, if_pos short]
  rfl

section Ends

variable {stream : ByteBuffer}

private theorem endsAtPayload_refused {message : String}
    (refused : createTCPHeader stream = .error (.packetHeader message)) :
    EndsAtPayload stream :=
  Action.completes_of_error refused ⟨message, rfl⟩

/-- Without options the parser stops behind twenty bytes, whatever the data
offset. -/
private theorem endsAtPayload_plain_iff (enough : 20 ≤ stream.remaining)
    (plain : dataOffset stream ≤ 5) :
    EndsAtPayload stream ↔ OptionsFill stream := by
  have parsed := createTCPHeader_of_twenty enough
  rw [fixedHeader_dataOffset, if_neg (by omega), if_neg (by omega)]
    at parsed
  rw [EndsAtPayload, Action.Completes, parsed]
  dsimp only
  rw [fixedHeader_dataOffset, ByteBuffer.position_advance enough]
  constructor
  · rintro ⟨long, stopped⟩
    refine Or.inr (Or.inr ⟨long, by omega, ?_⟩)
    have nothing : 4 * dataOffset stream - 20 = 0 := by omega
    rw [nothing]
    exact OptionList.nil
  · rintro (short | short | ⟨long, -, -⟩)
    · omega
    · omega
    · exact ⟨long, by omega⟩

/-- With options the parser stops where the option loop does. -/
private theorem endsAtPayload_options_iff (enough : 20 ≤ stream.remaining)
    (room : 13 + (dataOffset stream - 5) * 4 ≤ stream.remaining)
    (options : 5 < dataOffset stream) :
    EndsAtPayload stream ↔ OptionsFill stream := by
  have behind := ByteBuffer.position_advance enough
  have parsed := createTCPHeader_of_twenty enough
  rw [fixedHeader_dataOffset, if_neg (by omega), if_pos options] at parsed
  have remaining_eq : stream.remaining - 20 = (stream.advance 20).remaining :=
    (ByteBuffer.remaining_advance _ _).symm
  constructor
  · intro ends
    rw [EndsAtPayload, Action.completes_iff] at ends
    have walk :=
      @handleTcpOptions_walks ((dataOffset stream : Int) * 4 - 20)
        (stream.remaining - 20) 0 (fixedHeader stream) (stream.advance 20)
    rw [Action.Completes, ← parsed] at walk
    rcases ends with
      ⟨header, after, ended, long, stopped⟩ |
        ⟨failure, ended, message, rfl⟩
    · rw [ended] at walk
      obtain ⟨count, fits, rfl, due, list⟩ := walk
      rw [createTCPHeader_dataOffset ended] at stopped
      rw [ByteBuffer.position_advance fits, behind] at stopped
      rw [← remaining_eq] at fits
      have count_eq : 4 * dataOffset stream - 20 = count := by omega
      refine Or.inr (Or.inr ⟨by omega, by omega, ?_⟩)
      rw [count_eq]
      rw [behind, ByteBuffer.array_advance] at list
      exact list (by omega)
    · rw [ended] at walk
      cases walk
  · rintro (short | short | ⟨long, whole, list⟩)
    · omega
    · omega
    · generalize options_eq :
        slice stream.array (stream.position + 20)
          (4 * dataOffset stream - 20) = bytes at list
      have within := stream.limit_le_capacity
      have length_eq : bytes.length = 4 * dataOffset stream - 20 := by
        rw [← options_eq]
        rw [ByteBuffer.remaining] at whole
        exact length_slice_of_le (by omega)
      have unread :
          slice (stream.advance 20).array (stream.advance 20).position
              bytes.length =
            bytes := by
        rw [behind, ByteBuffer.array_advance, length_eq, options_eq]
      obtain ⟨result, read⟩ :=
        @OptionList.read bytes list (stream.remaining - 20) 0
          (fixedHeader stream) (stream.advance 20) (by omega) (by omega)
          unread
      have size_eq :
          (0 : Int) + bytes.length = (dataOffset stream : Int) * 4 - 20 := by
        omega
      rw [size_eq, ← parsed] at read
      apply Action.completes_of_ok read
      rw [createTCPHeader_dataOffset read,
        ByteBuffer.position_advance (by omega), behind]
      exact ⟨long, by omega⟩

end Ends

/-- The option loop always ends, and the parser ends at the payload, or with
a `PacketHeaderException`, exactly when the packet is too short by its checks
or its options fill the header. -/
theorem endsAtPayload_iff (stream : ByteBuffer) :
    (∀ (optionsSize index : Int) (rounds : Nat) (header : TCPHeader),
        stream.remaining ≤ rounds →
          handleTcpOptions optionsSize rounds index header stream =
            handleTcpOptions optionsSize stream.remaining index header
              stream) ∧
      (EndsAtPayload stream ↔ OptionsFill stream) := by
  refine ⟨fun _ _ _ _ => handleTcpOptions_ends, ?_⟩
  by_cases short : stream.remaining < 20
  · have ends := endsAtPayload_refused (createTCPHeader_short short)
    exact ⟨fun _ => Or.inl short, fun _ => ends⟩
  · have enough : 20 ≤ stream.remaining := by omega
    by_cases refused :
        stream.remaining < 13 + (dataOffset stream - 5) * 4
    · have parsed := createTCPHeader_of_twenty enough
      rw [fixedHeader_dataOffset, if_pos refused] at parsed
      exact
        ⟨fun _ => Or.inr (Or.inl refused),
          fun _ => endsAtPayload_refused parsed⟩
    · by_cases options : 5 < dataOffset stream
      · exact endsAtPayload_options_iff enough (by omega) options
      · exact endsAtPayload_plain_iff enough (by omega)

/-- A segment whose first option announces no size, behind which the index
stays where the option began. -/
def sizelessOption : ByteBuffer :=
  ByteBuffer.wrap
    [4, 0, 0, 80, 0, 0, 0, 1, 0, 0, 0, 1, 0x60, 0x10, 1, 0, 0, 0, 0, 0,
      5, 0, 1, 1]

theorem sizelessOption_underflows :
    createTCPHeader sizelessOption = .error .bufferUnderflow ∧
      ¬ EndsAtPayload sizelessOption := by
  have thrown : createTCPHeader sizelessOption = .error .bufferUnderflow :=
    rfl
  refine ⟨thrown, ?_⟩
  rw [EndsAtPayload, Action.Completes, thrown]
  rintro ⟨message, refused⟩
  cases refused

end LanShield.Transport.TCPPacketFactory
