import LanShield.Library.Programs

/-!
# What a program returns and what it throws

`Meets` says of a program in one state what holds of the value it returns,
or of the failure it throws, and of the state it leaves with either.
-/

namespace LanShield.Library

namespace Program

variable {State Failure Value Result : Type}

/-- What the program returns satisfies `returned` with the state it leaves,
or what it throws satisfies `thrown`. -/
def Meets (returned : Value → State → Prop)
    (thrown : Failure → State → Prop)
    (program : Program State Failure Value) (state : State) : Prop :=
  match program.outcome state with
  | (.ok value, after) => returned value after
  | (.error failure, after) => thrown failure after

section Meets

variable {middle : Value → State → Prop} {returned : Result → State → Prop}
  {thrown : Failure → State → Prop} {first : Program State Failure Value}
  {next : Value → Program State Failure Result} {state : State}

theorem meets_pure {value : Value} (holds : middle value state) :
    Meets middle thrown (pure value : Program State Failure Value) state :=
  holds

theorem meets_throw {failure : Failure} (holds : thrown failure state) :
    Meets middle thrown (throw failure : Program State Failure Value)
      state :=
  holds

theorem meets_modify {change : State → State}
    {middle : PUnit → State → Prop} (holds : middle () (change state)) :
    Meets middle thrown (modify change : Program State Failure PUnit)
      state :=
  holds

theorem Meets.bind (left : Meets middle thrown first state)
    (right :
      ∀ value after, middle value after →
        Meets returned thrown (next value) after) :
    Meets returned thrown (first >>= next) state := by
  rw [Meets] at left ⊢
  rcases outcome_bind_cases first next state with
    ⟨value, after, ended, bound⟩ | ⟨failure, after, ended, bound⟩
  · rw [ended] at left
    rw [bound]
    exact right value after left
  · rw [ended] at left
    rw [bound]
    exact left

theorem meets_modify_bind {change : State → State}
    {next : PUnit → Program State Failure Result}
    (right : Meets returned thrown (next ()) (change state)) :
    Meets returned thrown (modify change >>= next) state :=
  right

theorem Meets.imp {weaker : Value → State → Prop}
    {failed : Failure → State → Prop}
    (meets : Meets middle thrown first state)
    (returns : ∀ value after, middle value after → weaker value after)
    (throws : ∀ failure after, thrown failure after → failed failure after) :
    Meets weaker failed first state := by
  rw [Meets] at meets ⊢
  rcases ended : first.outcome state with ⟨failure | value, after⟩
  · rw [ended] at meets
    exact throws failure after meets
  · rw [ended] at meets
    exact returns value after meets

theorem Meets.mono {weaker : Value → State → Prop}
    (meets : Meets middle thrown first state)
    (returns : ∀ value after, middle value after → weaker value after) :
    Meets weaker thrown first state :=
  meets.imp returns fun _ _ failed => failed

/-- A program that keeps an invariant leaves it with what it is allowed to
throw. -/
theorem KeepsAt.meets {invariant : State → Prop} {allowed : Failure → Prop}
    (kept : KeepsAt invariant allowed first state) :
    Meets (fun _ after => invariant after)
      (fun failure after => invariant after ∧ allowed failure) first
      state := by
  obtain ⟨holds, harmless⟩ := kept
  rw [final] at holds
  rw [Meets]
  rcases ended : first.outcome state with ⟨failure | value, after⟩
  · rw [ended] at holds harmless
    exact ⟨holds, harmless failure rfl⟩
  · rw [ended] at holds
    exact holds

end Meets

section Keeps

variable {invariant : State → Prop} {allowed weaker : Failure → Prop}
  {program : Program State Failure Value}

/-- A program may be allowed to throw more. -/
theorem Keeps.allow (keeps : Keeps invariant allowed program)
    (permits : ∀ failure, allowed failure → weaker failure) :
    Keeps invariant weaker program :=
  fun state holds =>
    ⟨(keeps state holds).1,
      fun failure thrown =>
        permits failure ((keeps state holds).2 failure thrown)⟩

end Keeps

end Program

end LanShield.Library
