import Mathlib.Logic.Relation

/-!
# Programs that keep their state when they throw

A program reads and writes a state and then returns a value or throws; what
it has written before a throw stays written.  `Respects` bounds what a
program does to the state by a relation, `Keeps` carries an invariant
through it and bounds what it throws.
-/

namespace LanShield.Library

abbrev Program (State Failure : Type) :=
  ExceptT Failure (StateM State)

namespace Program

variable {State Failure Value Result : Type}

/-- What a program returns or throws, and the state it leaves. -/
def outcome (program : Program State Failure Value) (state : State) :
    Except Failure Value × State :=
  ExceptT.run program state

/-- The state a program leaves. -/
def final (program : Program State Failure Value) (state : State) : State :=
  (program.outcome state).2

theorem outcome_bind (first : Program State Failure Value)
    (next : Value → Program State Failure Result) (state : State) :
    outcome (first >>= next) state =
      match first.outcome state with
      | (.ok value, after) => (next value).outcome after
      | (.error failure, after) => (.error failure, after) := by
  unfold outcome
  rw [ExceptT.run_bind]
  show
    (match (ExceptT.run first state).1 with
      | .ok value => ExceptT.run (next value)
      | .error failure => pure (.error failure))
        (ExceptT.run first state).2 = _
  rcases ExceptT.run first state with ⟨value | failure, after⟩
  · rfl
  · rfl

/-- A bind continues from a value, or passes on what was thrown. -/
theorem outcome_bind_cases (first : Program State Failure Value)
    (next : Value → Program State Failure Result) (state : State) :
    (∃ value after, first.outcome state = (.ok value, after) ∧
        outcome (first >>= next) state = (next value).outcome after) ∨
      ∃ failure after, first.outcome state = (.error failure, after) ∧
        outcome (first >>= next) state = (.error failure, after) := by
  have bound := outcome_bind first next state
  rcases ended : first.outcome state with ⟨failure | value, after⟩
  · rw [ended] at bound
    exact .inr ⟨failure, after, rfl, bound⟩
  · rw [ended] at bound
    exact .inl ⟨value, after, rfl, bound⟩

/-- The state a program leaves is related to the state it found. -/
def Respects (relation : State → State → Prop)
    (program : Program State Failure Value) : Prop :=
  ∀ state, relation state (program.final state)

section Respects

variable {relation : State → State → Prop}
  {first : Program State Failure Value}
  {next : Value → Program State Failure Result}

theorem respects_pure [Std.Refl relation] (value : Value) :
    Respects relation (pure value : Program State Failure Value) :=
  fun state => Std.Refl.refl state

theorem respects_throw [Std.Refl relation] (failure : Failure) :
    Respects relation (throw failure : Program State Failure Value) :=
  fun state => Std.Refl.refl state

theorem respects_get [Std.Refl relation] :
    Respects relation (get : Program State Failure State) :=
  fun state => Std.Refl.refl state

theorem respects_modify {change : State → State}
    (related : ∀ state, relation state (change state)) :
    Respects relation (modify change : Program State Failure PUnit) :=
  related

theorem Respects.bind [IsTrans State relation]
    (left : Respects relation first)
    (right : ∀ value, Respects relation (next value)) :
    Respects relation (first >>= next) := by
  intro state
  have leftStep := left state
  rw [final] at leftStep ⊢
  rcases outcome_bind_cases first next state with
    ⟨value, after, ended, bound⟩ | ⟨failure, after, ended, bound⟩
  · rw [ended] at leftStep
    rw [bound]
    exact IsTrans.trans _ _ _ leftStep (right value after)
  · rw [ended] at leftStep
    rw [bound]
    exact leftStep

theorem Respects.ite {condition : Prop} [Decidable condition]
    {yes no : Program State Failure Value}
    (left : Respects relation yes) (right : Respects relation no) :
    Respects relation (if condition then yes else no) := by
  split
  · exact left
  · exact right

end Respects

/-- From this state the program returns a value and leaves a state that
satisfy `returns`, or it throws and leaves one that satisfies `throws`. -/
def Ends (returns : Value → State → Prop) (throws : State → Prop)
    (program : Program State Failure Value) (state : State) : Prop :=
  match program.outcome state with
  | (.ok value, after) => returns value after
  | (.error _, after) => throws after

section Ends

variable {middle : Value → State → Prop} {returns : Result → State → Prop}
  {throws : State → Prop} {first : Program State Failure Value}
  {next : Value → Program State Failure Result} {state : State}

theorem ends_pure {value : Value} (holds : middle value state) :
    Ends middle throws (pure value : Program State Failure Value) state :=
  holds

theorem ends_throw {failure : Failure} (holds : throws state) :
    Ends middle throws (throw failure : Program State Failure Value)
      state :=
  holds

theorem ends_modify {change : State → State}
    {middle : PUnit → State → Prop} (holds : middle () (change state)) :
    Ends middle throws (modify change : Program State Failure PUnit)
      state :=
  holds

theorem Ends.bind (left : Ends middle throws first state)
    (right :
      ∀ value after, middle value after →
        Ends returns throws (next value) after) :
    Ends returns throws (first >>= next) state := by
  rw [Ends] at left ⊢
  rcases outcome_bind_cases first next state with
    ⟨value, after, ended, bound⟩ | ⟨failure, after, ended, bound⟩
  · rw [ended] at left
    rw [bound]
    exact right value after left
  · rw [ended] at left
    rw [bound]
    exact left

/-- What is read from the state may be used with the state it was read in.
-/
theorem ends_read {next : State → Program State Failure Result}
    (right : Ends returns throws (next state) state) :
    Ends returns throws (get >>= next) state :=
  right

theorem ends_modify_bind {change : State → State}
    {next : PUnit → Program State Failure Result}
    (right : Ends returns throws (next ()) (change state)) :
    Ends returns throws (modify change >>= next) state :=
  right

theorem Ends.imp {weaker : Value → State → Prop} {failed : State → Prop}
    (ends : Ends middle throws first state)
    (returned : ∀ value after, middle value after → weaker value after)
    (thrown : ∀ after, throws after → failed after) :
    Ends weaker failed first state := by
  rw [Ends] at ends ⊢
  rcases ended : first.outcome state with ⟨failure | value, after⟩
  · rw [ended] at ends
    exact thrown after ends
  · rw [ended] at ends
    exact returned value after ends

theorem Ends.mono {weaker : Value → State → Prop}
    (ends : Ends middle throws first state)
    (returned : ∀ value after, middle value after → weaker value after) :
    Ends weaker throws first state :=
  ends.imp returned fun _ failed => failed

/-- What holds however a program ends holds of the state it leaves. -/
theorem Ends.leaves {holds : State → Prop}
    (ends : Ends (fun _ after => holds after) holds first state) :
    holds (first.final state) := by
  rw [Ends] at ends
  rw [final]
  rcases ended : first.outcome state with ⟨failure | value, after⟩
  · rw [ended] at ends
    exact ends
  · rw [ended] at ends
    exact ends

/-- A program that cannot throw returns. -/
theorem Ends.returned
    (ends : Ends middle (fun _ => False) first state) :
    ∃ value,
      first.outcome state = (.ok value, first.final state) ∧
        middle value (first.final state) := by
  rw [Ends] at ends
  rw [final]
  rcases ended : first.outcome state with ⟨failure | value, after⟩
  · rw [ended] at ends
    exact ends.elim
  · rw [ended] at ends
    exact ⟨value, rfl, ends⟩

/-- However it ends, a program has done no more than the relation allows. -/
theorem Respects.ends {relation : State → State → Prop}
    (respected : Respects relation first) :
    Ends (fun _ after => relation state after) (relation state) first
      state := by
  have step := respected state
  rw [final] at step
  rw [Ends]
  rcases ended : first.outcome state with ⟨failure | value, after⟩
  · rw [ended] at step
    exact step
  · rw [ended] at step
    exact step

end Ends

/-- From this state the program leaves a state with `invariant`, and it
throws nothing but what is `allowed`. -/
def KeepsAt (invariant : State → Prop) (allowed : Failure → Prop)
    (program : Program State Failure Value) (state : State) : Prop :=
  invariant (program.final state) ∧
    ∀ failure, (program.outcome state).1 = .error failure → allowed failure

/-- From every state with `invariant` the program keeps it. -/
def Keeps (invariant : State → Prop) (allowed : Failure → Prop)
    (program : Program State Failure Value) : Prop :=
  ∀ state, invariant state → KeepsAt invariant allowed program state

section Keeps

variable {invariant : State → Prop} {allowed : Failure → Prop}
  {first : Program State Failure Value}
  {next : Value → Program State Failure Result}

theorem keeps_pure (value : Value) :
    Keeps invariant allowed (pure value : Program State Failure Value) :=
  fun _ holds => ⟨holds, nofun⟩

theorem keeps_throw {failure : Failure} (harmless : allowed failure) :
    Keeps invariant allowed
      (throw failure : Program State Failure Value) := by
  intro state holds
  refine ⟨holds, ?_⟩
  intro thrown same
  have same' : failure = thrown := Except.error.inj same
  rw [← same']
  exact harmless

theorem KeepsAt.bind {state : State}
    (left : KeepsAt invariant allowed first state)
    (right : ∀ value, Keeps invariant allowed (next value)) :
    KeepsAt invariant allowed (first >>= next) state := by
  obtain ⟨kept, harmless⟩ := left
  rw [KeepsAt]
  rw [final] at kept ⊢
  rcases outcome_bind_cases first next state with
    ⟨value, after, ended, bound⟩ | ⟨failure, after, ended, bound⟩
  · rw [ended] at kept
    rw [bound]
    exact right value after kept
  · rw [ended] at kept harmless
    rw [bound]
    refine ⟨kept, ?_⟩
    intro thrown same
    cases same
    exact harmless failure rfl

theorem Keeps.bind (left : Keeps invariant allowed first)
    (right : ∀ value, Keeps invariant allowed (next value)) :
    Keeps invariant allowed (first >>= next) :=
  fun state holds => (left state holds).bind right

theorem keepsAt_modify {change : State → State} {state : State}
    (preserved : invariant (change state)) :
    KeepsAt invariant allowed
      (modify change : Program State Failure PUnit) state :=
  ⟨preserved, nofun⟩

theorem keeps_modify {change : State → State}
    (preserved : ∀ state, invariant state → invariant (change state)) :
    Keeps invariant allowed
      (modify change : Program State Failure PUnit) :=
  fun state holds => keepsAt_modify (preserved state holds)

theorem Keeps.ite {condition : Prop} [Decidable condition]
    {yes no : Program State Failure Value}
    (left : Keeps invariant allowed yes)
    (right : Keeps invariant allowed no) :
    Keeps invariant allowed (if condition then yes else no) := by
  split
  · exact left
  · exact right

/-- A program whose steps keep the invariant keeps it. -/
theorem Respects.keeps {relation : State → State → Prop}
    (respected : Respects relation first)
    (stable :
      ∀ state after, relation state after → invariant state →
        invariant after)
    (harmless :
      ∀ state failure, invariant state →
        (first.outcome state).1 = .error failure → allowed failure) :
    Keeps invariant allowed first :=
  fun state holds =>
    ⟨stable state _ (respected state) holds,
      fun failure thrown => harmless state failure holds thrown⟩

end Keeps

end Program

end LanShield.Library
