import Mathlib.Logic.Basic

/-!
# Actions that leave no state when they throw

An action reads and writes a state and returns a value, or it throws and
leaves nothing.  `Completes` says what an action returns and throws from a
state, `Mirrors` that two actions on states of their own return and throw
alike.
-/

namespace LanShield.Library

abbrev Action (State Failure : Type) :=
  StateT State (Except Failure)

namespace Action

variable {State Failure Value Result : Type}

theorem bind_of_ok {action : Action State Failure Value}
    {next : Value → Action State Failure Result} {state after : State}
    {value : Value} (returned : action state = .ok (value, after)) :
    (action >>= next) state = next value after := by
  simp only [bind, StateT.bind, Except.bind, returned]

theorem bind_of_error {action : Action State Failure Value}
    {next : Value → Action State Failure Result} {state : State}
    {failure : Failure} (thrown : action state = .error failure) :
    (action >>= next) state = .error failure := by
  simp only [bind, StateT.bind, Except.bind, thrown]

/-- Two continuations need to agree only where the action can lead. -/
theorem bind_congr_of_ok {action : Action State Failure Value}
    {first second : Value → Action State Failure Result} {state : State}
    (same :
      ∀ value after, action state = .ok (value, after) →
        first value after = second value after) :
    (action >>= first) state = (action >>= second) state := by
  rcases ended : action state with failure | ⟨value, after⟩
  · rw [bind_of_error ended, bind_of_error ended]
  · rw [bind_of_ok ended, bind_of_ok ended]
    exact same value after ended

/-- From this state the action returns a value and leaves a state that
satisfy `returns`, or it throws what satisfies `throws`. -/
def Completes (returns : Value → State → Prop) (throws : Failure → Prop)
    (action : Action State Failure Value) (state : State) : Prop :=
  match action state with
  | .ok (value, after) => returns value after
  | .error failure => throws failure

section Completes

variable {middle : Value → State → Prop} {returns : Result → State → Prop}
  {throws : Failure → Prop} {action : Action State Failure Value}
  {next : Value → Action State Failure Result} {state : State}

theorem completes_of_ok {value : Value} {after : State}
    (returned : action state = .ok (value, after))
    (holds : middle value after) : Completes middle throws action state := by
  rw [Completes, returned]
  exact holds

theorem completes_of_error {failure : Failure}
    (thrown : action state = .error failure) (holds : throws failure) :
    Completes middle throws action state := by
  rw [Completes, thrown]
  exact holds

theorem completes_pure {value : Value} (holds : middle value state) :
    Completes middle throws (pure value) state :=
  holds

theorem Completes.bind (left : Completes middle throws action state)
    (right :
      ∀ value after, middle value after →
        Completes returns throws (next value) after) :
    Completes returns throws (action >>= next) state := by
  rw [Completes] at left
  rcases ended : action state with failure | ⟨value, after⟩
  · rw [ended] at left
    exact completes_of_error (bind_of_error ended) left
  · rw [ended] at left
    rw [Completes, bind_of_ok ended]
    exact right value after left

/-- An action that is known to return goes on with what it returns. -/
theorem completes_bind_of_ok {value : Value} {after : State}
    (returned : action state = .ok (value, after))
    (right : Completes returns throws (next value) after) :
    Completes returns throws (action >>= next) state := by
  rw [Completes, bind_of_ok returned]
  exact right

theorem completes_get_bind {next : State → Action State Failure Result}
    (right : Completes returns throws (next state) state) :
    Completes returns throws (get >>= next) state :=
  right

theorem Completes.mono {weaker : Value → State → Prop}
    (completes : Completes middle throws action state)
    (implied : ∀ value after, middle value after → weaker value after) :
    Completes weaker throws action state := by
  rw [Completes] at completes
  rcases ended : action state with failure | ⟨value, after⟩
  · rw [ended] at completes
    exact completes_of_error ended completes
  · rw [ended] at completes
    exact completes_of_ok ended (implied value after completes)

theorem completes_iff :
    Completes middle throws action state ↔
      (∃ value after, action state = .ok (value, after) ∧
          middle value after) ∨
        ∃ failure, action state = .error failure ∧ throws failure := by
  constructor
  · intro completes
    rw [Completes] at completes
    rcases ended : action state with failure | ⟨value, after⟩
    · rw [ended] at completes
      exact .inr ⟨failure, rfl, completes⟩
    · rw [ended] at completes
      exact .inl ⟨value, after, rfl, completes⟩
  · rintro (⟨value, after, ended, holds⟩ | ⟨failure, ended, holds⟩)
    · exact completes_of_ok ended holds
    · exact completes_of_error ended holds

end Completes

/-- From these two states the actions both return, with related values and
states, or both throw the same. -/
def Mirrors {Mirror : Type}
    (related : Value → State → Result → Mirror → Prop)
    (action : Action State Failure Value)
    (mirror : Action Mirror Failure Result) (state : State)
    (image : Mirror) : Prop :=
  match action state, mirror image with
  | .ok (value, after), .ok (result, imageAfter) =>
      related value after result imageAfter
  | .error thrown, .error failure => thrown = failure
  | _, _ => False

section Mirrors

variable {Mirror FirstValue FirstResult : Type} {state : State}
  {image : Mirror}
  {middle : FirstValue → State → FirstResult → Mirror → Prop}
  {related : Value → State → Result → Mirror → Prop}
  {first : Action State Failure FirstValue}
  {next : FirstValue → Action State Failure Value}
  {firstMirror : Action Mirror Failure FirstResult}
  {nextMirror : FirstResult → Action Mirror Failure Result}

theorem mirrors_of_error {action : Action State Failure Value}
    {mirror : Action Mirror Failure Result} {failure : Failure}
    (thrown : action state = .error failure)
    (mirrored : mirror image = .error failure) :
    Mirrors related action mirror state image := by
  rw [Mirrors, thrown, mirrored]

theorem Mirrors.bind (left : Mirrors middle first firstMirror state image)
    (right :
      ∀ value after result imageAfter,
        middle value after result imageAfter →
          Mirrors related (next value) (nextMirror result) after
            imageAfter) :
    Mirrors related (first >>= next) (firstMirror >>= nextMirror) state
      image := by
  rw [Mirrors] at left
  rcases ended : first state with failure | ⟨value, after⟩
  · rcases mirrored : firstMirror image with failure' | ⟨result, imageAfter⟩
    · rw [ended, mirrored] at left
      cases left
      exact mirrors_of_error (bind_of_error ended) (bind_of_error mirrored)
    · rw [ended, mirrored] at left
      exact left.elim
  · rcases mirrored : firstMirror image with failure' | ⟨result, imageAfter⟩
    · rw [ended, mirrored] at left
      exact left.elim
    · rw [ended, mirrored] at left
      rw [Mirrors, bind_of_ok ended, bind_of_ok mirrored]
      exact right value after result imageAfter left

/-- A step of the first action alone. -/
theorem mirrors_modify_bind {change : State → State}
    {next : PUnit → Action State Failure Value}
    {mirror : Action Mirror Failure Result}
    (right : Mirrors related (next ()) mirror (change state) image) :
    Mirrors related (modify change >>= next) mirror state image :=
  right

theorem mirrors_get_bind {next : State → Action State Failure Value}
    {mirror : Action Mirror Failure Result}
    (right : Mirrors related (next state) mirror state image) :
    Mirrors related (get >>= next) mirror state image :=
  right

theorem mirrors_get_bind_right {action : Action State Failure Value}
    {next : Mirror → Action Mirror Failure Result}
    (right : Mirrors related action (next image) state image) :
    Mirrors related action (get >>= next) state image :=
  right

theorem Mirrors.ite {condition : Prop} [Decidable condition]
    {yes no : Action State Failure Value}
    {yesMirror noMirror : Action Mirror Failure Result}
    (left : Mirrors related yes yesMirror state image)
    (right : Mirrors related no noMirror state image) :
    Mirrors related (if condition then yes else no)
      (if condition then yesMirror else noMirror) state image := by
  by_cases chosen : condition
  · rw [if_pos chosen, if_pos chosen]
    exact left
  · rw [if_neg chosen, if_neg chosen]
    exact right

/-- What a mirror returns, the action returns with it. -/
theorem Mirrors.returned {action : Action State Failure Value}
    {mirror : Action Mirror Failure Result}
    (mirrors : Mirrors related action mirror state image)
    {result : Result} {imageAfter : Mirror}
    (mirrored : mirror image = .ok (result, imageAfter)) :
    ∃ value after,
      action state = .ok (value, after) ∧
        related value after result imageAfter := by
  rw [Mirrors, mirrored] at mirrors
  rcases ended : action state with failure | ⟨value, after⟩
  · rw [ended] at mirrors
    exact mirrors.elim
  · rw [ended] at mirrors
    exact ⟨value, after, rfl, mirrors⟩

theorem Mirrors.thrown {action : Action State Failure Value}
    {mirror : Action Mirror Failure Result}
    (mirrors : Mirrors related action mirror state image)
    {failure : Failure} (mirrored : mirror image = .error failure) :
    action state = .error failure := by
  rw [Mirrors, mirrored] at mirrors
  rcases ended : action state with failure' | ⟨value, after⟩
  · rw [ended] at mirrors
    cases mirrors
    rfl
  · rw [ended] at mirrors
    exact mirrors.elim

end Mirrors

end Action

end LanShield.Library
