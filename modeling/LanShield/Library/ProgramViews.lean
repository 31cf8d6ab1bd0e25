import LanShield.Library.ProgramResults

/-!
# Programs on a part of a state

A state can hold more than a program reads and writes.  `focus` runs a
program on the part it knows, and `Implements` says that a program on the
whole state does, seen from that part, what another one does.
-/

namespace LanShield.Library

/-- A part of a state that can be replaced. -/
structure View (Whole Part : Type) where
  get : Whole → Part
  set : Part → Whole → Whole
  get_set : ∀ part whole, get (set part whole) = part
  set_get : ∀ whole, set (get whole) whole = whole
  set_set : ∀ later part whole, set later (set part whole) = set later whole

namespace Program

variable {Whole Part Failure Value Result : Type}

/-- The program on the part in view. -/
def focus (view : View Whole Part) (program : Program Part Failure Value) :
    Program Whole Failure Value :=
  fun whole =>
    let ended := program.outcome (view.get whole)
    (ended.1, view.set ended.2 whole)

private theorem outcome_focus (view : View Whole Part)
    (program : Program Part Failure Value) (whole : Whole) :
    (focus view program).outcome whole =
      ((program.outcome (view.get whole)).1,
        view.set (program.outcome (view.get whole)).2 whole) :=
  rfl

theorem focus_pure (view : View Whole Part) (value : Value) :
    focus view (pure value : Program Part Failure Value) = pure value := by
  funext whole
  exact congrArg (Prod.mk _) (view.set_get whole)

/-- The parts of a program are focused one by one. -/
theorem focus_bind (view : View Whole Part)
    (first : Program Part Failure Value)
    (next : Value → Program Part Failure Result) :
    focus view (first >>= next) =
      focus view first >>= fun value => focus view (next value) := by
  funext whole
  show
    (focus view (first >>= next)).outcome whole =
      outcome (focus view first >>= fun value => focus view (next value))
        whole
  rw [outcome_focus, outcome_bind, outcome_bind, outcome_focus]
  rcases first.outcome (view.get whole) with ⟨failure | value, after⟩
  · rfl
  · show _ = (focus view (next value)).outcome (view.set after whole)
    rw [outcome_focus, view.get_set, view.set_set]

/-- What a program comes to on the part in view. -/
theorem Meets.focus {view : View Whole Part}
    {program : Program Part Failure Value}
    {returned : Value → Whole → Prop} {thrown : Failure → Whole → Prop}
    {whole : Whole}
    (meets :
      Meets (fun value part => returned value (view.set part whole))
        (fun failure part => thrown failure (view.set part whole)) program
        (view.get whole)) :
    Meets returned thrown (focus view program) whole := by
  rw [Meets] at meets ⊢
  rw [outcome_focus]
  rcases ended : program.outcome (view.get whole) with
    ⟨failure | value, after⟩
  · rw [ended] at meets
    exact meets
  · rw [ended] at meets
    exact meets

/-- Seen from the part in view, the program does what `coarse` does. -/
def Implements (view : View Whole Part)
    (program : Program Whole Failure Value)
    (coarse : Program Part Failure Value) : Prop :=
  ∀ whole,
    (program.outcome whole).1 = (coarse.outcome (view.get whole)).1 ∧
      view.get (program.outcome whole).2 =
        (coarse.outcome (view.get whole)).2

section Implements

variable {view : View Whole Part}

theorem implements_focus (program : Program Part Failure Value) :
    Implements view (focus view program) program :=
  fun whole => ⟨rfl, view.get_set _ whole⟩

theorem implements_pure (value : Value) :
    Implements view (pure value : Program Whole Failure Value)
      (pure value) :=
  fun _ => ⟨rfl, rfl⟩

theorem Implements.bind {first : Program Whole Failure Value}
    {coarse : Program Part Failure Value}
    {next : Value → Program Whole Failure Result}
    {coarseNext : Value → Program Part Failure Result}
    (left : Implements view first coarse)
    (right : ∀ value, Implements view (next value) (coarseNext value)) :
    Implements view (first >>= next) (coarse >>= coarseNext) := by
  intro whole
  obtain ⟨sameResult, sameState⟩ := left whole
  rcases outcome_bind_cases first next whole with
    ⟨value, after, ended, bound⟩ | ⟨failure, after, ended, bound⟩
  · rw [ended] at sameResult sameState
    have coarseEnded :
        coarse.outcome (view.get whole) = (.ok value, view.get after) :=
      Prod.ext sameResult.symm sameState.symm
    rw [bound, outcome_bind, coarseEnded]
    exact right value after
  · rw [ended] at sameResult sameState
    have coarseEnded :
        coarse.outcome (view.get whole) = (.error failure, view.get after) :=
      Prod.ext sameResult.symm sameState.symm
    rw [bound, outcome_bind, coarseEnded]
    exact ⟨rfl, rfl⟩

/-- What a program writes outside the part in view is not seen from it. -/
theorem implements_hidden {change : Whole → Whole}
    (hidden : ∀ whole, view.get (change whole) = view.get whole) :
    Implements view (modify change : Program Whole Failure PUnit)
      (pure PUnit.unit) :=
  fun whole => ⟨rfl, hidden whole⟩

end Implements

end Program

end LanShield.Library
