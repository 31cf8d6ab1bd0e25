import LanShield.Library.Runs

/-!
# What happened since an earlier event

A past-time reading of a run: some event occurred, and every later one met a
guard.  A phase that is entered only by such events, and left unless the guard
is met, gives the event to whoever finds the system in it.
-/

namespace LanShield.Library

variable {State Event : Type*} {step : State → Event → State} {start : State}
  {occurred guard : State → Event → Prop}

/-- An event occurred, and those after it met the guard. -/
def Since (step : State → Event → State) (start : State)
    (occurred guard : State → Event → Prop) (events : List Event) : Prop :=
  ∃ before event between,
    events = before ++ event :: between ∧
      occurred (run step start before) event ∧
        StepsMeet step guard (run step start (before ++ [event])) between

theorem Since.now {handled : List Event} {event : Event}
    (here : occurred (run step start handled) event) :
    Since step start occurred guard (handled ++ [event]) :=
  ⟨handled, event, [], rfl, here, trivial⟩

theorem Since.next {handled : List Event} {event : Event}
    (since : Since step start occurred guard handled)
    (meets : guard (run step start handled) event) :
    Since step start occurred guard (handled ++ [event]) := by
  obtain ⟨before, first, between, rfl, happened, met⟩ := since
  refine ⟨before, first, between ++ [event], ?_, happened, ?_⟩
  · rw [List.append_assoc, List.cons_append]
  · rw [stepsMeet_append, ← run_append]
    refine ⟨met, ?_, trivial⟩
    simpa [List.append_assoc] using meets

/-- A phase that only the event enters, and in which the guard is met, has
been entered by the event. -/
theorem since_of_phase {phase : State → Prop} (outside : ¬ phase start)
    (enters :
      ∀ state event, phase (step state event) →
        occurred state event ∨ phase state ∧ guard state event)
    (events : List Event) (inside : phase (run step start events)) :
    Since step start occurred guard events := by
  induction events using List.reverseRecOn with
  | nil => exact absurd inside outside
  | append_singleton handled event inductionHypothesis =>
      rw [run_concat] at inside
      rcases enters _ _ inside with here | ⟨earlier, meets⟩
      · exact Since.now here
      · exact (inductionHypothesis earlier).next meets

end LanShield.Library
