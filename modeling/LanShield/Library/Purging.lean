import LanShield.Library.Runs

/-!
# Events without a trace

Two runs of one system are compared, one of which misses some events.  If a
missed event keeps the states related, and any other event does so when both
runs handle it, the runs end in related states.  What is not to be compared
can be taken out of states and events first.
-/

namespace LanShield.Library

section Views

variable {State Event : Type*} {step : State → Event → State}
  {view : State → State} {viewEvent : Event → Event}

/-- A view that the steps respect is one that runs respect. -/
theorem run_view
    (respects :
      ∀ state event,
        step (view state) (viewEvent event) = view (step state event))
    (events : List Event) (state : State) :
    run step (view state) (events.map viewEvent) =
      view (run step state events) := by
  induction events generalizing state with
  | nil => rfl
  | cons event later inductionHypothesis =>
      rw [List.map_cons, run_cons, run_cons, respects, inductionHypothesis]

theorem stepsMeet_view {condition : State → Event → Prop}
    (respects :
      ∀ state event,
        step (view state) (viewEvent event) = view (step state event))
    (sees :
      ∀ state event, condition state event →
        condition (view state) (viewEvent event)) :
    ∀ {events : List Event} {state : State},
      StepsMeet step condition state events →
        StepsMeet step condition (view state) (events.map viewEvent)
  | [], _, _ => trivial
  | event :: _, state, meets => by
      refine ⟨sees state event meets.1, ?_⟩
      rw [respects]
      exact stepsMeet_view respects sees meets.2

end Views

section Purging

variable {State Event : Type*} {step : State → Event → State}
  {related : State → State → Prop} {hidden : Event → Prop}
  [DecidablePred hidden] {admissible : State → Event → Prop}

/-- The events that are not hidden. -/
def purge (hidden : Event → Prop) [DecidablePred hidden]
    (events : List Event) : List Event :=
  events.filter fun event => ¬ hidden event

private theorem purge_cons_of_hidden {event : Event} (unseen : hidden event)
    (later : List Event) :
    purge hidden (event :: later) = purge hidden later := by
  rw [purge, List.filter_cons_of_neg (by simpa using unseen), purge]

private theorem purge_cons_of_seen {event : Event} (seen : ¬ hidden event)
    (later : List Event) :
    purge hidden (event :: later) = event :: purge hidden later := by
  rw [purge, List.filter_cons_of_pos (by simpa using seen), purge]

/-- What is hidden does not depend on what is not compared. -/
theorem map_purge {viewEvent : Event → Event}
    (hidden_iff : ∀ event, hidden (viewEvent event) ↔ hidden event)
    (events : List Event) :
    (purge hidden events).map viewEvent =
      purge hidden (events.map viewEvent) := by
  induction events with
  | nil => rfl
  | cons event later inductionHypothesis =>
      rw [List.map_cons]
      by_cases hide : hidden event
      · rw [purge_cons_of_hidden hide,
          purge_cons_of_hidden ((hidden_iff event).mpr hide),
          inductionHypothesis]
      · rw [purge_cons_of_seen hide,
          purge_cons_of_seen ((hidden_iff event).not.mpr hide),
          List.map_cons, inductionHypothesis]

/-- The run without the hidden events ends in a related state. -/
theorem run_purge
    (unseen :
      ∀ left right event,
        admissible left event → hidden event → related left right →
          related (step left event) right)
    (seen :
      ∀ left right event,
        admissible left event → ¬ hidden event → related left right →
          related (step left event) (step right event)) :
    ∀ {events : List Event} {left right : State},
      StepsMeet step admissible left events → related left right →
        related (run step left events)
          (run step right (purge hidden events))
  | [], _, _, _, initially => initially
  | event :: later, left, right, ⟨first, rest⟩, initially => by
      rw [run_cons]
      by_cases hide : hidden event
      · rw [purge_cons_of_hidden hide]
        exact
          run_purge unseen seen rest
            (unseen left right event first hide initially)
      · rw [purge_cons_of_seen hide, run_cons]
        exact
          run_purge unseen seen rest
            (seen left right event first hide initially)

end Purging

end LanShield.Library
