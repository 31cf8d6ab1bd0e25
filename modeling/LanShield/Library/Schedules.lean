import Mathlib.Order.WellFounded

/-!
# Infinite schedules

A step function driven by an infinite sequence of events, and the rule for
reaching a goal: every useful event lowers a rank, no other event raises it,
and useful events keep coming.
-/

namespace LanShield.Library

variable {State Event Rank : Type*}

/-- The state after the first `count` events of the schedule. -/
def stateAt (step : State → Event → State) (start : State)
    (schedule : Nat → Event) : Nat → State
  | 0 => start
  | count + 1 =>
      step (stateAt step start schedule count) (schedule count)

/-- A goal is reached if the useful events lower a well-founded rank until
it is, and events stop raising the rank from some time on. -/
theorem eventually_of_fair [Preorder Rank] [WellFoundedLT Rank]
    {step : State → Event → State} {start : State}
    {schedule : Nat → Event} {done : State → Prop}
    {useful calm : Event → Prop} {rank : State → Rank}
    (keeps :
      ∀ state event, calm event → ¬ done state →
        done (step state event) ∨ rank (step state event) ≤ rank state)
    (lowers :
      ∀ state event, useful event → ¬ done state →
        done (step state event) ∨ rank (step state event) < rank state)
    (settles : ∃ time, ∀ later ≥ time, calm (schedule later))
    (fair : ∀ time, ∃ later ≥ time, useful (schedule later)) :
    ∃ time, done (stateAt step start schedule time) := by
  by_contra never
  push Not at never
  obtain ⟨settled, calmly⟩ := settles
  let reached := stateAt step start schedule
  have descends {time : Nat} (late : settled ≤ time) :
      ∀ span, rank (reached (time + span)) ≤ rank (reached time) := by
    intro span
    induction span with
    | zero => exact le_refl _
    | succ span inductionHypothesis =>
        have quiet : calm (schedule (time + span)) :=
          calmly _ (late.trans (Nat.le_add_right time span))
        have lower := keeps (reached (time + span)) _ quiet (never _)
        have next := lower.resolve_left (never (time + span + 1))
        exact next.trans inductionHypothesis
  have impossible :
      ∀ value : Rank, ∀ time, settled ≤ time →
        rank (reached time) ≠ value := by
    intro value
    induction value using WellFoundedLT.induction with
    | ind value inductionHypothesis =>
        rintro time late rfl
        obtain ⟨later, behind, works⟩ := fair time
        obtain ⟨span, rfl⟩ := Nat.exists_eq_add_of_le behind
        have lower := lowers (reached (time + span)) _ works (never _)
        have below := lower.resolve_left (never (time + span + 1))
        exact
          inductionHypothesis _ (below.trans_le (descends late span)) _
            (Nat.le_succ_of_le (late.trans behind)) rfl
  exact impossible _ settled (le_refl _) rfl

end LanShield.Library
