import Mathlib.Data.List.Basic
import Mathlib.Data.List.Infix

/-!
# Runs of a deterministic step function

A system is a step function on states and events; a run feeds it a list of
events.  The rules below turn a fact about one step into a fact about every
state of every run.  Predicates may mention the events handled so far, so a
run can be compared with what its environment supplied.
-/

namespace LanShield.Library

section Runs

variable {State Event : Type*}

/-- The state a system reaches from `start` by handling `events` in order. -/
def run (step : State → Event → State) (start : State)
    (events : List Event) : State :=
  events.foldl step start

@[simp]
theorem run_nil (step : State → Event → State) (start : State) :
    run step start [] = start :=
  rfl

@[simp]
theorem run_cons
    (step : State → Event → State) (start : State)
    (event : Event) (later : List Event) :
    run step start (event :: later) =
      run step (step start event) later :=
  rfl

/-- Every event of the run meets `guard` in the state it is handled in. -/
def StepsMeet (step : State → Event → State)
    (guard : State → Event → Prop) : State → List Event → Prop
  | _, [] => True
  | start, event :: later =>
      guard start event ∧ StepsMeet step guard (step start event) later

instance StepsMeet.decidable
    {step : State → Event → State} {guard : State → Event → Prop}
    [decide : ∀ state event, Decidable (guard state event)] :
    ∀ (start : State) (events : List Event),
      Decidable (StepsMeet step guard start events)
  | _, [] => isTrue trivial
  | start, event :: later =>
      @instDecidableAnd _ _ (decide start event)
        (StepsMeet.decidable (step start event) later)

theorem StepsMeet.of_forall
    {step : State → Event → State} {guard : State → Event → Prop}
    (always : ∀ state event, guard state event) :
    ∀ (events : List Event) (start : State),
      StepsMeet step guard start events
  | [], _ => trivial
  | event :: later, start =>
      ⟨always start event,
        StepsMeet.of_forall always later (step start event)⟩

/-- A weaker guard is met by the same runs. -/
theorem StepsMeet.imp
    {step : State → Event → State} {guard weaker : State → Event → Prop}
    (weakens : ∀ state event, guard state event → weaker state event) :
    ∀ {events : List Event} {start : State},
      StepsMeet step guard start events →
        StepsMeet step weaker start events
  | [], _, _ => trivial
  | _ :: _, _, meets =>
      ⟨weakens _ _ meets.1, StepsMeet.imp weakens meets.2⟩

theorem stepsMeet_append
    {step : State → Event → State} {guard : State → Event → Prop}
    (earlier later : List Event) (start : State) :
    StepsMeet step guard start (earlier ++ later) ↔
      StepsMeet step guard start earlier ∧
        StepsMeet step guard (run step start earlier) later := by
  induction earlier generalizing start with
  | nil =>
      simp [StepsMeet]
  | cons event rest inductionHypothesis =>
      simp only [List.cons_append, StepsMeet, run_cons,
        inductionHypothesis, and_assoc]

/-- A property of every event may join the guard. -/
theorem StepsMeet.and_forall
    {step : State → Event → State} {guard : State → Event → Prop}
    {good : Event → Prop} :
    ∀ {events : List Event} {start : State},
      (∀ event ∈ events, good event) →
        StepsMeet step guard start events →
          StepsMeet step (fun state event => good event ∧ guard state event)
            start events
  | [], _, _, _ => trivial
  | _ :: _, _, allGood, meets =>
      ⟨⟨allGood _ List.mem_cons_self, meets.1⟩,
        StepsMeet.and_forall
          (fun event member => allGood event (List.mem_cons_of_mem _ member))
          meets.2⟩

/-- The guard is met in every prefix of a run that meets it. -/
theorem StepsMeet.of_isPrefix
    {step : State → Event → State} {guard : State → Event → Prop}
    {visited events : List Event} {start : State}
    (meets : StepsMeet step guard start events)
    (isPrefix : visited <+: events) :
    StepsMeet step guard start visited := by
  obtain ⟨later, rfl⟩ := isPrefix
  exact ((stepsMeet_append visited later start).mp meets).1

/-- What holds in every state of a run is a guard its events meet. -/
theorem stepsMeet_of_prefixes
    {step : State → Event → State} {holds : State → Prop} :
    ∀ {events : List Event} {start : State},
      (∀ visited, visited <+: events → holds (run step start visited)) →
        StepsMeet step (fun state _ => holds state) start events
  | [], _, _ => trivial
  | event :: _, _, everywhere =>
      ⟨everywhere [] List.nil_prefix,
        stepsMeet_of_prefixes fun visited isPrefix =>
          everywhere (event :: visited)
            (List.cons_prefix_cons.mpr ⟨rfl, isPrefix⟩)⟩

/-- Guards that agree wherever a third one is met are met by the same runs
among those that meet it. -/
theorem StepsMeet.congr
    {step : State → Event → State} {given guard other : State → Event → Prop}
    (same :
      ∀ state event, given state event →
        (guard state event ↔ other state event)) :
    ∀ {events : List Event} {start : State},
      StepsMeet step given start events →
        (StepsMeet step guard start events ↔
          StepsMeet step other start events)
  | [], _, _ => Iff.rfl
  | _ :: _, _, meets =>
      and_congr (same _ _ meets.1) (StepsMeet.congr same meets.2)

/-- Guards that agree in every state an invariant allows are met by the same
runs. -/
theorem stepsMeet_congr
    {step : State → Event → State} {holds : State → Prop}
    {guard other : State → Event → Prop}
    (preserved :
      ∀ state event, holds state → holds (step state event))
    (same :
      ∀ state event, holds state → (guard state event ↔ other state event)) :
    ∀ (events : List Event) (start : State), holds start →
      (StepsMeet step guard start events ↔
        StepsMeet step other start events)
  | [], _, _ => Iff.rfl
  | event :: later, start, initially =>
      and_congr (same start event initially)
        (stepsMeet_congr preserved same later (step start event)
          (preserved start event initially))

/-- A predicate on the events handled so far and the state they led to,
preserved by every guarded step, holds at the end of every guarded run. -/
theorem run_history_invariant
    {step : State → Event → State} {guard : State → Event → Prop}
    {holds : List Event → State → Prop}
    (preserved :
      ∀ handled state event,
        guard state event → holds handled state →
          holds (handled ++ [event]) (step state event)) :
    ∀ (events handled : List Event) (start : State),
      holds handled start →
        StepsMeet step guard start events →
          holds (handled ++ events) (run step start events)
  | [], handled, start, initially, _ => by
      simpa using initially
  | event :: later, handled, start, initially, meets => by
      have next :=
        preserved handled start event meets.1 initially
      have rest :=
        run_history_invariant preserved later (handled ++ [event])
          (step start event) next meets.2
      simpa [List.append_assoc] using rest

/-- A state predicate preserved by every guarded step holds at the end of
every guarded run. -/
theorem run_guarded_invariant
    {step : State → Event → State} {guard : State → Event → Prop}
    {holds : State → Prop}
    (preserved :
      ∀ state event, guard state event → holds state →
        holds (step state event))
    (events : List Event) {start : State}
    (initially : holds start)
    (meets : StepsMeet step guard start events) :
    holds (run step start events) :=
  @run_history_invariant State Event step guard
    (fun _ state => holds state)
    (fun _ state event => preserved state event)
    events [] start initially meets

/-- A state predicate preserved by every step holds after every run. -/
theorem run_invariant
    {step : State → Event → State} {holds : State → Prop}
    (preserved :
      ∀ state event, holds state → holds (step state event))
    (events : List Event) {start : State} (initially : holds start) :
    holds (run step start events) :=
  @run_guarded_invariant State Event step (fun _ _ => True) holds
    (fun state event _ => preserved state event) events start initially
    (StepsMeet.of_forall (fun _ _ => trivial) events start)

/-- What no step undoes holds at the end of a run exactly when it held at
the beginning or some step brought it about. -/
theorem run_reaches_iff
    {step : State → Event → State} {carried down : State → Prop}
    {lowers : State → Event → Prop}
    (carries :
      ∀ state event, carried state → carried (step state event))
    (stays :
      ∀ state event, carried state → down state →
        down (step state event))
    (falls :
      ∀ state event, carried state → ¬ down state →
        (down (step state event) ↔ lowers state event)) :
    ∀ (events : List Event) (start : State), carried start →
      (down (run step start events) ↔
        down start ∨
          ∃ earlier event later,
            events = earlier ++ event :: later ∧
              lowers (run step start earlier) event)
  | [], start, _ => by
      simp
  | event :: later, start, initially => by
      have laterIff :=
        run_reaches_iff carries stays falls later (step start event)
          (carries start event initially)
      rw [run_cons, laterIff]
      constructor
      · rintro (fallen | ⟨earlier, lowering, rest, rfl, lowered⟩)
        · by_cases before : down start
          · exact Or.inl before
          · refine Or.inr ⟨[], event, later, rfl, ?_⟩
            exact (falls start event initially before).mp fallen
        · exact
            Or.inr ⟨event :: earlier, lowering, rest, rfl, lowered⟩
      · rintro (before | ⟨earlier, lowering, rest, split, lowered⟩)
        · exact Or.inl (stays start event initially before)
        · cases earlier with
          | nil =>
              obtain ⟨rfl, rfl⟩ := List.cons.inj split
              by_cases before : down start
              · exact Or.inl (stays start event initially before)
              · exact
                  Or.inl ((falls start event initially before).mpr lowered)
          | cons first earlier =>
              obtain ⟨rfl, rfl⟩ := List.cons.inj split
              exact Or.inr ⟨earlier, lowering, rest, rfl, lowered⟩

/-- Every event is admissible after the events handled before it. -/
def Along (admissible : List Event → Event → Prop) :
    List Event → List Event → Prop
  | _, [] => True
  | handled, event :: later =>
      admissible handled event ∧ Along admissible (handled ++ [event]) later

theorem Along.of_forall
    {admissible : List Event → Event → Prop}
    (always : ∀ handled event, admissible handled event) :
    ∀ (events handled : List Event), Along admissible handled events
  | [], _ => trivial
  | event :: later, handled =>
      ⟨always handled event,
        Along.of_forall always later (handled ++ [event])⟩

theorem run_append
    (step : State → Event → State) (start : State)
    (handled later : List Event) :
    run step start (handled ++ later) =
      run step (run step start handled) later :=
  List.foldl_append

theorem run_concat
    (step : State → Event → State) (start : State)
    (handled : List Event) (event : Event) :
    run step start (handled ++ [event]) =
      step (run step start handled) event :=
  run_append step start handled [event]

/-- A guard on states is a condition on what has been handled. -/
theorem StepsMeet.along
    {step : State → Event → State} {guard : State → Event → Prop}
    {start : State} :
    ∀ {events handled : List Event},
      StepsMeet step guard (run step start handled) events →
        Along (fun handled event => guard (run step start handled) event)
          handled events
  | [], _, _ => trivial
  | event :: _, handled, meets => by
      obtain ⟨first, later⟩ := meets
      rw [← run_concat step] at later
      exact ⟨first, StepsMeet.along later⟩

/-- Suppose that, as long as some invariant is carried along, a guard is
exactly what a step needs to keep a predicate, and also keeps the invariant.
Then the predicate holds in every state of a run of admissible events
exactly when every step meets the guard. -/
theorem forall_prefix_iff_stepsMeet
    {step : State → Event → State} {guard : State → Event → Prop}
    {admissible : List Event → Event → Prop}
    {carried holds : List Event → State → Prop}
    (exact_step :
      ∀ handled state event,
        admissible handled event → carried handled state →
          holds handled state →
            (holds (handled ++ [event]) (step state event) ↔
              guard state event))
    (carries :
      ∀ handled state event,
        admissible handled event → carried handled state →
          guard state event →
            carried (handled ++ [event]) (step state event)) :
    ∀ (events handled : List Event) (start : State),
      Along admissible handled events → carried handled start →
        holds handled start →
          ((∀ visited, visited <+: events →
              holds (handled ++ visited) (run step start visited)) ↔
            StepsMeet step guard start events)
  | [], handled, start, _, _, initially => by
      constructor
      · intro _
        trivial
      · intro _ visited isPrefix
        have empty : visited = [] := List.prefix_nil.mp isPrefix
        subst empty
        simpa using initially
  | event :: later, handled, start, along, carriedStart, initially => by
      obtain ⟨admitted, alongLater⟩ := along
      have exact_first :=
        exact_step handled start event admitted carriedStart initially
      have laterIff (meets : guard start event) :=
        forall_prefix_iff_stepsMeet exact_step carries later
          (handled ++ [event]) (step start event) alongLater
          (carries handled start event admitted carriedStart meets)
          (exact_first.mpr meets)
      constructor
      · intro everywhere
        have meets : guard start event :=
          exact_first.mp (everywhere [event] ⟨later, rfl⟩)
        refine ⟨meets, (laterIff meets).mp ?_⟩
        intro visited isPrefix
        have extended :=
          everywhere (event :: visited)
            (List.cons_prefix_cons.mpr ⟨rfl, isPrefix⟩)
        simpa [List.append_assoc] using extended
      · rintro ⟨meets, restMeets⟩ visited isPrefix
        cases visited with
        | nil =>
            simpa using initially
        | cons first rest =>
            obtain ⟨rfl, restPrefix⟩ := List.cons_prefix_cons.mp isPrefix
            have extended := (laterIff meets).mpr restMeets rest restPrefix
            simpa [List.append_assoc] using extended

end Runs

end LanShield.Library
