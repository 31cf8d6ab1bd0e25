import LanShield.Library.Runs

/-!
# What passes through a system

Items enter a system in some steps of a run and leave it in others.  Where
each step passes on, in order, what it held and what has entered, so does the
run.  Some steps may lose items; a run without these passes on all of them.
-/

namespace LanShield.Library

variable {State Event Item Image : Type*}

/-- `left` is what entered, in order, except for what may be lost. -/
structure Passed (lossless : Prop) (entered left : List Item) : Prop where
  inOrder : left.Sublist entered
  all : lossless → left = entered

namespace Passed

variable {lossless : Prop} {entered middle left : List Item}

theorem refl (items : List Item) : Passed lossless items items :=
  ⟨List.Sublist.refl items, fun _ => rfl⟩

theorem of_eq (same : left = entered) : Passed lossless entered left :=
  same ▸ refl left

theorem trans (first : Passed lossless entered middle)
    (second : Passed lossless middle left) :
    Passed lossless entered left where
  inOrder := second.inOrder.trans first.inOrder
  all holds := (second.all holds).trans (first.all holds)

theorem imp {stronger : Prop} (passed : Passed lossless entered left)
    (weakens : stronger → lossless) : Passed stronger entered left :=
  ⟨passed.inOrder, fun holds => passed.all (weakens holds)⟩

/-- What enters behind the others leaves behind them. -/
theorem append_right (passed : Passed lossless entered left)
    (later : List Item) :
    Passed lossless (entered ++ later) (left ++ later) where
  inOrder := passed.inOrder.append_right later
  all holds := by rw [passed.all holds]

theorem append_left (passed : Passed lossless entered left)
    (earlier : List Item) :
    Passed lossless (earlier ++ entered) (earlier ++ left) where
  inOrder := (List.append_sublist_append_left earlier).mpr passed.inOrder
  all holds := by rw [passed.all holds]

end Passed

/-- A guarded run meets its invariant at every step. -/
theorem StepsMeet.with_invariant {step : State → Event → State}
    {guard : State → Event → Prop} {holds : State → Prop}
    (preserved :
      ∀ state event, guard state event → holds state →
        holds (step state event)) :
    ∀ {events : List Event} {start : State}, holds start →
      StepsMeet step guard start events →
        StepsMeet step (fun state event => guard state event ∧ holds state)
          start events
  | [], _, _, _ => trivial
  | event :: _, start, initially, meets =>
      ⟨⟨meets.1, initially⟩,
        meets.2.with_invariant preserved
          (preserved start event meets.1 initially)⟩

/-- What the steps of a run put out. -/
def emitted (step : State → Event → State)
    (emit : State → Event → List Item) : State → List Event → List Item
  | _, [] => []
  | state, event :: later =>
      emit state event ++ emitted step emit (step state event) later

theorem emitted_nil (step : State → Event → State) :
    ∀ (start : State) (events : List Event),
      emitted step (fun _ _ => ([] : List Item)) start events = []
  | _, [] => rfl
  | start, event :: later => emitted_nil step (step start event) later

/-- What is seen of a run is what is seen of its steps. -/
theorem emitted_image {step : State → Event → State}
    {emit : State → Event → List Item} {image : List Item → List Image}
    (nil : image [] = [])
    (append :
      ∀ first second, image (first ++ second) = image first ++ image second) :
    ∀ (start : State) (events : List Event),
      image (emitted step emit start events) =
        emitted step (fun state event => image (emit state event)) start
          events
  | _, [] => nil
  | start, event :: later => by
      rw [emitted, append, emitted_image nil append _ later, emitted]

/-- Of what each step puts out something holds in the state it leaves, and
later steps keep it. -/
theorem forall_emitted {step : State → Event → State}
    {emit : State → Event → List Item} {holds : State → Item → Prop}
    (kept :
      ∀ state event item, holds state item → holds (step state event) item) :
    ∀ {events : List Event} {start : State},
      StepsMeet step
          (fun state event =>
            ∀ item ∈ emit state event, holds (step state event) item)
          start events →
        ∀ item ∈ emitted step emit start events,
          holds (run step start events) item
  | [], _, _, _, inside => absurd inside List.not_mem_nil
  | event :: later, start, meets, item, inside => by
      rcases List.mem_append.mp inside with first | rest
      · exact
          run_invariant (fun state event => kept state event item) later
            (meets.1 item first)
      · exact forall_emitted kept meets.2 item rest

/-- Where every step passes on what was held and what enters, the run does.
-/
theorem passed_run {step : State → Event → State}
    {entering leaving : State → Event → List Item}
    {held : State → List Item} {lossless : Event → Prop} :
    ∀ {events : List Event} {start : State},
      StepsMeet step
          (fun state event =>
            Passed (lossless event) (held state ++ entering state event)
              (leaving state event ++ held (step state event)))
          start events →
        Passed (∀ event ∈ events, lossless event)
          (held start ++ emitted step entering start events)
          (emitted step leaving start events ++
            held (run step start events))
  | [], start, _ => Passed.of_eq (List.append_nil _).symm
  | event :: later, start, passes => by
      have first :=
        (passes.1.append_right
          (emitted step entering (step start event) later)).imp
            fun all : ∀ given ∈ event :: later, lossless given =>
              all event List.mem_cons_self
      have rest :=
        ((passed_run passes.2).append_left (leaving start event)).imp
            fun all : ∀ given ∈ event :: later, lossless given =>
              fun given inside => all given (List.mem_cons_of_mem _ inside)
      simp only [emitted, run_cons, ← List.append_assoc] at first rest ⊢
      exact first.trans rest

end LanShield.Library
