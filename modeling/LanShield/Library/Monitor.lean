import LanShield.Library.Runs
import Mathlib.Algebra.Order.BigOperators.Group.Finset
import Mathlib.Data.Finset.Basic

/-!
# Threads whose sections share a monitor

Threads read and write a shared state in sections, each in several steps,
and no thread starts a section while another one is inside of one.  In any
order of their steps the sections take effect as wholes, in the order in
which they were entered; and every run can be brought to its end.
-/

namespace LanShield.Library.Monitor

variable {Thread Local Section Flag Shared : Type*}

/-- Where a thread stands: outside of all sections, or inside of one, with
the place behind it. -/
inductive Point (Local Section : Type*) where
  | outside (here : Local)
  | inside (current : Section) (behind : Local)
  deriving DecidableEq, Repr

/-- What a thread that stands outside does next.  The flag is visible to all
threads without the monitor. -/
inductive Move (Local Section Flag : Type*) where
  | go (there : Local) (flag : Flag)
  | enter (first : Section) (behind : Local)
  | rest
  deriving DecidableEq, Repr

structure Program (Thread Local Section Flag Shared : Type*) where
  next : Flag → Thread → Local → Move Local Section Flag
  /-- One step inside of a section, and what is left of the section. -/
  advance : Thread → Section → Shared → Shared × Option Section

structure System (Thread Local Section Flag Shared : Type*) where
  shared : Shared
  flag : Flag
  owner : Option Thread
  point : Thread → Point Local Section
  entered : List (Thread × Section)

namespace Program

variable [DecidableEq Thread]
  (program : Program Thread Local Section Flag Shared)
  (system : System Thread Local Section Flag Shared) (thread : Thread)

/-- A thread that finds the monitor taken waits. -/
def step : System Thread Local Section Flag Shared :=
  match system.point thread with
  | .outside here =>
      match program.next system.flag thread here with
      | .go there flag =>
          { system with
            flag
            point := Function.update system.point thread (.outside there) }
      | .enter first behind =>
          if system.owner.isNone then
            { system with
              owner := some thread
              point :=
                Function.update system.point thread (.inside first behind)
              entered := system.entered ++ [(thread, first)] }
          else
            system
      | .rest => system
  | .inside current behind =>
      match program.advance thread current system.shared with
      | (shared, some later) =>
          { system with
            shared
            point :=
              Function.update system.point thread (.inside later behind) }
      | (shared, none) =>
          { system with
            shared
            owner := none
            point := Function.update system.point thread (.outside behind) }

variable {program system thread}

section Steps

variable {here there behind : Local} {first current later : Section}
  {flag : Flag} {shared : Shared}

private theorem step_go (stands : system.point thread = .outside here)
    (next : program.next system.flag thread here = .go there flag) :
    program.step system thread =
      { system with
        flag
        point := Function.update system.point thread (.outside there) } := by
  rw [step, stands]
  dsimp only
  rw [next]

private theorem step_enter (stands : system.point thread = .outside here)
    (next : program.next system.flag thread here = .enter first behind)
    (free : system.owner = none) :
    program.step system thread =
      { system with
        owner := some thread
        point := Function.update system.point thread (.inside first behind)
        entered := system.entered ++ [(thread, first)] } := by
  rw [step, stands]
  dsimp only
  rw [next, free]
  rfl

private theorem step_wait (stands : system.point thread = .outside here)
    (next : program.next system.flag thread here = .enter first behind)
    (taken : system.owner ≠ none) : program.step system thread = system := by
  have some : ¬ system.owner.isNone = true :=
    fun free => taken (Option.isNone_iff_eq_none.mp free)
  rw [step, stands]
  dsimp only
  rw [next]
  exact if_neg some

private theorem step_rest (stands : system.point thread = .outside here)
    (next : program.next system.flag thread here = .rest) :
    program.step system thread = system := by
  rw [step, stands]
  dsimp only
  rw [next]

private theorem step_proceed
    (stands : system.point thread = .inside current behind)
    (advances :
      program.advance thread current system.shared = (shared, some later)) :
    program.step system thread =
      { system with
        shared
        point :=
          Function.update system.point thread (.inside later behind) } := by
  rw [step, stands]
  dsimp only
  rw [advances]

private theorem step_end
    (stands : system.point thread = .inside current behind)
    (advances :
      program.advance thread current system.shared = (shared, none)) :
    program.step system thread =
      { system with
        shared
        owner := none
        point := Function.update system.point thread (.outside behind) } := by
  rw [step, stands]
  dsimp only
  rw [advances]

end Steps

/-- Everything a step can do. -/
inductive StepCase (program : Program Thread Local Section Flag Shared)
    (system : System Thread Local Section Flag Shared) (thread : Thread) :
    System Thread Local Section Flag Shared → Prop where
  | go {here there : Local} {flag : Flag}
      (stands : system.point thread = .outside here)
      (next : program.next system.flag thread here = .go there flag) :
      StepCase program system thread
        { system with
          flag
          point := Function.update system.point thread (.outside there) }
  | enter {here behind : Local} {first : Section}
      (stands : system.point thread = .outside here)
      (next : program.next system.flag thread here = .enter first behind)
      (free : system.owner = none) :
      StepCase program system thread
        { system with
          owner := some thread
          point :=
            Function.update system.point thread (.inside first behind)
          entered := system.entered ++ [(thread, first)] }
  | stay : StepCase program system thread system
  | proceed {current later : Section} {behind : Local} {shared : Shared}
      (stands : system.point thread = .inside current behind)
      (advances :
        program.advance thread current system.shared =
          (shared, some later)) :
      StepCase program system thread
        { system with
          shared
          point :=
            Function.update system.point thread (.inside later behind) }
  | finish {current : Section} {behind : Local} {shared : Shared}
      (stands : system.point thread = .inside current behind)
      (advances :
        program.advance thread current system.shared = (shared, none)) :
      StepCase program system thread
        { system with
          shared
          owner := none
          point := Function.update system.point thread (.outside behind) }

theorem step_cases :
    StepCase program system thread (program.step system thread) := by
  cases stands : system.point thread with
  | outside here =>
      cases next : program.next system.flag thread here with
      | go there flag =>
          rw [step_go stands next]
          exact .go stands next
      | enter first behind =>
          by_cases free : system.owner = none
          · rw [step_enter stands next free]
            exact .enter stands next free
          · rw [step_wait stands next free]
            exact .stay
      | rest =>
          rw [step_rest stands next]
          exact .stay
  | inside current behind =>
      cases advances : program.advance thread current system.shared with
      | mk shared left =>
          cases left with
          | some later =>
              rw [step_proceed stands advances]
              exact .proceed stands advances
          | none =>
              rw [step_end stands advances]
              exact .finish stands advances

end Program

/-- The threads inside of a section are the owner of the monitor. -/
def Exclusive (system : System Thread Local Section Flag Shared) : Prop :=
  ∀ thread,
    (∃ current behind, system.point thread = .inside current behind) ↔
      system.owner = some thread

/-- `effect` is what is left to be done from inside of a section. -/
structure HasEffect (program : Program Thread Local Section Flag Shared)
    (effect : Thread → Section → Shared → Shared) : Prop where
  continues :
    ∀ {thread current shared shared' later},
      program.advance thread current shared = (shared', some later) →
        effect thread current shared = effect thread later shared'
  ends :
    ∀ {thread current shared shared'},
      program.advance thread current shared = (shared', none) →
        effect thread current shared = shared'

/-- The sections one behind the other. -/
def replay (effect : Thread → Section → Shared → Shared) (start : Shared)
    (entered : List (Thread × Section)) : Shared :=
  entered.foldl (fun shared entry => effect entry.1 entry.2 shared) start

/-- Once the section that is under way has come to its end, all sections
have taken effect in the order in which they were entered. -/
structure Linearized (effect : Thread → Section → Shared → Shared)
    (start : Shared) (system : System Thread Local Section Flag Shared) :
    Prop where
  exclusive : Exclusive system
  free :
    system.owner = none → system.shared = replay effect start system.entered
  held :
    ∀ {thread current behind},
      system.point thread = .inside current behind →
        effect thread current system.shared =
          replay effect start system.entered

section Linearization

variable {program : Program Thread Local Section Flag Shared}
  {effect : Thread → Section → Shared → Shared} {start : Shared}
  {system after : System Thread Local Section Flag Shared}
  {thread other : Thread}

theorem Exclusive.not_owner {here : Local} (exclusive : Exclusive system)
    (stands : system.point thread = .outside here) :
    system.owner ≠ some thread := by
  intro owns
  obtain ⟨current, behind, inside⟩ := (exclusive thread).mpr owns
  rw [stands] at inside
  cases inside

theorem Exclusive.owner {current : Section} {behind : Local}
    (exclusive : Exclusive system)
    (stands : system.point thread = .inside current behind) :
    system.owner = some thread :=
  (exclusive thread).mp ⟨current, behind, stands⟩

/-- While the monitor is free no thread is inside of a section. -/
theorem Exclusive.outside (exclusive : Exclusive system)
    (free : system.owner = none) :
    ∀ thread, ∃ here, system.point thread = .outside here := by
  intro thread
  cases stands : system.point thread with
  | outside here => exact ⟨here, rfl⟩
  | inside current behind =>
      have owns := exclusive.owner stands
      rw [free] at owns
      cases owns

theorem replay_concat (entered : List (Thread × Section)) (first : Section) :
    replay effect start (entered ++ [(thread, first)]) =
      effect thread first (replay effect start entered) := by
  rw [replay, List.foldl_append]
  rfl

variable [DecidableEq Thread]

theorem Program.StepCase.exclusive
    (stepped : StepCase program system thread after)
    (exclusive : Exclusive system) : Exclusive after := by
  intro other
  by_cases same : other = thread
  · subst same
    cases stepped with
    | go stands next =>
        have owner := exclusive.not_owner stands
        simp [owner]
    | enter stands next free => simp
    | stay => exact exclusive other
    | proceed stands advances =>
        have owner := exclusive.owner stands
        simp [owner]
    | finish stands advances => simp
  · cases stepped with
    | go stands next =>
        simpa [Function.update_of_ne same] using exclusive other
    | enter stands next free =>
        have outside := (exclusive other).not
        rw [free] at outside
        simp only [Function.update_of_ne same, Option.some.injEq]
        constructor
        · intro inside
          exact absurd inside (outside.mpr (by simp))
        · intro equal
          exact absurd equal.symm same
    | stay => exact exclusive other
    | proceed stands advances =>
        simpa [Function.update_of_ne same] using exclusive other
    | finish stands advances =>
        have owner := exclusive.owner stands
        simp only [Function.update_of_ne same]
        constructor
        · intro inside
          have owns := (exclusive other).mp inside
          rw [owner] at owns
          exact absurd (Option.some.inj owns).symm same
        · intro impossible
          cases impossible

theorem Linearized.step (hasEffect : HasEffect program effect)
    (linearized : Linearized effect start system)
    (stepped : program.StepCase system thread after) :
    Linearized effect start after := by
  obtain ⟨exclusive, free, held⟩ := linearized
  -- Another thread is inside of a section only if it owns the monitor.
  have others {owner other : Thread} (owns : system.owner = some owner)
      (different : other ≠ owner) {current : Section} {behind : Local} :
      system.point other ≠ .inside current behind := by
    intro stands
    have otherOwns := exclusive.owner stands
    rw [owns] at otherOwns
    exact different (Option.some.inj otherOwns).symm
  refine ⟨stepped.exclusive exclusive, ?_, ?_⟩
  · intro freeAfter
    cases stepped with
    | go stands next => exact free freeAfter
    | enter stands next was => cases freeAfter
    | stay => exact free freeAfter
    | proceed stands advances =>
        have owner := exclusive.owner stands
        have owned : system.owner = none := freeAfter
        rw [owner] at owned
        cases owned
    | finish stands advances =>
        have whole := held stands
        rw [hasEffect.ends advances] at whole
        exact whole
  · intro inner current behind standsAfter
    cases stepped with
    | go stands next =>
        by_cases same : inner = thread
        · subst same
          simp at standsAfter
        · simp only [Function.update_of_ne same] at standsAfter
          exact held standsAfter
    | enter stands next was =>
        by_cases same : inner = thread
        · subst same
          simp only [Function.update_self, Point.inside.injEq] at standsAfter
          rw [← standsAfter.1, replay_concat, ← free was]
        · simp only [Function.update_of_ne same] at standsAfter
          have owner := exclusive.owner standsAfter
          rw [was] at owner
          cases owner
    | stay => exact held standsAfter
    | proceed stands advances =>
        have owner := exclusive.owner stands
        by_cases same : inner = thread
        · subst same
          simp only [Function.update_self, Point.inside.injEq] at standsAfter
          rw [← standsAfter.1, ← held stands]
          exact (hasEffect.continues advances).symm
        · simp only [Function.update_of_ne same] at standsAfter
          exact absurd standsAfter (others owner same)
    | finish stands advances =>
        have owner := exclusive.owner stands
        by_cases same : inner = thread
        · subst same
          simp at standsAfter
        · simp only [Function.update_of_ne same] at standsAfter
          exact absurd standsAfter (others owner same)

/-- In every run the sections take effect one behind the other. -/
theorem linearized_run (hasEffect : HasEffect program effect)
    (initially : Linearized effect start system) (schedule : List Thread) :
    Linearized effect start (run program.step system schedule) :=
  run_invariant
    (fun _ _ linearized => linearized.step hasEffect Program.step_cases)
    schedule initially

end Linearization

section Completion

variable [DecidableEq Thread]
  {program : Program Thread Local Section Flag Shared}
  {system after : System Thread Local Section Flag Shared}
  {thread : Thread} {done : Local → Prop}
  {weight : Point Local Section → Nat}

/-- Only threads that are done rest, and every other step lowers the weight
of the place the thread stands at. -/
structure Lowers (program : Program Thread Local Section Flag Shared)
    (done : Local → Prop) (weight : Point Local Section → Nat) : Prop where
  rests :
    ∀ {flag thread here},
      program.next flag thread here = .rest ↔ done here
  go :
    ∀ {flag thread here there flag'},
      program.next flag thread here = .go there flag' →
        weight (.outside there) < weight (.outside here)
  enter :
    ∀ {flag thread here first behind},
      program.next flag thread here = .enter first behind →
        weight (.inside first behind) < weight (.outside here)
  proceed :
    ∀ {thread current shared shared' later behind},
      program.advance thread current shared = (shared', some later) →
        weight (.inside later behind) < weight (.inside current behind)
  finish :
    ∀ {thread current shared shared' behind},
      program.advance thread current shared = (shared', none) →
        weight (.outside behind) < weight (.inside current behind)

def Done (done : Local → Prop)
    (system : System Thread Local Section Flag Shared) (thread : Thread) :
    Prop :=
  ∃ here, system.point thread = .outside here ∧ done here

private theorem Program.StepCase.point_other
    (stepped : program.StepCase system thread after)
    {other : Thread} (different : other ≠ thread) :
    after.point other = system.point other := by
  cases stepped <;> simp [different]

/-- A thread that is not done lowers its weight unless it has to wait. -/
private theorem Lowers.weight_step (lowers : Lowers program done weight)
    (exclusive : Exclusive system) (busy : ¬ Done done system thread)
    (allowed : system.owner = none ∨ system.owner = some thread) :
    weight ((program.step system thread).point thread) <
      weight (system.point thread) := by
  cases stands : system.point thread with
  | outside here =>
      have free : system.owner = none :=
        allowed.resolve_right (exclusive.not_owner stands)
      cases next : program.next system.flag thread here with
      | go there flag =>
          rw [Program.step_go stands next]
          simpa using lowers.go next
      | enter first behind =>
          rw [Program.step_enter stands next free]
          simpa using lowers.enter next
      | rest => exact absurd ⟨here, stands, lowers.rests.mp next⟩ busy
  | inside current behind =>
      cases advances : program.advance thread current system.shared with
      | mk shared left =>
          cases left with
          | some later =>
              rw [Program.step_proceed stands advances]
              simpa using lowers.proceed advances
          | none =>
              rw [Program.step_end stands advances]
              simpa using lowers.finish advances

/-- Who is done stays where it is. -/
private theorem Lowers.done_step {other : Thread}
    (lowers : Lowers program done weight) (ended : Done done system other)
    (stepped : program.StepCase system thread after) :
    Done done after other := by
  by_cases same : other = thread
  · subst same
    obtain ⟨here, place, isOver⟩ := ended
    have rests (flag : Flag) :
        program.next flag other here = .rest :=
      lowers.rests.mpr isOver
    cases stepped with
    | go stands next =>
        obtain rfl := Point.outside.inj (place.symm.trans stands)
        rw [rests] at next
        cases next
    | enter stands next free =>
        obtain rfl := Point.outside.inj (place.symm.trans stands)
        rw [rests] at next
        cases next
    | stay => exact ⟨here, place, isOver⟩
    | proceed stands advances =>
        rw [place] at stands
        cases stands
    | finish stands advances =>
        rw [place] at stands
        cases stands
  · rw [Done, stepped.point_other same]
    exact ended

theorem done_run {other : Thread} (lowers : Lowers program done weight)
    (ended : Done done system other) (schedule : List Thread) :
    Done done (run program.step system schedule) other :=
  @run_invariant _ _ program.step (fun state => Done done state other)
    (fun _ _ still => lowers.done_step still Program.step_cases)
    schedule system ended

omit [DecidableEq Thread] in
/-- There is no deadlock: some thread that is not done can go on. -/
private theorem exists_allowed (exclusive : Exclusive system)
    (busy : ¬ Done done system thread) :
    ∃ next, ¬ Done done system next ∧
      (system.owner = none ∨ system.owner = some next) := by
  cases owner : system.owner with
  | none => exact ⟨thread, busy, Or.inl rfl⟩
  | some next =>
      refine ⟨next, ?_, Or.inr rfl⟩
      rintro ⟨here, stands, -⟩
      exact exclusive.not_owner stands owner

/-- Every run, from any state, can be brought to its end. -/
theorem exists_completion (lowers : Lowers program done weight)
    {threads : Finset Thread} (exclusive : Exclusive system)
    (idle : ∀ thread, thread ∉ threads → Done done system thread) :
    ∃ schedule : List Thread,
      ∀ thread, Done done (run program.step system schedule) thread := by
  induction total : ∑ thread ∈ threads, weight (system.point thread)
    using Nat.strong_induction_on generalizing system with
  | h total inductionHypothesis =>
      subst total
      by_cases ended : ∀ thread, Done done system thread
      · exact ⟨[], ended⟩
      · push Not at ended
        obtain ⟨thread, busy⟩ := ended
        obtain ⟨next, nextBusy, allowed⟩ := exists_allowed exclusive busy
        have member : next ∈ threads := by
          by_contra outside
          exact nextBusy (idle next outside)
        have stepped :
            program.StepCase system next (program.step system next) :=
          Program.step_cases
        have drops :
            ∑ thread ∈ threads,
                weight ((program.step system next).point thread) <
              ∑ thread ∈ threads, weight (system.point thread) := by
          apply Finset.sum_lt_sum
          · intro other _
            by_cases same : other = next
            · subst same
              exact (lowers.weight_step exclusive nextBusy allowed).le
            · rw [stepped.point_other same]
          · exact
              ⟨next, member,
                lowers.weight_step exclusive nextBusy allowed⟩
        have stillIdle :
            ∀ other, other ∉ threads →
              Done done (program.step system next) other :=
          fun other outside => lowers.done_step (idle other outside) stepped
        obtain ⟨schedule, complete⟩ :=
          inductionHypothesis _ drops (stepped.exclusive exclusive)
            stillIdle rfl
        exact ⟨next :: schedule, complete⟩

end Completion

end LanShield.Library.Monitor
