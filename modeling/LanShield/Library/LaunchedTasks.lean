import LanShield.Library.Runs
import Mathlib.Data.List.Perm.Basic

/-!
# Tasks launched to run at any time

A launched task waits until the scheduler completes it, which changes a shared
state at once.  Waiting tasks complete in any order.
-/

namespace LanShield.Library

/-- The tasks that wait are in the order they were launched in, those that
have finished in the order they were completed in. -/
structure Launching (State Task : Type) where
  shared : State
  waiting : List Task
  finished : List Task

inductive LaunchEvent (Task : Type) where
  | launch (task : Task)
  /-- The scheduler completes the waiting task at the index. -/
  | complete (index : Nat)
  deriving DecidableEq, Repr

namespace Launching

variable {State Task Value : Type} {perform : Task → State → State}
  {tasks order : List Task} {events : List (LaunchEvent Task)}
  {shared : State}

def start (shared : State) : Launching State Task :=
  ⟨shared, [], []⟩

def step (perform : Task → State → State) (state : Launching State Task) :
    LaunchEvent Task → Launching State Task
  | .launch task => { state with waiting := state.waiting ++ [task] }
  | .complete index =>
      match state.waiting[index]? with
      | some task =>
          { shared := perform task state.shared
            waiting := state.waiting.eraseIdx index
            finished := state.finished ++ [task] }
      | none => state

/-- The tasks launched, in order. -/
def launched (events : List (LaunchEvent Task)) : List Task :=
  events.filterMap fun
    | .launch task => some task
    | .complete _ => none

/-- A launched task waits or has finished, and the shared state is that of the
finished tasks. -/
structure Accounts (perform : Task → State → State) (shared : State)
    (events : List (LaunchEvent Task)) (state : Launching State Task) :
    Prop where
  tasks : (state.finished ++ state.waiting).Perm (launched events)
  shared :
    state.shared =
      state.finished.foldl (fun shared task => perform task shared) shared

private theorem launched_append_singleton (events : List (LaunchEvent Task))
    (event : LaunchEvent Task) :
    launched (events ++ [event]) = launched events ++ launched [event] :=
  List.filterMap_append

theorem Accounts.step {state : Launching State Task}
    (accounts : Accounts perform shared events state)
    (event : LaunchEvent Task) :
    Accounts perform shared (events ++ [event])
      (step perform state event) := by
  have tasks := accounts.tasks
  cases event with
  | launch task =>
      refine ⟨?_, accounts.shared⟩
      rw [launched_append_singleton, Launching.step, ← List.append_assoc]
      exact tasks.append_right _
  | complete index =>
      rw [Launching.step]
      split
      case h_1 task found =>
        obtain ⟨bound, rfl⟩ := List.getElem?_eq_some_iff.mp found
        refine ⟨?_, ?_⟩
        · rw [launched_append_singleton, List.append_assoc]
          have moved := List.getElem_cons_eraseIdx_perm bound
          simpa [launched] using (moved.append_left _).trans tasks
        · rw [List.foldl_append, ← accounts.shared]
          rfl
      case h_2 absent =>
        refine ⟨?_, accounts.shared⟩
        simpa [launched] using tasks

theorem accounts_run (perform : Task → State → State) (shared : State)
    (events : List (LaunchEvent Task)) :
    Accounts perform shared events
      (run (step perform) (start shared) events) := by
  refine
    @run_history_invariant _ _ (step perform) (fun _ _ => True)
      (Accounts perform shared) ?_ events [] _ ⟨List.Perm.refl _, rfl⟩
      (StepsMeet.of_forall (fun _ _ => trivial) events _)
  intro handled state event _ accounts
  exact accounts.step event

private theorem run_launch (perform : Task → State → State)
    (tasks : List Task) :
    ∀ state : Launching State Task,
      run (step perform) state (tasks.map .launch) =
        { state with waiting := state.waiting ++ tasks } := by
  induction tasks with
  | nil => simp
  | cons task rest inductionHypothesis =>
      intro state
      rw [List.map_cons, run_cons, inductionHypothesis]
      simp [step]

private theorem launched_map_launch (tasks : List Task) :
    launched (tasks.map .launch) = tasks := by
  rw [launched, List.filterMap_map]
  exact List.filterMap_some

/-- Tasks that wait can be completed in any order. -/
private theorem exists_completions (perform : Task → State → State) :
    ∀ {order : List Task} {state : Launching State Task},
      state.waiting.Perm order →
        ∃ events,
          launched events = [] ∧
            (run (step perform) state events).waiting = [] ∧
              (run (step perform) state events).finished =
                state.finished ++ order := by
  intro order
  induction order with
  | nil =>
      intro state same
      refine ⟨[], rfl, same.eq_nil, ?_⟩
      rw [run_nil, List.append_nil]
  | cons task rest inductionHypothesis =>
      intro state same
      obtain ⟨index, bound, here⟩ :=
        List.getElem_of_mem (same.symm.subset List.mem_cons_self)
      have left : (state.waiting.eraseIdx index).Perm rest := by
        have moved := List.getElem_cons_eraseIdx_perm bound
        rw [here] at moved
        exact (moved.trans same).cons_inv
      have found : state.waiting[index]? = some task := by
        rw [List.getElem?_eq_getElem bound, here]
      have completed :
          step perform state (.complete index) =
            { shared := perform task state.shared
              waiting := state.waiting.eraseIdx index
              finished := state.finished ++ [task] } := by
        simp only [step, found]
      obtain ⟨events, none, waiting, finished⟩ :=
        @inductionHypothesis (step perform state (.complete index))
          (by rw [completed]; exact left)
      refine ⟨.complete index :: events, none, waiting, ?_⟩
      rw [run_cons, finished, completed, List.append_assoc]
      rfl

private theorem exists_run (perform : Task → State → State) (shared : State)
    (same : tasks.Perm order) :
    ∃ events,
      launched events = tasks ∧
        (run (step perform) (start shared) events).waiting = [] ∧
          (run (step perform) (start shared) events).finished = order := by
  obtain ⟨events, none, waiting, finished⟩ :=
    @exists_completions _ _ perform order ⟨shared, tasks, []⟩ same
  have begun :
      run (step perform) (start shared) (tasks.map .launch) =
        ⟨shared, tasks, []⟩ :=
    run_launch perform tasks (start shared)
  refine ⟨tasks.map .launch ++ events, ?_, ?_, ?_⟩
  · rw [launched, List.filterMap_append]
    change launched _ ++ launched events = tasks
    rw [launched_map_launch, none, List.append_nil]
  · rw [run_append, begun, waiting]
  · rw [run_append, begun, finished]
    rfl

section Overwriting

variable {observe : State → Value} {target : Task → Value} {last : Task}

/-- The last task that finished is the one whose value is left. -/
private theorem observe_run
    (overwrites :
      ∀ task shared, observe (perform task shared) = target task)
    (ended :
      (run (step perform) (start shared) events).finished.getLast? =
        some last) :
    observe (run (step perform) (start shared) events).shared =
      target last := by
  rw [(accounts_run perform shared events).shared]
  obtain ⟨earlier, split⟩ := List.getLast?_eq_some_iff.mp ended
  rw [split, List.foldl_append, List.foldl_cons, List.foldl_nil, overwrites]

/-- All tasks have finished, in some order. -/
private theorem finished_perm
    (complete : (run (step perform) (start shared) events).waiting = []) :
    (run (step perform) (start shared) events).finished.Perm
      (launched events) := by
  have tasks := (accounts_run perform shared events).tasks
  rwa [complete, List.append_nil] at tasks

private theorem finished_ne_nil
    (complete : (run (step perform) (start shared) events).waiting = [])
    (requested : (launched events).getLast? = some last) :
    (run (step perform) (start shared) events).finished ≠ [] :=
  List.ne_nil_of_mem
    ((finished_perm complete).symm.subset (List.mem_of_getLast? requested))

/-- Whether the task launched last wins depends on the one that finishes
last. -/
theorem observe_eq_last_iff
    (overwrites :
      ∀ task shared, observe (perform task shared) = target task)
    (complete : (run (step perform) (start shared) events).waiting = [])
    (requested : (launched events).getLast? = some last) :
    observe (run (step perform) (start shared) events).shared =
        target last ↔
      ∃ task ∈
          (run (step perform) (start shared) events).finished.getLast?,
        target task = target last := by
  have nonempty := finished_ne_nil complete requested
  rw [List.getLast?_eq_some_getLast nonempty]
  have value :=
    observe_run overwrites (List.getLast?_eq_some_getLast nonempty)
  rw [value]
  simp

/-- The task launched last wins in every order exactly if all tasks agree with
it. -/
theorem forall_observe_eq_last_iff
    (overwrites :
      ∀ task shared, observe (perform task shared) = target task)
    (shared : State) (requested : tasks.getLast? = some last) :
    (∀ events, launched events = tasks →
        (run (step perform) (start shared) events).waiting = [] →
          observe (run (step perform) (start shared) events).shared =
            target last) ↔
      ∀ task ∈ tasks, target task = target last := by
  constructor
  · intro wins task inside
    obtain ⟨earlier, later, rfl⟩ := List.append_of_mem inside
    have same :
        (earlier ++ task :: later).Perm (earlier ++ later ++ [task]) := by
      rw [List.append_assoc]
      exact (List.perm_append_singleton task later).symm.append_left earlier
    obtain ⟨events, issued, complete, finished⟩ :=
      exists_run perform shared same
    rw [← wins events issued complete]
    symm
    apply observe_run overwrites
    rw [finished, List.getLast?_concat]
  · rintro agree events rfl complete
    have nonempty := finished_ne_nil complete requested
    rw [observe_eq_last_iff overwrites complete requested]
    refine ⟨_, List.getLast_mem_getLast? nonempty, agree _ ?_⟩
    exact (finished_perm complete).subset (List.getLast_mem nonempty)

/-- A task is launched when all that wait agree with it. -/
def LaunchAgrees (target : Task → Value) (state : Launching State Task) :
    LaunchEvent Task → Prop
  | .launch task => ∀ other ∈ state.waiting, target other = target task
  | .complete _ => True

/-- The tasks that wait agree with the one launched last, and so does the
shared state when none waits. -/
def LastDecides (observe : State → Value) (target : Task → Value)
    (events : List (LaunchEvent Task)) (state : Launching State Task) :
    Prop :=
  ∀ last, (launched events).getLast? = some last →
    (∀ task ∈ state.waiting, target task = target last) ∧
      (state.waiting = [] → observe state.shared = target last)

theorem LastDecides.step
    (overwrites :
      ∀ task shared, observe (perform task shared) = target task)
    {state : Launching State Task} {event : LaunchEvent Task}
    (agrees : LaunchAgrees target state event)
    (decides : LastDecides observe target events state) :
    LastDecides observe target (events ++ [event])
      (step perform state event) := by
  intro last requested
  rw [launched_append_singleton] at requested
  cases event with
  | launch task =>
      change (launched events ++ [task]).getLast? = some last at requested
      rw [List.getLast?_concat, Option.some.injEq] at requested
      subst requested
      refine ⟨?_, ?_⟩
      · intro other inside
        rcases List.mem_append.mp inside with old | added
        · exact agrees other old
        · rw [List.mem_singleton.mp added]
      · intro empty
        exact absurd empty (List.append_ne_nil_of_right_ne_nil _ (by simp))
  | complete index =>
      change (launched events ++ []).getLast? = some last at requested
      rw [List.append_nil] at requested
      obtain ⟨agree, settled⟩ := decides last requested
      rw [Launching.step]
      split
      case h_1 task found =>
        refine ⟨?_, ?_⟩
        · intro other inside
          exact agree other (List.mem_of_mem_eraseIdx inside)
        · intro _
          rw [overwrites, agree task (List.mem_of_getElem? found)]
      case h_2 absent => exact ⟨agree, settled⟩

/-- If every task is launched when those that wait agree with it, the task
launched last wins. -/
theorem observe_eq_last_of_agrees
    (overwrites :
      ∀ task shared, observe (perform task shared) = target task)
    (agrees :
      StepsMeet (step perform) (LaunchAgrees target) (start shared) events)
    (complete : (run (step perform) (start shared) events).waiting = [])
    (requested : (launched events).getLast? = some last) :
    observe (run (step perform) (start shared) events).shared =
      target last := by
  have decides :=
    @run_history_invariant _ _ (step perform) (LaunchAgrees target)
      (LastDecides observe target)
      (fun _ _ _ agrees decides => decides.step overwrites agrees) events []
      (start shared) (fun _ none => by cases none) agrees
  exact (decides last requested).2 complete

end Overwriting

end Launching

end LanShield.Library
