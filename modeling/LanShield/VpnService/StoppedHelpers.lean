import LanShield.VpnService.StopCalls

/-!
# The helper threads of a stopped packet loop

`stop` does nothing unless it finds the flag set.  It does its work if the
service calls it only while the flag is set or after a call that has found it
set; a call before `run` has set the flag, or after `run` itself has cleared
it, is lost.
-/

namespace LanShield.VpnService.PacketLoop

open LanShield.Library

variable {threads : Threads}

/-- The service thread is in a call of `stop` that has found the flag set. -/
def Threads.ServicePassed (threads : Threads) : Prop :=
  ∃ point, point ≠ StopPoint.test ∧ threads.service = some point

/-- Each thread has done what lies behind it.  A call of `stop` that finds the
flag set tells the helpers, and nothing else does. -/
structure Threads.Consistent (threads : Threads) : Prop where
  run : threads.run.Reached threads.fields
  service :
    ∀ point, threads.service = some point → point.Done threads.fields
  found :
    true ∈ threads.stopTests →
      threads.ServicePassed ∨ threads.run.Passed ∨
        threads.fields.HelpersTold
  servicePassed : threads.ServicePassed → true ∈ threads.stopTests
  runPassed : threads.run.Passed → true ∈ threads.stopTests
  begun : threads.fields.ShutdownBegun → true ∈ threads.stopTests

/-- No call of `stop` that has returned was lost. -/
def Threads.Heeded (threads : Threads) : Prop :=
  0 < threads.stopsReturned →
    threads.run.Passed ∨ threads.fields.HelpersTold

/-- The service thread does not test the flag while it is clear, unless a call
of `stop` has found it set before. -/
def StopFindsActive (threads : Threads) : Event → Prop
  | .runThread _ _ => True
  | .serviceThread =>
      threads.service = some .test →
        threads.fields.threadMainLoopActive = true ∨
          true ∈ threads.stopTests

instance StopFindsActive.decidable (threads : Threads) :
    ∀ event, Decidable (StopFindsActive threads event)
  | .runThread _ _ => isTrue trivial
  | .serviceThread => inferInstanceAs (Decidable (_ → _))

private theorem consistent_created : Threads.created.Consistent where
  run := .start rfl
  service := by
    simp [Threads.created]
  found := by
    simp [Threads.created]
  servicePassed := by
    simp [Threads.created, Threads.ServicePassed]
  runPassed := by
    simp [Threads.created, RunPoint.Passed]
  begun := by
    simp [Threads.created, Fields.created, HelperThread.created,
      Fields.ShutdownBegun]

section RunThread

variable (consistent : threads.Consistent) (backedByArray : Bool)
  (result : ReadResult)

include consistent

private theorem Threads.Consistent.toldAfterRun
    (before : threads.run.Passed ∨ threads.fields.HelpersTold) :
    (step threads (.runThread backedByArray result)).run.Passed ∨
      (step threads
        (.runThread backedByArray result)).fields.HelpersTold := by
  rcases before with passed | told
  · exact passed.runStep backedByArray result consistent.run
  · exact
      Or.inr
        ((RunPoint.runStep_follows backedByArray result _ _).helpersTold told)

theorem Threads.Consistent.runThread :
    (step threads (.runThread backedByArray result)).Consistent where
  run := consistent.run.runStep backedByArray result
  service := fun point stands =>
    (consistent.service point stands).mono
      (RunPoint.runStep_follows backedByArray result threads.fields
        threads.run)
  found := by
    intro found
    rcases List.mem_append.mp found with now | earlier
    · exact
        Or.inr (Or.inl (RunPoint.passed_of_finds backedByArray result now))
    · rcases consistent.found earlier with service | before
      · exact Or.inl service
      · exact Or.inr (consistent.toldAfterRun backedByArray result before)
  servicePassed := fun passed =>
    List.mem_append_right _ (consistent.servicePassed passed)
  runPassed := by
    intro passed
    rcases RunPoint.runStep_passed backedByArray result passed with
      before | found
    · exact List.mem_append_right _ (consistent.runPassed before)
    · exact List.mem_append_left _ found
  begun := by
    intro begun
    rcases RunPoint.runStep_begun backedByArray result begun with
      before | passed
    · exact List.mem_append_right _ (consistent.begun before)
    · exact List.mem_append_right _ (consistent.runPassed passed)

end RunThread

/-- The service thread calls `stop`, goes on in it, or returns from it. -/
private theorem serviceStep_cases (threads : Threads) :
    threads.service = none ∧
        step threads .serviceThread =
          { threads with service := some .test } ∨
      ∃ point after, threads.service = some point ∧
        ((∃ next,
            stopStep threads.fields point = (after, some next) ∧
              step threads .serviceThread =
                { threads with
                  fields := after
                  service := some next
                  stopTests :=
                    point.finds threads.fields ++ threads.stopTests }) ∨
          stopStep threads.fields point = (after, none) ∧
            step threads .serviceThread =
              { threads with
                fields := after
                service := none
                stopsReturned := threads.stopsReturned + 1
                stopTests :=
                  point.finds threads.fields ++ threads.stopTests }) := by
  rw [step, serviceStep]
  split
  · rename_i outside
    exact Or.inl ⟨outside, rfl⟩
  · rename_i point inside
    refine Or.inr ⟨point, ?_⟩
    split
    · rename_i after next taken
      exact ⟨after, inside, Or.inl ⟨next, taken, rfl⟩⟩
    · rename_i after taken
      exact ⟨after, inside, Or.inr ⟨taken, rfl⟩⟩

theorem Threads.Consistent.serviceThread (consistent : threads.Consistent) :
    (step threads .serviceThread).Consistent := by
  rcases serviceStep_cases threads with
    ⟨outside, stepped⟩ | ⟨point, after, inside, taken⟩
  · rw [stepped]
    refine
      ⟨consistent.run, ?_, ?_, ?_, consistent.runPassed, consistent.begun⟩
    · intro point stands
      cases stands
      trivial
    · intro found
      rcases consistent.found found with ⟨point, _, inside⟩ | before
      · exact absurd (outside.symm.trans inside) (by simp)
      · exact Or.inr before
    · rintro ⟨point, tested, stands⟩
      cases stands
      exact absurd rfl tested
  · have done := consistent.service point inside
    have follows := stopStep_follows threads.fields point
    have reached := consistent.run.stopStep done
    have tested (tested : point ≠ .test) : true ∈ threads.stopTests :=
      consistent.servicePassed ⟨point, tested, inside⟩
    have begunBefore (begun : (stopStep threads.fields point).1.ShutdownBegun) :
        true ∈ point.finds threads.fields ++ threads.stopTests := by
      rcases stopStep_begun begun with before | passed
      · exact List.mem_append_right _ (consistent.begun before)
      · exact List.mem_append_right _ (tested passed)
    have runPassed (passed : threads.run.Passed) :
        true ∈ point.finds threads.fields ++ threads.stopTests :=
      List.mem_append_right _ (consistent.runPassed passed)
    rcases taken with ⟨next, taken, stepped⟩ | ⟨taken, stepped⟩
    · rw [taken] at follows reached begunBefore
      rw [stepped]
      obtain ⟨passed, nextDone⟩ :=
        stopStep_some consistent.run.active done taken
      refine
        ⟨reached, ?_, fun _ => Or.inl ⟨next, passed, rfl⟩, fun _ => ?_,
          runPassed, begunBefore⟩
      · intro later stands
        cases stands
        exact nextDone
      · rcases stopStep_next taken with before | found
        · exact List.mem_append_right _ (tested before)
        · exact List.mem_append_left _ found
    · rw [taken] at follows reached begunBefore
      rw [stepped]
      refine
        ⟨reached, (fun later stands => by cases stands), fun found => ?_, ?_,
          runPassed, begunBefore⟩
      · rcases stopStep_none done taken with ⟨rfl, clear, rfl⟩ | told
        · rcases List.mem_append.mp found with now | earlier
          · exact absurd (List.mem_singleton.mp now) (by simp [clear])
          · rcases consistent.found earlier with
              ⟨other, passed, stands⟩ | before
            · cases inside.symm.trans stands
              exact absurd rfl passed
            · exact Or.inr before
        · exact Or.inr (Or.inr told)
      · rintro ⟨later, _, stands⟩
        cases stands

private theorem consistent_after (events : List Event) :
    (after events).Consistent := by
  refine run_invariant ?_ events consistent_created
  intro threads event consistent
  cases event with
  | runThread backedByArray result =>
      exact consistent.runThread backedByArray result
  | serviceThread =>
      exact consistent.serviceThread

/-- Once `run` has returned and no call of `stop` is under way, the helpers
have been told exactly when some call has found the flag set. -/
theorem helpersTold_iff_found {events : List Event}
    (returned : (after events).run = .returned)
    (outside : (after events).service = none) :
    (after events).fields.HelpersTold ↔ true ∈ (after events).stopTests := by
  have consistent := consistent_after events
  constructor
  · intro told
    exact consistent.begun (Or.inl told.1.1)
  · intro found
    rcases consistent.found found with
      ⟨point, _, inside⟩ | ⟨stop, _, stopping⟩ | told
    · exact absurd (outside.symm.trans inside) (by simp)
    · exact absurd (returned.symm.trans stopping) (by simp)
    · exact told

theorem Threads.Heeded.serviceThread (heeded : threads.Heeded)
    (consistent : threads.Consistent)
    (active : StopFindsActive threads .serviceThread) :
    (step threads .serviceThread).Heeded := by
  rcases serviceStep_cases threads with
    ⟨outside, stepped⟩ | ⟨point, after, inside, goesOn | returns⟩
  · rw [stepped]
    exact heeded
  · obtain ⟨next, taken, stepped⟩ := goesOn
    have follows := stopStep_follows threads.fields point
    rw [taken] at follows
    rw [stepped]
    intro returned
    exact (heeded returned).imp_right follows.helpersTold
  · obtain ⟨taken, stepped⟩ := returns
    rw [stepped]
    intro _
    rcases stopStep_none (consistent.service point inside) taken with
      ⟨rfl, clear, rfl⟩ | told
    · rcases active inside with set | found
      · simp [clear] at set
      · rcases consistent.found found with ⟨other, passed, stands⟩ | before
        · cases inside.symm.trans stands
          exact absurd rfl passed
        · exact before
    · exact Or.inr told

private theorem heeded_after (events : List Event)
    (meets : StepsMeet step StopFindsActive .created events) :
    (after events).Heeded := by
  have initially : Threads.created.Consistent ∧ Threads.created.Heeded := by
    refine ⟨consistent_created, ?_⟩
    simp [Threads.Heeded, Threads.created]
  have both :=
    @run_guarded_invariant _ _ step StopFindsActive
      (fun threads => threads.Consistent ∧ threads.Heeded)
      (by
        rintro threads event active ⟨consistent, heeded⟩
        cases event with
        | runThread backedByArray result =>
            exact
              ⟨consistent.runThread backedByArray result,
                fun returned =>
                  consistent.toldAfterRun backedByArray result
                    (heeded returned)⟩
        | serviceThread =>
            exact
              ⟨consistent.serviceThread,
                heeded.serviceThread consistent active⟩)
      events .created initially meets
  exact both.2

/-- Once a call of `stop` and `run` have returned, the helpers that were
started have been told to shut down; and `run` does not enter the loop if a
call has returned before its start. -/
def StopHeeded (events : List Event) : Prop :=
  (0 < (after events).stopsReturned → (after events).run = .returned →
    ((after events).fields.dataService.started = true →
      (after events).fields.dataService.shutdown = true) ∧
    ((after events).fields.packetWriter.started = true →
      (after events).fields.packetWriter.shutdown = true)) ∧
  ∀ earlier, earlier <+: events → (after earlier).run = .start →
    0 < (after earlier).stopsReturned → (after events).run ≠ .read

/-- A call that has returned before the start of `run` was lost. -/
private theorem not_heeded_before_start {events : List Event}
    (start : (after events).run = .start) :
    ¬ ((after events).run.Passed ∨ (after events).fields.HelpersTold) := by
  rintro (⟨stop, _, stopping⟩ | told)
  · rw [start] at stopping
    cases stopping
  · have reached := (consistent_after events).run
    rw [start] at reached
    cases reached with
    | start created =>
        rw [created] at told
        exact absurd told.1.1 (by decide)
    | running _ left _ =>
        exact left rfl

private theorem stopHeeded_of_stopFindsActive {events : List Event}
    (meets : StepsMeet step StopFindsActive .created events) :
    StopHeeded events := by
  constructor
  · intro stopped returned
    rcases heeded_after events meets stopped with ⟨stop, _, stopping⟩ | told
    · rw [returned] at stopping
      cases stopping
    · exact ⟨fun _ => told.1.1, fun _ => told.2.1⟩
  · intro earlier isEarlier start stopped
    have heeded :=
      heeded_after earlier (meets.of_isPrefix isEarlier) stopped
    exact absurd heeded (not_heeded_before_start start)

/-- `run` goes on alone, with these results of its reads. -/
def runSteps (results : List ReadResult) : List Event :=
  results.map (Event.runThread true)

private theorem stepsMeet_runSteps (results : List ReadResult)
    (threads : Threads) :
    StepsMeet step StopFindsActive threads (runSteps results) := by
  induction results generalizing threads with
  | nil =>
      trivial
  | cons result later inductionHypothesis =>
      exact ⟨trivial, inductionHypothesis _⟩

private theorem after_append (earlier later : List Event) :
    after (earlier ++ later) = run step (after earlier) later := by
  rw [after, after, run, run, run, List.foldl_append]

/-- The reads of a TUN descriptor that is at its end; the step of `run` that
reads takes one of them. -/
def endOfTun : List ReadResult :=
  List.replicate 9 (.returned (-1))

/-- Where the flag is clear and no call has found it set, `run` returns
without one when it finds the TUN descriptor at its end. -/
private theorem run_endOfTun (consistent : threads.Consistent)
    (clear : threads.fields.threadMainLoopActive = false)
    (unfound : true ∉ threads.stopTests) :
    (run step threads (runSteps endOfTun)).run = .returned ∧
      true ∉ (run step threads (runSteps endOfTun)).stopTests ∧
      (run step threads (runSteps endOfTun)).stopsReturned =
        threads.stopsReturned := by
  have unpassed : ¬ threads.run.Passed :=
    fun passed => unfound (consistent.runPassed passed)
  obtain ⟨fields, point, service, stopsReturned, stopTests⟩ := threads
  simp only at clear unfound unpassed
  cases point with
  | stopping stop =>
      by_cases tests : stop = .test
      · subst tests
        simp [endOfTun, runSteps, List.replicate, step, runStep, stopStep,
          clear, RunPoint.finds, StopPoint.finds, unfound]
      · exact absurd ⟨stop, tests, rfl⟩ unpassed
  | _ =>
      simp [endOfTun, runSteps, List.replicate, step, runStep, afterRead,
        clear, RunPoint.finds, unfound, Fields.setMainLoopActive]

private theorem started_of_returned {events : List Event}
    (returned : (after events).run = .returned) :
    (after events).fields.HelpersStarted := by
  have reached := (consistent_after events).run
  rw [returned] at reached
  cases reached with
  | running started _ _ =>
      exact started

/-- A call of `stop` that finds the flag clear, and no earlier one found it
set, leaves the helpers running when `run` returns. -/
private theorem lost_stop {visited : List Event} {event : Event}
    (lost : ¬ StopFindsActive (after visited) event) :
    ¬ StopHeeded (visited ++ [event] ++ runSteps endOfTun) := by
  intro heeded
  cases event with
  | runThread backedByArray result =>
      exact lost trivial
  | serviceThread =>
      obtain ⟨stands, clearUnfound⟩ := Classical.not_imp.mp lost
      obtain ⟨active, unfound⟩ := not_or.mp clearUnfound
      have clear : (after visited).fields.threadMainLoopActive = false := by
        simpa using active
      have stepped :
          after (visited ++ [.serviceThread]) =
            { after visited with
              service := none
              stopsReturned := (after visited).stopsReturned + 1
              stopTests := false :: (after visited).stopTests } := by
        rw [after_append]
        simp [step, serviceStep, stands, stopStep, clear, StopPoint.finds]
      have consistent := consistent_after (visited ++ [.serviceThread])
      have ended :=
        run_endOfTun consistent (by rw [stepped]; exact clear)
          (by rw [stepped]; simpa using unfound)
      rw [← after_append] at ended
      obtain ⟨returned, unfoundStill, stops⟩ := ended
      have stopped :
          0 < (after
            (visited ++ [.serviceThread] ++
              runSteps endOfTun)).stopsReturned := by
        rw [stops, stepped]
        exact Nat.succ_pos _
      have started := started_of_returned returned
      have told := (heeded.1 stopped returned).1 started.1
      exact unfoundStill ((consistent_after _).begun (Or.inl told))

/-- However `run` goes on from each state of a run, a stop is heeded, exactly
when the service calls `stop` only while the flag is set or after a call that
has found it set. -/
theorem stopHeeded_iff_stopFindsActive (events : List Event) :
    (∀ visited, visited <+: events →
        ∀ results, StopHeeded (visited ++ runSteps results)) ↔
      StepsMeet step StopFindsActive .created events := by
  refine
    @forall_prefix_iff_stepsMeet _ _ step StopFindsActive
      (fun _ _ => True)
      (fun handled threads =>
        threads = after handled ∧
          StepsMeet step StopFindsActive Threads.created handled)
      (fun handled _ =>
        ∀ results, StopHeeded (handled ++ runSteps results))
      ?_ ?_ events [] .created (Along.of_forall (fun _ _ => trivial) _ _)
      ⟨rfl, trivial⟩ ?_
  · rintro handled threads event - ⟨rfl, meets⟩ -
    constructor
    · intro heeded
      by_contra lost
      exact lost_stop lost (heeded endOfTun)
    · intro active results
      refine stopHeeded_of_stopFindsActive ?_
      rw [stepsMeet_append, stepsMeet_append]
      exact ⟨⟨meets, active, trivial⟩, stepsMeet_runSteps results _⟩
  · rintro handled threads event - ⟨rfl, meets⟩ active
    exact
      ⟨(run_concat step Threads.created handled event).symm,
        (stepsMeet_append handled [event] Threads.created).mpr
          ⟨meets, active, trivial⟩⟩
  · intro results
    exact stopHeeded_of_stopFindsActive (stepsMeet_runSteps results _)

/-- One call of `stop` while a packet is read; the next test ends the loop. -/
example :
    StepsMeet step StopFindsActive .created
      (runSteps (List.replicate 6 (.returned 40)) ++
        List.replicate 7 .serviceThread ++
        runSteps (List.replicate 2 (.returned 40))) := by
  decide

/-- The TUN descriptor is at its end, and `stop` is called after `run` has
returned. -/
def closedUnexpectedly : List Event :=
  runSteps endOfTun ++ List.replicate 2 .serviceThread

/-- `stop` is called before `run` is scheduled. -/
def stoppedBeforeStart : List Event :=
  List.replicate 2 .serviceThread ++
    runSteps (List.replicate 6 (.returned 40))

theorem lost_stops :
    ¬ StopHeeded closedUnexpectedly ∧ ¬ StopHeeded stoppedBeforeStart := by
  constructor
  · intro heeded
    have told := (heeded.1 (by decide) (by decide)).1 (by decide)
    exact absurd told (by decide)
  · intro heeded
    exact
      heeded.2 (List.replicate 2 .serviceThread)
        (List.prefix_append _ _) (by decide) (by decide) (by decide)

end LanShield.VpnService.PacketLoop
