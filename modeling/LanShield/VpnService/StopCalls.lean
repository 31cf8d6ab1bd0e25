import LanShield.VpnService.VPNRunnable

/-!
# Calls of `stop`

What one step of `stop`, and one step of `run`, does to the helper threads.
-/

namespace LanShield.VpnService.PacketLoop

open LanShield.Library

variable {helper earlier later : HelperThread} {fields : Fields}
  {point : StopPoint}

/-- What has happened to a helper is not undone. -/
structure HelperThread.Follows (earlier later : HelperThread) : Prop where
  started : earlier.started = true → later.started = true
  shutdown : earlier.shutdown = true → later.shutdown = true
  interrupted : earlier.interrupted = true → later.interrupted = true

namespace HelperThread

theorem Follows.refl (helper : HelperThread) : Follows helper helper :=
  ⟨id, id, id⟩

theorem follows_start (helper : HelperThread) : Follows helper helper.start :=
  ⟨fun _ => rfl, id, id⟩

private theorem follows_tellShutdown (helper : HelperThread) :
    Follows helper helper.tellShutdown :=
  ⟨id, fun _ => rfl, id⟩

private theorem follows_interrupt (helper : HelperThread) :
    Follows helper helper.interrupt where
  started := id
  shutdown := id
  interrupted := fun interrupted => by
    simp [interrupt, interrupted]

theorem Follows.told (follows : Follows earlier later)
    (told : earlier.Told) : later.Told :=
  ⟨follows.shutdown told.1, follows.interrupted told.2⟩

private theorem told_interrupt (started : helper.started = true)
    (shutdown : helper.shutdown = true) : helper.interrupt.Told := by
  refine ⟨shutdown, ?_⟩
  simp [interrupt, started]

end HelperThread

namespace Fields

def HelpersStarted (fields : Fields) : Prop :=
  fields.dataService.started = true ∧ fields.packetWriter.started = true

def HelpersTold (fields : Fields) : Prop :=
  fields.dataService.Told ∧ fields.packetWriter.Told

structure Follows (earlier later : Fields) : Prop where
  dataService : earlier.dataService.Follows later.dataService
  packetWriter : earlier.packetWriter.Follows later.packetWriter

private theorem Follows.helpersStarted {earlier later : Fields}
    (follows : Follows earlier later) (started : earlier.HelpersStarted) :
    later.HelpersStarted :=
  ⟨follows.dataService.started started.1,
    follows.packetWriter.started started.2⟩

theorem Follows.helpersTold {earlier later : Fields}
    (follows : Follows earlier later) (told : earlier.HelpersTold) :
    later.HelpersTold :=
  ⟨follows.dataService.told told.1, follows.packetWriter.told told.2⟩

end Fields

/-- What a call of `stop` at `point` has found and done. -/
def StopPoint.Done (fields : Fields) : StopPoint → Prop
  | .test => True
  | .deactivate => fields.HelpersStarted
  | .shutdownDataService => fields.HelpersStarted
  | .interruptDataService =>
      fields.HelpersStarted ∧ fields.dataService.shutdown = true
  | .shutdownPacketWriter =>
      fields.HelpersStarted ∧ fields.dataService.Told
  | .interruptPacketWriter =>
      fields.HelpersStarted ∧ fields.dataService.Told ∧
        fields.packetWriter.shutdown = true

theorem StopPoint.Done.mono {earlier later : Fields}
    (follows : earlier.Follows later) (done : point.Done earlier) :
    point.Done later := by
  cases point with
  | test =>
      trivial
  | deactivate =>
      exact follows.helpersStarted done
  | shutdownDataService =>
      exact follows.helpersStarted done
  | interruptDataService =>
      obtain ⟨started, shutdown⟩ := done
      exact
        ⟨follows.helpersStarted started, follows.dataService.shutdown shutdown⟩
  | shutdownPacketWriter =>
      obtain ⟨started, told⟩ := done
      exact ⟨follows.helpersStarted started, follows.dataService.told told⟩
  | interruptPacketWriter =>
      obtain ⟨started, told, shutdown⟩ := done
      exact
        ⟨follows.helpersStarted started, follows.dataService.told told,
          follows.packetWriter.shutdown shutdown⟩

theorem stopStep_follows (fields : Fields) (point : StopPoint) :
    fields.Follows (stopStep fields point).1 := by
  cases point with
  | test =>
      rw [stopStep]
      split <;> exact ⟨.refl _, .refl _⟩
  | deactivate =>
      exact ⟨.refl _, .refl _⟩
  | shutdownDataService =>
      exact ⟨HelperThread.follows_tellShutdown _, .refl _⟩
  | interruptDataService =>
      exact ⟨HelperThread.follows_interrupt _, .refl _⟩
  | shutdownPacketWriter =>
      exact ⟨.refl _, HelperThread.follows_tellShutdown _⟩
  | interruptPacketWriter =>
      exact ⟨.refl _, HelperThread.follows_interrupt _⟩

/-- A call that goes on has found the flag set, and has done its part. -/
theorem stopStep_some {after : Fields} {next : StopPoint}
    (active : fields.threadMainLoopActive = true → fields.HelpersStarted)
    (done : point.Done fields)
    (taken : stopStep fields point = (after, some next)) :
    next ≠ .test ∧ next.Done after := by
  cases point with
  | test =>
      rw [stopStep] at taken
      split at taken
      · rename_i set
        cases taken
        exact ⟨by decide, active set⟩
      · cases taken
  | deactivate =>
      cases taken
      exact ⟨by decide, done⟩
  | shutdownDataService =>
      cases taken
      exact ⟨by decide, done, rfl⟩
  | interruptDataService =>
      obtain ⟨started, shutdown⟩ := done
      cases taken
      exact
        ⟨by decide, started, HelperThread.told_interrupt started.1 shutdown⟩
  | shutdownPacketWriter =>
      cases taken
      exact ⟨by decide, done.1, done.2, rfl⟩
  | interruptPacketWriter =>
      cases taken

/-- A call that returns has found the flag clear, or has told the helpers. -/
theorem stopStep_none {after : Fields} (done : point.Done fields)
    (taken : stopStep fields point = (after, none)) :
    point = .test ∧ fields.threadMainLoopActive = false ∧ after = fields ∨
      after.HelpersTold := by
  cases point with
  | test =>
      rw [stopStep] at taken
      split at taken
      · cases taken
      · rename_i clear
        cases taken
        exact Or.inl ⟨rfl, by simpa using clear, rfl⟩
  | deactivate =>
      cases taken
  | shutdownDataService =>
      cases taken
  | interruptDataService =>
      cases taken
  | shutdownPacketWriter =>
      cases taken
  | interruptPacketWriter =>
      obtain ⟨started, told, shutdown⟩ := done
      cases taken
      exact Or.inr ⟨told, HelperThread.told_interrupt started.2 shutdown⟩

/-- Before the helpers are started a call of `stop` has no effect. -/
private theorem stopStep_created (done : point.Done .created) :
    stopStep .created point = (.created, none) := by
  cases point with
  | test =>
      rfl
  | deactivate =>
      exact absurd done.1 (by decide)
  | shutdownDataService =>
      exact absurd done.1 (by decide)
  | interruptDataService =>
      exact absurd done.1.1 (by decide)
  | shutdownPacketWriter =>
      exact absurd done.1.1 (by decide)
  | interruptPacketWriter =>
      exact absurd done.1.1 (by decide)

private theorem stopStep_inactive
    (inactive : fields.threadMainLoopActive = false) (point : StopPoint) :
    (stopStep fields point).1.threadMainLoopActive = false := by
  cases point with
  | test =>
      rw [stopStep]
      split <;> exact inactive
  | deactivate =>
      rfl
  | shutdownDataService =>
      exact inactive
  | interruptDataService =>
      exact inactive
  | shutdownPacketWriter =>
      exact inactive
  | interruptPacketWriter =>
      exact inactive

/-- A call that goes on behind the test has found the flag set there, or
before. -/
theorem stopStep_next {after : Fields} {next : StopPoint}
    (taken : stopStep fields point = (after, some next)) :
    point ≠ .test ∨ true ∈ point.finds fields := by
  by_cases tests : point = .test
  · subst tests
    rw [stopStep] at taken
    split at taken
    · rename_i set
      exact Or.inr (List.mem_singleton.mpr set.symm)
    · cases taken
  · exact Or.inl tests

/-- Some helper has been told. -/
def Fields.ShutdownBegun (fields : Fields) : Prop :=
  fields.dataService.shutdown = true ∨ fields.packetWriter.shutdown = true

theorem stopStep_begun
    (begun : (stopStep fields point).1.ShutdownBegun) :
    fields.ShutdownBegun ∨ point ≠ .test := by
  by_cases tests : point = .test
  · subst tests
    rw [stopStep] at begun
    split at begun <;> exact Or.inl begun
  · exact Or.inr tests

/-- What `run` has done where it stands. -/
inductive RunPoint.Reached (fields : Fields) : RunPoint → Prop
  | start (created : fields = .created) : Reached fields .start
  | startDataService (inactive : fields.threadMainLoopActive = false) :
      Reached fields .startDataService
  | startPacketWriter (inactive : fields.threadMainLoopActive = false)
      (started : fields.dataService.started = true) :
      Reached fields .startPacketWriter
  | running {point : RunPoint} (started : fields.HelpersStarted)
      (left : point ≠ .start)
      (done : ∀ stop, point = .stopping stop → stop.Done fields) :
      Reached fields point

/-- `run` has found the flag set in a call of `stop` it is still in. -/
def RunPoint.Passed (point : RunPoint) : Prop :=
  ∃ stop, stop ≠ .test ∧ point = .stopping stop

namespace RunPoint

variable {run : RunPoint}

theorem Reached.active (reached : run.Reached fields)
    (active : fields.threadMainLoopActive = true) : fields.HelpersStarted := by
  cases reached with
  | start created =>
      subst created
      exact absurd active (by decide)
  | startDataService inactive =>
      simp [inactive] at active
  | startPacketWriter inactive =>
      simp [inactive] at active
  | running started =>
      exact started

/-- A step of `stop` on the service thread leaves to `run` what it has
done. -/
theorem Reached.stopStep (reached : run.Reached fields)
    (done : point.Done fields) : run.Reached (stopStep fields point).1 := by
  have follows := stopStep_follows fields point
  cases reached with
  | start created =>
      subst created
      rw [stopStep_created done]
      exact .start rfl
  | startDataService inactive =>
      exact .startDataService (stopStep_inactive inactive point)
  | startPacketWriter inactive started =>
      exact
        .startPacketWriter (stopStep_inactive inactive point)
          (follows.dataService.started started)
  | running started left done =>
      exact
        .running (follows.helpersStarted started) left
          fun stop stands => (done stop stands).mono follows

variable (backedByArray : Bool) (result : ReadResult)

theorem runStep_follows (fields : Fields) (run : RunPoint) :
    fields.Follows (runStep backedByArray result fields run).1 := by
  have unchanged : fields.Follows fields := ⟨.refl _, .refl _⟩
  cases run with
  | start =>
      rw [runStep]
      split <;> exact unchanged
  | startDataService =>
      exact ⟨HelperThread.follows_start _, .refl _⟩
  | startPacketWriter =>
      exact ⟨.refl _, HelperThread.follows_start _⟩
  | activate =>
      exact ⟨.refl _, .refl _⟩
  | takeArray =>
      rw [runStep]
      split <;> exact unchanged
  | notBackedByArray =>
      exact ⟨.refl _, .refl _⟩
  | whileTest =>
      rw [runStep]
      split <;> exact unchanged
  | read =>
      exact unchanged
  | closedUnexpectedly =>
      exact ⟨.refl _, .refl _⟩
  | stopping point =>
      have follows := stopStep_follows fields point
      rw [runStep]
      split
      all_goals
        rename_i taken
        rw [taken] at follows
        exact follows
  | returned =>
      exact unchanged

/-- `run` never comes back to its start, and calls `stop` only after a
read. -/
private theorem runStep_point (fields : Fields) {run : RunPoint}
    (outside : ∀ stop, run ≠ .stopping stop) :
    (runStep backedByArray result fields run).2 ≠ .start ∧
      ∀ stop,
        (runStep backedByArray result fields run).2 = .stopping stop →
          stop = .test := by
  cases run with
  | start =>
      rw [runStep]
      split <;> simp
  | takeArray =>
      rw [runStep]
      split <;> simp
  | whileTest =>
      rw [runStep]
      split <;> simp
  | read =>
      cases result with
      | returned packetLength =>
          simp only [runStep, afterRead]
          split
          · simp
          · split <;> simp
      | interruptedIOException =>
          simp [runStep, afterRead]
      | ioException =>
          simp [runStep, afterRead, eq_comm]
  | stopping stop =>
      exact absurd rfl (outside stop)
  | startDataService =>
      simp [runStep]
  | startPacketWriter =>
      simp [runStep]
  | activate =>
      simp [runStep]
  | notBackedByArray =>
      simp [runStep]
  | closedUnexpectedly =>
      simp [runStep]
  | returned =>
      simp [runStep]

/-- A step of `run` inside of `stop` goes on there or is back in the loop. -/
private theorem runStep_stopping (fields : Fields) (point : StopPoint) :
    (∃ after next,
        stopStep fields point = (after, some next) ∧
          runStep backedByArray result fields (.stopping point) =
            (after, .stopping next)) ∨
      ∃ after,
        stopStep fields point = (after, none) ∧
          runStep backedByArray result fields (.stopping point) =
            (after, .whileTest) := by
  rw [runStep]
  split
  · rename_i after next taken
    exact Or.inl ⟨after, next, taken, rfl⟩
  · rename_i after taken
    exact Or.inr ⟨after, taken, rfl⟩

theorem Reached.runStep (reached : run.Reached fields) :
    (runStep backedByArray result fields run).2.Reached
      (runStep backedByArray result fields run).1 := by
  have follows := runStep_follows backedByArray result fields run
  cases reached with
  | start created =>
      subst created
      exact .startDataService rfl
  | startDataService inactive =>
      exact .startPacketWriter inactive rfl
  | startPacketWriter inactive started =>
      exact .running ⟨started, rfl⟩ (by simp [PacketLoop.runStep]) (by simp [PacketLoop.runStep])
  | running started left done =>
      by_cases outside : ∀ stop, run ≠ .stopping stop
      · obtain ⟨leftStill, fresh⟩ :=
          runStep_point backedByArray result fields outside
        refine .running (follows.helpersStarted started) leftStill ?_
        intro stop stands
        rw [fresh stop stands]
        trivial
      · push Not at outside
        obtain ⟨stop, rfl⟩ := outside
        rcases runStep_stopping backedByArray result fields stop with
          ⟨after, next, taken, stepped⟩ | ⟨after, taken, stepped⟩
        · rw [stepped] at follows ⊢
          have goesOn :=
            stopStep_some (fun _ => started) (done stop rfl) taken
          refine .running (follows.helpersStarted started) (by simp) ?_
          intro stop stands
          cases stands
          exact goesOn.2
        · rw [stepped] at follows ⊢
          exact .running (follows.helpersStarted started) (by simp) (by simp)

/-- A call of `stop` by `run` that has found the flag set goes on until it has
told the helpers. -/
theorem Passed.runStep (reached : run.Reached fields) (passed : run.Passed) :
    (runStep backedByArray result fields run).2.Passed ∨
      (runStep backedByArray result fields run).1.HelpersTold := by
  obtain ⟨stop, untested, rfl⟩ := passed
  cases reached with
  | running started left done =>
      rcases runStep_stopping backedByArray result fields stop with
        ⟨after, next, taken, stepped⟩ | ⟨after, taken, stepped⟩
      · rw [stepped]
        have goesOn := stopStep_some (fun _ => started) (done stop rfl) taken
        exact Or.inl ⟨next, goesOn.1, rfl⟩
      · rw [stepped]
        rcases stopStep_none (done stop rfl) taken with
          ⟨tested, _⟩ | told
        · exact absurd tested untested
        · exact Or.inr told

/-- Where `run` finds the flag set in `stop`, it has passed the test. -/
theorem passed_of_finds {run : RunPoint}
    (found : true ∈ run.finds fields) :
    (runStep backedByArray result fields run).2.Passed := by
  cases run with
  | stopping point =>
      cases point with
      | test =>
          have set : fields.threadMainLoopActive = true :=
            (List.mem_singleton.mp found).symm
          refine ⟨.deactivate, by decide, ?_⟩
          simp [PacketLoop.runStep, PacketLoop.stopStep, set]
      | _ =>
          exact absurd found List.not_mem_nil
  | _ =>
      exact absurd found List.not_mem_nil

theorem runStep_passed
    (passed : (runStep backedByArray result fields run).2.Passed) :
    run.Passed ∨ true ∈ run.finds fields := by
  obtain ⟨stop, untested, stands⟩ := passed
  by_cases outside : ∀ stop, run ≠ .stopping stop
  · obtain ⟨_, fresh⟩ := runStep_point backedByArray result fields outside
    exact absurd (fresh stop stands) untested
  · push Not at outside
    obtain ⟨point, rfl⟩ := outside
    rcases runStep_stopping backedByArray result fields point with
      ⟨after, next, taken, stepped⟩ | ⟨after, taken, stepped⟩
    · rcases stopStep_next taken with tested | found
      · exact Or.inl ⟨point, tested, rfl⟩
      · exact Or.inr found
    · rw [stepped] at stands
      cases stands

theorem runStep_begun
    (begun : (runStep backedByArray result fields run).1.ShutdownBegun) :
    fields.ShutdownBegun ∨ run.Passed := by
  cases run with
  | start =>
      rw [runStep] at begun
      split at begun <;> exact Or.inl begun
  | takeArray =>
      rw [runStep] at begun
      split at begun <;> exact Or.inl begun
  | whileTest =>
      rw [runStep] at begun
      split at begun <;> exact Or.inl begun
  | stopping point =>
      have same :
          (runStep backedByArray result fields (.stopping point)).1 =
            (stopStep fields point).1 := by
        rcases runStep_stopping backedByArray result fields point with
          ⟨after, next, taken, stepped⟩ | ⟨after, taken, stepped⟩
        all_goals rw [taken, stepped]
      rw [same] at begun
      exact
        (stopStep_begun begun).imp_right
          fun tested => ⟨point, tested, rfl⟩
  | _ =>
      exact Or.inl begun

end RunPoint

end LanShield.VpnService.PacketLoop
