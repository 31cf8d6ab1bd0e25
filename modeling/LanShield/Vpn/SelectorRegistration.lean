import LanShield.Vpn.SelectorLocks

/-!
# Registering a session with the selector

The packet-handling thread registers a channel only while it holds
`nioSelectionLock`, and whenever it waits for a lock one of the two threads
can go on: the NIO thread never wants the monitor of a session that is not
registered, and a wakeup sent under `nioHandlingLock` is still pending if the
NIO thread comes to `select`.
-/

namespace LanShield.Vpn

open LanShield.Library ReentrantLock

section Points

variable {Session : Type}

/-- The locks the NIO thread holds, the latest first. -/
def NioPoint.locks : NioPoint Session → List (SelectorLock Session)
  | .lockSelection => []
  | .select => [.nioSelectionLock]
  | .selecting => [.nioSelectionLock]
  | .unlockSelection _ => [.nioSelectionLock]
  | .lockHandling _ => []
  | .nextKey _ => [.nioHandlingLock]
  | .processSelectionKey session _ => [.monitor session, .nioHandlingLock]

/-- The sessions of selected keys. -/
def NioPoint.keys : NioPoint Session → List Session
  | .unlockSelection keys => keys
  | .lockHandling keys => keys
  | .nextKey keys => keys
  | .processSelectionKey _ rest => rest
  | _ => []

/-- `select` ends before the NIO thread takes `nioHandlingLock`. -/
def NioPoint.BeforeSelected : NioPoint Session → Prop
  | .lockSelection => True
  | .select => True
  | .selecting => True
  | _ => False

/-- The locks the packet-handling thread holds, the latest first. -/
def PacketPoint.locks : PacketPoint Session → List (SelectorLock Session)
  | .idle => []
  | .enterNew _ => []
  | .populate session => [.monitor session]
  | .lockSelector session => [.monitor session]
  | .lockHandling session => [.monitor session]
  | .wakeup session => [.nioHandlingLock, .monitor session]
  | .lockSelection session => [.nioHandlingLock, .monitor session]
  | .unlockHandling session =>
      [.nioSelectionLock, .nioHandlingLock, .monitor session]
  | .register session => [.nioSelectionLock, .monitor session]
  | .unlockSelector session _ => [.nioSelectionLock, .monitor session]
  | .enter _ => []
  | .inMonitor session => [.monitor session]
  | .refreshSelect session => [.monitor session]
  | .refreshWakeup session => [.monitor session]
  | .refreshUnlock session => [.nioSelectionLock, .monitor session]
  | .leave session => [.monitor session]

/-- The session that is going to be registered. -/
def PacketPoint.newSession : PacketPoint Session → Option Session
  | .enterNew session => some session
  | .populate session => some session
  | .lockSelector session => some session
  | .lockHandling session => some session
  | .wakeup session => some session
  | .lockSelection session => some session
  | .unlockHandling session => some session
  | .register session => some session
  | _ => none

/-- The thread has sent its wakeup and waits for `nioSelectionLock`. -/
def PacketPoint.AfterWakeup : PacketPoint Session → Prop
  | .lockSelection _ => True
  | _ => False

private theorem PacketPoint.AfterWakeup.eq_lockSelection
    {point : PacketPoint Session} (waits : point.AfterWakeup) :
    ∃ session, point = .lockSelection session := by
  cases point with
  | lockSelection session => exact ⟨session, rfl⟩
  | _ => exact waits.elim

/-- The thread is at a call that waits for a lock. -/
def PacketPoint.Waits : PacketPoint Session → Prop
  | .enterNew _ => True
  | .lockHandling _ => True
  | .lockSelection _ => True
  | .enter _ => True
  | _ => False

end Points

namespace SelectorState

variable {Session : Type}

/-- The locks whose sections a thread stands in. -/
def sections (state : SelectorState Session) :
    LockThread → List (SelectorLock Session)
  | .nio => state.nio.locks
  | .packet => state.packet.locks

/-- The locks are held by the threads in their sections, only registered
sessions are selected, the session to register is not registered yet, and the
wakeup reaches the NIO thread's `select`. -/
structure Orderly (state : SelectorState Session) : Prop where
  held : HeldExactly state.sections state.locks
  keys : ∀ session ∈ state.nio.keys, session ∈ state.registered
  fresh :
    ∀ session,
      state.packet.newSession = some session →
        session ∉ state.registered
  awake :
    state.packet.AfterWakeup → state.nio.BeforeSelected →
      state.woken = true

variable [DecidableEq Session]

section Locks

variable {state locked : SelectorState Session} {thread : LockThread}
  {lock : SelectorLock Session}

private theorem lock_eq_some (locks : state.lock thread lock = some locked) :
    ∃ taken,
      (state.locks lock).tryLock thread = some taken ∧
        locked =
          { state with locks := Function.update state.locks lock taken } := by
  rw [SelectorState.lock] at locks
  obtain ⟨taken, takes, same⟩ := Option.map_eq_some_iff.mp locks
  exact ⟨taken, takes, same.symm⟩

section Nio

variable {point : NioPoint Session}

omit [DecidableEq Session] in
private theorem Orderly.nioMoved (orderly : state.Orderly)
    (same : point.locks = state.nio.locks)
    (keys : ∀ session ∈ point.keys, session ∈ state.registered)
    (awake :
      state.packet.AfterWakeup → point.BeforeSelected →
        state.woken = true) :
    (state.nioAt point).Orderly := by
  have unchanged : (state.nioAt point).sections = state.sections := by
    funext other
    cases other with
    | nio => exact same
    | packet => rfl
  refine ⟨?_, keys, orderly.fresh, awake⟩
  rw [unchanged]
  exact orderly.held

private theorem Orderly.nioLocked (orderly : state.Orderly)
    (locks : state.lock .nio lock = some locked)
    (outside : lock ∉ state.nio.locks)
    (enters : point.locks = lock :: state.nio.locks)
    (keys : ∀ session ∈ point.keys, session ∈ state.registered)
    (awake :
      state.packet.AfterWakeup → point.BeforeSelected →
        state.woken = true) :
    (locked.nioAt point).Orderly := by
  obtain ⟨taken, takes, rfl⟩ := lock_eq_some locks
  refine ⟨?_, keys, orderly.fresh, awake⟩
  apply orderly.held.locked outside takes enters
  intro other different
  cases other with
  | nio => exact (different rfl).elim
  | packet => rfl

private theorem Orderly.nioUnlocked (orderly : state.Orderly)
    (inside : lock ∈ state.nio.locks)
    (leaves :
      ∀ each, each ∈ point.locks ↔ each ∈ state.nio.locks ∧ each ≠ lock)
    (keys : ∀ session ∈ point.keys, session ∈ state.registered)
    (awake :
      state.packet.AfterWakeup → point.BeforeSelected →
        state.woken = true) :
    ((state.unlock .nio lock).nioAt point).Orderly := by
  refine ⟨?_, keys, orderly.fresh, awake⟩
  apply orderly.held.unlocked inside leaves
  intro other different
  cases other with
  | nio => exact (different rfl).elim
  | packet => rfl

end Nio

section Packet

variable {point : PacketPoint Session}

omit [DecidableEq Session] in
private theorem Orderly.packetMoved (orderly : state.Orderly)
    (same : point.locks = state.packet.locks)
    (fresh :
      ∀ session,
        point.newSession = some session → session ∉ state.registered)
    (awake : point.AfterWakeup → state.woken = true) :
    (state.packetAt point).Orderly := by
  have unchanged : (state.packetAt point).sections = state.sections := by
    funext other
    cases other with
    | nio => rfl
    | packet => exact same
  refine ⟨?_, orderly.keys, fresh, fun waits _ => awake waits⟩
  rw [unchanged]
  exact orderly.held

private theorem Orderly.packetLocked (orderly : state.Orderly)
    (locks : state.lock .packet lock = some locked)
    (outside : lock ∉ state.packet.locks)
    (enters : point.locks = lock :: state.packet.locks)
    (fresh :
      ∀ session,
        point.newSession = some session → session ∉ state.registered)
    (awake : point.AfterWakeup → state.woken = true) :
    (locked.packetAt point).Orderly := by
  obtain ⟨taken, takes, rfl⟩ := lock_eq_some locks
  refine ⟨?_, orderly.keys, fresh, fun waits _ => awake waits⟩
  apply orderly.held.locked outside takes enters
  intro other different
  cases other with
  | nio => rfl
  | packet => exact (different rfl).elim

private theorem Orderly.packetUnlocked (orderly : state.Orderly)
    (inside : lock ∈ state.packet.locks)
    (leaves :
      ∀ each,
        each ∈ point.locks ↔ each ∈ state.packet.locks ∧ each ≠ lock)
    (fresh :
      ∀ session,
        point.newSession = some session → session ∉ state.registered)
    (awake : point.AfterWakeup → state.woken = true) :
    ((state.unlock .packet lock).packetAt point).Orderly := by
  refine ⟨?_, orderly.keys, fresh, fun waits _ => awake waits⟩
  apply orderly.held.unlocked inside leaves
  intro other different
  cases other with
  | nio => rfl
  | packet => exact (different rfl).elim

/-- `tryLock` on `nioSelectionLock` moves to one point or the other. -/
private theorem Orderly.packetTriesLock {taken failed : PacketPoint Session}
    {after : SelectorState Session} (orderly : state.Orderly)
    (steps :
      (match state.lock .packet .nioSelectionLock with
        | some locked => some (locked.packetAt taken)
        | none => some (state.packetAt failed)) = some after)
    (outside : .nioSelectionLock ∉ state.packet.locks)
    (enters : taken.locks = .nioSelectionLock :: state.packet.locks)
    (same : failed.locks = state.packet.locks)
    (freshTaken :
      ∀ session,
        taken.newSession = some session → session ∉ state.registered)
    (freshFailed :
      ∀ session,
        failed.newSession = some session → session ∉ state.registered)
    (takenEarly : ¬ taken.AfterWakeup) (failedEarly : ¬ failed.AfterWakeup) :
    after.Orderly := by
  cases locks : state.lock .packet .nioSelectionLock with
  | none =>
      simp only [locks, Option.some.injEq] at steps
      subst steps
      exact orderly.packetMoved same freshFailed
        fun waits => (failedEarly waits).elim
  | some locked =>
      simp only [locks, Option.some.injEq] at steps
      subst steps
      exact orderly.packetLocked locks outside enters freshTaken
        fun waits => (takenEarly waits).elim

/-- A registered session is no longer new. -/
theorem Orderly.register (orderly : state.Orderly) (session : Session)
    (same : point.locks = state.packet.locks)
    (notNew : point.newSession = none) (early : ¬ point.AfterWakeup) :
    ((state.register session).packetAt point).Orderly := by
  have nothingNew :
      ∀ other, point.newSession = some other → other ∉ state.registered := by
    intro other isNew
    rw [notNew] at isNew
    exact absurd isNew nofun
  have moved :=
    orderly.packetMoved same nothingNew fun waits => (early waits).elim
  refine ⟨moved.held, ?_, ?_, fun waits => (early waits).elim⟩
  · intro other member
    exact Finset.mem_insert_of_mem (orderly.keys other member)
  · intro other isNew
    have isNew : point.newSession = some other := isNew
    rw [notNew] at isNew
    exact absurd isNew nofun

omit [DecidableEq Session] in
theorem Orderly.wakeup (orderly : state.Orderly) : state.wakeup.Orderly :=
  { orderly with awake := fun _ _ => rfl }

end Packet

end Locks

section Steps

variable {state after : SelectorState Session}

omit [DecidableEq Session] in
/-- While the NIO thread goes through the selected keys, the other thread is
not past its wakeup. -/
private theorem Orderly.not_afterWakeup (orderly : state.Orderly)
    (handles : .nioHandlingLock ∈ state.nio.locks) :
    ¬ state.packet.AfterWakeup := by
  intro waits
  obtain ⟨session, packet⟩ := waits.eq_lockSelection
  have other : .nioHandlingLock ∈ state.packet.locks := by
    rw [packet]
    exact List.mem_cons_self
  exact absurd (@HeldExactly.exclusive _ _ _ _ _ orderly.held .nio .packet
    handles other) nofun

theorem Orderly.nioStep (orderly : state.Orderly) {selected : List Session}
    (steps : state.nioStep selected = some after) : after.Orderly := by
  have keys := orderly.keys
  have awake := orderly.awake
  rw [SelectorState.nioStep] at steps
  cases point : state.nio with
  | lockSelection =>
      simp only [point, Option.map_eq_some_iff] at steps awake
      obtain ⟨locked, locks, rfl⟩ := steps
      exact orderly.nioLocked locks (by simp [point, NioPoint.locks])
        (by simp [point, NioPoint.locks]) nofun awake
  | select =>
      simp only [point, Option.some.injEq] at steps awake
      subst steps
      exact orderly.nioMoved (by rw [point]; rfl) nofun awake
  | selecting =>
      simp only [point] at steps
      by_cases returns : CanSelect selected state
      · rw [if_pos returns, Option.some.injEq] at steps
        subst steps
        have selects : ∀ session ∈ selected, session ∈ state.registered :=
          fun session member => (returns.2.2 session member).2
        exact
          { held :=
              (@Orderly.nioMoved _ _ (.unlockSelection selected) orderly
                (by rw [point]; rfl) selects nofun).held
            keys := selects
            fresh := orderly.fresh
            awake := nofun }
      · rw [if_neg returns] at steps
        exact absurd steps nofun
  | unlockSelection selectedKeys =>
      simp only [point, Option.some.injEq] at steps keys
      subst steps
      exact orderly.nioUnlocked (by simp [point, NioPoint.locks])
        (by simp [point, NioPoint.locks]) keys nofun
  | lockHandling selectedKeys =>
      simp only [point, Option.map_eq_some_iff] at steps keys
      obtain ⟨locked, locks, rfl⟩ := steps
      exact orderly.nioLocked locks (by simp [point, NioPoint.locks])
        (by simp [point, NioPoint.locks]) keys nofun
  | nextKey selectedKeys =>
      cases selectedKeys with
      | nil =>
          have handles : .nioHandlingLock ∈ state.nio.locks := by
            rw [point]
            exact List.mem_cons_self
          simp only [point, Option.some.injEq] at steps
          subst steps
          exact orderly.nioUnlocked handles (by simp [point, NioPoint.locks])
            nofun fun waits _ => (orderly.not_afterWakeup handles waits).elim
      | cons session rest =>
          simp only [point, Option.map_eq_some_iff] at steps keys
          obtain ⟨locked, locks, rfl⟩ := steps
          exact orderly.nioLocked locks (by simp [point, NioPoint.locks])
            (by simp [point, NioPoint.locks])
            (fun other member => keys other (List.mem_cons_of_mem _ member))
            nofun
  | processSelectionKey session rest =>
      simp only [point, Option.some.injEq] at steps keys
      subst steps
      exact orderly.nioUnlocked (by simp [point, NioPoint.locks])
        (by intro each; cases each <;> simp [point, NioPoint.locks])
        keys nofun

theorem Orderly.packetStep (orderly : state.Orderly)
    {choice : PacketChoice Session}
    (steps : state.packetStep choice = some after) : after.Orderly := by
  have fresh := orderly.fresh
  unfold SelectorState.packetStep at steps
  cases point : state.packet with
  | idle =>
      simp only [point] at steps
      cases choice with
      | newSession session =>
          by_cases known : session ∈ state.registered
          · simp [known] at steps
          · simp only [known, if_false, Option.some.injEq] at steps
            subst steps
            refine orderly.packetMoved (by rw [point]; rfl) ?_ nofun
            intro other same
            rw [← Option.some.inj same]
            exact known
      | knownSession session =>
          by_cases known : session ∈ state.registered
          · simp only [known, if_true, Option.some.injEq] at steps
            subst steps
            exact orderly.packetMoved (by rw [point]; rfl) nofun nofun
          · simp [known] at steps
      | _ => exact absurd steps nofun
  | enterNew session =>
      simp only [point, Option.map_eq_some_iff] at steps fresh
      obtain ⟨locked, locks, rfl⟩ := steps
      exact orderly.packetLocked locks (by simp [point, PacketPoint.locks])
        (by simp [point, PacketPoint.locks]) fresh nofun
  | populate session =>
      simp only [point, Option.some.injEq] at steps fresh
      subst steps
      exact orderly.packetMoved (by rw [point]; rfl) fresh nofun
  | lockSelector session =>
      simp only [point] at steps fresh
      exact orderly.packetTriesLock steps
        (by simp [point, PacketPoint.locks])
        (by simp [point, PacketPoint.locks])
        (by simp [point, PacketPoint.locks]) fresh fresh id id
  | lockHandling session =>
      simp only [point, Option.map_eq_some_iff] at steps fresh
      obtain ⟨locked, locks, rfl⟩ := steps
      exact orderly.packetLocked locks (by simp [point, PacketPoint.locks])
        (by simp [point, PacketPoint.locks]) fresh nofun
  | wakeup session =>
      simp only [point, Option.some.injEq] at steps fresh
      subst steps
      exact orderly.wakeup.packetMoved
        (by simp [SelectorState.wakeup, point, PacketPoint.locks]) fresh
        fun _ => rfl
  | lockSelection session =>
      simp only [point, Option.map_eq_some_iff] at steps fresh
      obtain ⟨locked, locks, rfl⟩ := steps
      exact orderly.packetLocked locks (by simp [point, PacketPoint.locks])
        (by simp [point, PacketPoint.locks]) fresh nofun
  | unlockHandling session =>
      simp only [point, Option.some.injEq] at steps fresh
      subst steps
      exact orderly.packetUnlocked (by simp [point, PacketPoint.locks])
        (by intro each; cases each <;> simp [point, PacketPoint.locks])
        fresh nofun
  | register session =>
      simp only [point] at steps
      by_cases throws : choice = .registerThrows
      · rw [if_pos throws, Option.some.injEq] at steps
        subst steps
        exact orderly.packetMoved (by rw [point]; rfl) nofun nofun
      · rw [if_neg throws, Option.some.injEq] at steps
        subst steps
        exact orderly.register session (by rw [point]; rfl) rfl id
  | unlockSelector session thrown =>
      simp only [point, Option.some.injEq] at steps
      subst steps
      cases thrown with
      | true =>
          exact orderly.packetUnlocked (by simp [point, PacketPoint.locks])
            (by intro each; cases each <;> simp [point, PacketPoint.locks])
            nofun nofun
      | false =>
          exact orderly.packetUnlocked (by simp [point, PacketPoint.locks])
            (by intro each; cases each <;> simp [point, PacketPoint.locks])
            nofun nofun
  | enter session =>
      simp only [point, Option.map_eq_some_iff] at steps
      obtain ⟨locked, locks, rfl⟩ := steps
      exact orderly.packetLocked locks (by simp [point, PacketPoint.locks])
        (by simp [point, PacketPoint.locks]) nofun nofun
  | inMonitor session =>
      simp only [point] at steps
      by_cases refreshes : choice = .refreshSelect
      · rw [if_pos refreshes, Option.some.injEq] at steps
        subst steps
        exact orderly.packetMoved (by rw [point]; rfl) nofun nofun
      · rw [if_neg refreshes, Option.some.injEq] at steps
        subst steps
        exact orderly.packetMoved (by rw [point]; rfl) nofun nofun
  | refreshSelect session =>
      simp only [point] at steps
      exact orderly.packetTriesLock steps
        (by simp [point, PacketPoint.locks])
        (by simp [point, PacketPoint.locks])
        (by simp [point, PacketPoint.locks]) nofun nofun id id
  | refreshWakeup session =>
      simp only [point, Option.some.injEq] at steps
      subst steps
      exact orderly.wakeup.packetMoved
        (by simp [SelectorState.wakeup, point, PacketPoint.locks]) nofun
        nofun
  | refreshUnlock session =>
      simp only [point, Option.some.injEq] at steps
      subst steps
      exact orderly.packetUnlocked (by simp [point, PacketPoint.locks])
        (by intro each; cases each <;> simp [point, PacketPoint.locks])
        nofun nofun
  | leave session =>
      simp only [point, Option.some.injEq] at steps
      subst steps
      exact orderly.packetUnlocked (by simp [point, PacketPoint.locks])
        (by simp [point, PacketPoint.locks]) nofun nofun

theorem Orderly.step (orderly : state.Orderly)
    (event : SelectorEvent Session) : (selectorStep state event).Orderly := by
  cases event with
  | nio selected =>
      show ((state.nioStep selected).getD state).Orderly
      cases steps : state.nioStep selected with
      | none => exact orderly
      | some after => exact orderly.nioStep steps
  | packet choice =>
      show ((state.packetStep choice).getD state).Orderly
      cases steps : state.packetStep choice with
      | none => exact orderly
      | some after => exact orderly.packetStep steps
  | ready sessions =>
      exact { orderly with }

end Steps

omit [DecidableEq Session] in
private theorem start_orderly : (start : SelectorState Session).Orderly where
  held _ := Or.inl ⟨rfl, fun thread => by cases thread <;> exact nofun⟩
  keys := nofun
  fresh := nofun
  awake := nofun

section Progress

variable {state : SelectorState Session}

/-- Some step of the NIO thread is possible. -/
def NioGoesOn (state : SelectorState Session) : Prop :=
  ∃ selected, (state.nioStep selected).isSome = true

/-- Some step of the packet-handling thread is possible. -/
def PacketGoesOn (state : SelectorState Session) : Prop :=
  ∃ choice, (state.packetStep choice).isSome = true

/-- A lock that protects no section a thread stands in can be taken. -/
private theorem Orderly.lock_isSome (orderly : state.Orderly)
    (thread : LockThread)
    {lock : SelectorLock Session} (nioOutside : lock ∉ state.nio.locks)
    (packetOutside : lock ∉ state.packet.locks) :
    (state.lock thread lock).isSome = true := by
  have takes := @HeldExactly.tryLock_isSome _ _ _ _ _ lock thread orderly.held
    fun other => by
      cases other with
      | nio => exact nioOutside
      | packet => exact packetOutside
  rw [SelectorState.lock]
  rw [Option.isSome_map]
  exact takes

/-- In a monitor the NIO thread goes on. -/
private theorem nioGoesOn_of_monitor {session : Session}
    (inMonitor : .monitor session ∈ state.nio.locks) : state.NioGoesOn := by
  refine ⟨[], ?_⟩
  rw [SelectorState.nioStep]
  cases point : state.nio with
  | processSelectionKey session rest => rfl
  | _ => simp [point, NioPoint.locks] at inMonitor

/-- Among the selected keys the NIO thread goes on if the other thread is in
no monitor of a registered session. -/
private theorem Orderly.nioGoesOn_of_handling (orderly : state.Orderly)
    (handles : .nioHandlingLock ∈ state.nio.locks)
    (apart :
      ∀ session ∈ state.registered,
        .monitor session ∉ state.packet.locks) :
    state.NioGoesOn := by
  have keys := orderly.keys
  refine ⟨[], ?_⟩
  rw [SelectorState.nioStep]
  cases point : state.nio with
  | nextKey selectedKeys =>
      cases selectedKeys with
      | nil => rfl
      | cons session rest =>
          rw [point] at keys
          simp only [Option.isSome_map]
          apply orderly.lock_isSome .nio
          · simp [point, NioPoint.locks]
          · exact apart session (keys session List.mem_cons_self)
  | processSelectionKey session rest => rfl
  | _ => simp [point, NioPoint.locks] at handles

/-- Around `select` the NIO thread goes on if a wakeup is pending. -/
private theorem nioGoesOn_of_woken
    (selects : .nioSelectionLock ∈ state.nio.locks)
    (awake : state.nio.BeforeSelected → state.woken = true) :
    state.NioGoesOn := by
  refine ⟨[], ?_⟩
  rw [SelectorState.nioStep]
  cases point : state.nio with
  | select => rfl
  | selecting =>
      rw [point] at awake
      have returns : CanSelect [] state :=
        ⟨Or.inl (awake trivial), List.nodup_nil, nofun⟩
      simp only [if_pos returns, Option.isSome_some]
  | unlockSelection keys => rfl
  | _ => simp [point, NioPoint.locks] at selects

/-- Whenever the packet-handling thread is at a call that waits for a lock,
one of the threads can go on. -/
theorem Orderly.goesOn (orderly : state.Orderly)
    (waits : state.packet.Waits) :
    state.NioGoesOn ∨ state.PacketGoesOn := by
  have fresh := orderly.fresh
  have awake := orderly.awake
  cases point : state.packet with
  | enterNew session =>
      by_cases taken : .monitor session ∈ state.nio.locks
      · exact Or.inl (nioGoesOn_of_monitor taken)
      · have enters :=
          orderly.lock_isSome .packet taken
            (by simp [point, PacketPoint.locks])
        refine Or.inr ⟨.proceed, ?_⟩
        simpa [SelectorState.packetStep, point] using enters
  | enter session =>
      by_cases taken : .monitor session ∈ state.nio.locks
      · exact Or.inl (nioGoesOn_of_monitor taken)
      · have enters :=
          orderly.lock_isSome .packet taken
            (by simp [point, PacketPoint.locks])
        refine Or.inr ⟨.proceed, ?_⟩
        simpa [SelectorState.packetStep, point] using enters
  | lockHandling session =>
      rw [point] at fresh
      have unregistered := fresh session rfl
      by_cases taken : .nioHandlingLock ∈ state.nio.locks
      · refine Or.inl (orderly.nioGoesOn_of_handling taken ?_)
        intro other registered shared
        have same : other = session := by
          simpa [point, PacketPoint.locks] using shared
        rw [same] at registered
        exact unregistered registered
      · have locks :=
          orderly.lock_isSome .packet taken
            (by simp [point, PacketPoint.locks])
        refine Or.inr ⟨.proceed, ?_⟩
        simpa [SelectorState.packetStep, point] using locks
  | lockSelection session =>
      rw [point] at awake
      by_cases taken : .nioSelectionLock ∈ state.nio.locks
      · exact Or.inl (nioGoesOn_of_woken taken (awake trivial))
      · have locks :=
          orderly.lock_isSome .packet taken
            (by simp [point, PacketPoint.locks])
        refine Or.inr ⟨.proceed, ?_⟩
        simpa [SelectorState.packetStep, point] using locks
  | _ =>
      rw [point] at waits
      exact waits.elim

omit [DecidableEq Session] in
/-- While the packet-handling thread registers a channel, the NIO thread is
not inside `select`. -/
private theorem Orderly.not_selecting (orderly : state.Orderly)
    {session : Session}
    (registers : state.packet = .register session) :
    state.nio ≠ .selecting := by
  intro selecting
  have nioInside : .nioSelectionLock ∈ state.nio.locks := by
    rw [selecting]
    exact List.mem_cons_self
  have packetInside : .nioSelectionLock ∈ state.packet.locks := by
    rw [registers]
    exact List.mem_cons_self
  exact absurd
    (@HeldExactly.exclusive _ _ _ _ _ orderly.held .nio .packet nioInside
      packetInside) nofun

end Progress

/-- However the threads are scheduled and whatever channels are ready: no
channel is registered while the NIO thread is inside `select`, and the
packet-handling thread does not wait for a lock when neither thread can take
a step. -/
theorem registration_safe_and_deadlockFree
    (events : List (SelectorEvent Session)) :
    ¬ ((∃ session,
          (run selectorStep start events).packet = .register session) ∧
        (run selectorStep start events).nio = .selecting) ∧
      ¬ ((run selectorStep start events).packet.Waits ∧
          ¬ (run selectorStep start events).NioGoesOn ∧
            ¬ (run selectorStep start events).PacketGoesOn) := by
  have orderly : (run selectorStep start events).Orderly :=
    @run_invariant _ _ selectorStep Orderly
      (fun _ event reached => Orderly.step reached event) events start
      start_orderly
  constructor
  · rintro ⟨⟨session, registers⟩, selecting⟩
    exact orderly.not_selecting registers selecting
  · rintro ⟨waits, nioStuck, packetStuck⟩
    rcases orderly.goesOn waits with nio | packet
    · exact nioStuck nio
    · exact packetStuck packet

/-- The packet-handling thread waits for the NIO thread to leave `select`. -/
example :
    let state : SelectorState Nat :=
      run selectorStep start
        [.nio [], .nio [], .packet (.newSession 0), .packet .proceed,
          .packet .proceed, .packet .proceed, .packet .proceed,
          .packet .proceed]
    state.nio = .selecting ∧ state.packet = .lockSelection 0 ∧
      (state.packetStep .proceed).isNone = true ∧ state.woken = true := by
  decide

end SelectorState

end LanShield.Vpn
