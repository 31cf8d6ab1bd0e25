import Mathlib.Logic.Function.Basic

/-!
# Reentrant locks

A lock remembers the thread that holds it and how often.  `HeldExactly` says
that the locks are held by the threads whose sections they protect; taking
and releasing a lock keeps it so.
-/

namespace LanShield.Library

/-- Free, or held by a thread that has taken it `again` more times. -/
inductive ReentrantLock (Thread : Type) where
  | free
  | held (owner : Thread) (again : Nat)
  deriving DecidableEq, Repr

namespace ReentrantLock

variable {Thread Lock : Type} [DecidableEq Thread] [DecidableEq Lock]

/-- The lock once the thread has taken it; a thread that must have the lock
waits while there is none. -/
def tryLock (thread : Thread) :
    ReentrantLock Thread → Option (ReentrantLock Thread)
  | .free => some (.held thread 0)
  | .held owner again =>
      if owner = thread then some (.held owner (again + 1)) else none

/-- The lock once the thread has released it; another thread's lock stays as
it is. -/
def unlock (thread : Thread) : ReentrantLock Thread → ReentrantLock Thread
  | .free => .free
  | .held owner 0 => if owner = thread then .free else .held owner 0
  | .held owner (again + 1) =>
      if owner = thread then .held owner again
      else .held owner (again + 1)

/-- Each lock is held, once, by the thread that stands in a section it
protects, or it is free and no thread does. -/
def HeldExactly (sections : Thread → List Lock)
    (locks : Lock → ReentrantLock Thread) : Prop :=
  ∀ lock,
    (locks lock = .free ∧ ∀ thread, lock ∉ sections thread) ∨
      ∃ owner, locks lock = .held owner 0 ∧
        ∀ thread, lock ∈ sections thread ↔ thread = owner

section HeldExactly

variable {sections after : Thread → List Lock}
  {locks : Lock → ReentrantLock Thread} {lock : Lock}
  {thread : Thread} {taken : ReentrantLock Thread}

omit [DecidableEq Thread] [DecidableEq Lock] in
/-- No two threads stand in sections of one lock. -/
theorem HeldExactly.exclusive (exactly : HeldExactly sections locks)
    {first second : Thread} (isFirst : lock ∈ sections first)
    (isSecond : lock ∈ sections second) : first = second := by
  rcases exactly lock with ⟨-, none⟩ | ⟨owner, -, one⟩
  · exact (none first isFirst).elim
  · have firstOwns := (one first).mp isFirst
    have secondOwns := (one second).mp isSecond
    exact firstOwns.trans secondOwns.symm

omit [DecidableEq Lock] in
/-- A lock no thread is in a section of can be taken. -/
theorem HeldExactly.tryLock_isSome (exactly : HeldExactly sections locks)
    (empty : ∀ other, lock ∉ sections other) :
    ((locks lock).tryLock thread).isSome = true := by
  rcases exactly lock with ⟨free, -⟩ | ⟨owner, -, one⟩
  · rw [free]
    rfl
  · exact (empty owner ((one owner).mpr rfl)).elim

theorem HeldExactly.locked (exactly : HeldExactly sections locks)
    (outside : lock ∉ sections thread)
    (takes : (locks lock).tryLock thread = some taken)
    (enters : after thread = lock :: sections thread)
    (others : ∀ other, other ≠ thread → after other = sections other) :
    HeldExactly after (Function.update locks lock taken) := by
  intro each
  by_cases same : each = lock
  · subst same
    rw [Function.update_self]
    rcases exactly each with ⟨free, none⟩ | ⟨owner, held, one⟩
    · rw [free] at takes
      refine Or.inr ⟨thread, (Option.some.inj takes).symm, ?_⟩
      intro other
      by_cases own : other = thread
      · rw [own, enters]
        simp
      · rw [others other own]
        exact iff_of_false (none other) own
    · have notOwner : owner ≠ thread :=
        fun owns => outside ((one thread).mpr owns.symm)
      rw [held, tryLock, if_neg notOwner] at takes
      exact absurd takes nofun
  · have stands : ∀ other, each ∈ after other ↔ each ∈ sections other := by
      intro other
      by_cases own : other = thread
      · rw [own, enters]
        simp [same]
      · rw [others other own]
    rw [Function.update_of_ne same]
    simpa only [stands] using exactly each

theorem HeldExactly.unlocked (exactly : HeldExactly sections locks)
    (inside : lock ∈ sections thread)
    (leaves :
      ∀ each, each ∈ after thread ↔ each ∈ sections thread ∧ each ≠ lock)
    (others : ∀ other, other ≠ thread → after other = sections other) :
    HeldExactly after
      (Function.update locks lock ((locks lock).unlock thread)) := by
  intro each
  by_cases same : each = lock
  · subst same
    rw [Function.update_self]
    rcases exactly each with ⟨-, none⟩ | ⟨owner, held, one⟩
    · exact (none thread inside).elim
    · have owns : thread = owner := (one thread).mp inside
      refine Or.inl ⟨?_, ?_⟩
      · rw [held, ReentrantLock.unlock, if_pos owns.symm]
      · intro other stands
        by_cases own : other = thread
        · rw [own] at stands
          exact ((leaves each).mp stands).2 rfl
        · rw [others other own] at stands
          exact own (((one other).mp stands).trans owns.symm)
  · have stands : ∀ other, each ∈ after other ↔ each ∈ sections other := by
      intro other
      by_cases own : other = thread
      · rw [own, leaves each]
        exact and_iff_left same
      · rw [others other own]
    rw [Function.update_of_ne same]
    simpa only [stands] using exactly each

end HeldExactly

end ReentrantLock

end LanShield.Library
