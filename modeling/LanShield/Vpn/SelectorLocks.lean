import LanShield.Library.ReentrantLock
import LanShield.Library.Runs
import Mathlib.Data.Finset.Basic

/-!
# The locks around the selector

`SocketNIODataService.runTask` on the NIO thread, and on the packet-handling
thread the monitors of `SessionHandler` with `registerSession`,
`lockSelector` and `refreshSelect`, one lock operation at a time.
-/

namespace LanShield.Vpn

open LanShield.Library

inductive LockThread where
  | nio
  | packet
  deriving DecidableEq, Repr

/-- Where the NIO thread stands in `runTask`: before `lockInterruptibly`,
before and inside `select`, before it unlocks `nioSelectionLock` with the
sessions of the selected keys, before it locks `nioHandlingLock`, at
`iterator.hasNext` and in the monitor of a session. -/
inductive NioPoint (Session : Type) where
  | lockSelection
  | select
  | selecting
  | unlockSelection (selected : List Session)
  | lockHandling (selected : List Session)
  | nextKey (selected : List Session)
  | processSelectionKey (session : Session) (rest : List Session)
  deriving DecidableEq, Repr

/-- Where the packet-handling thread stands: between packets; before and in
the monitor of a new session; in `lockSelector` before `tryLock`,
`nioHandlingLock.lock`, `wakeup`, `nioSelectionLock.lock` and
`nioHandlingLock.unlock`; in `registerSession` before `register` and before
the lock is released; before and in the monitor of a registered session; and
in `refreshSelect` before `tryLock`, `wakeup` and `unlock`. -/
inductive PacketPoint (Session : Type) where
  | idle
  | enterNew (session : Session)
  | populate (session : Session)
  | lockSelector (session : Session)
  | lockHandling (session : Session)
  | wakeup (session : Session)
  | lockSelection (session : Session)
  | unlockHandling (session : Session)
  | register (session : Session)
  | unlockSelector (session : Session) (thrown : Bool)
  | enter (session : Session)
  | inMonitor (session : Session)
  | refreshSelect (session : Session)
  | refreshWakeup (session : Session)
  | refreshUnlock (session : Session)
  | leave (session : Session)
  deriving DecidableEq, Repr

/-- The locks of `SocketNIODataService` and the monitors of the sessions. -/
inductive SelectorLock (Session : Type) where
  | nioSelectionLock
  | nioHandlingLock
  | monitor (session : Session)
  deriving DecidableEq, Repr

/-- `woken` is the pending `wakeup` of the selector; `ready` are the sessions
whose channels are ready, `registered` those whose channels are registered.
-/
structure SelectorState (Session : Type) where
  locks : SelectorLock Session → ReentrantLock LockThread
  woken : Bool
  ready : Finset Session
  registered : Finset Session
  nio : NioPoint Session
  packet : PacketPoint Session

namespace SelectorState

variable {Session : Type} [DecidableEq Session]

def start : SelectorState Session where
  locks := fun _ => .free
  woken := false
  ready := ∅
  registered := ∅
  nio := .lockSelection
  packet := .idle

def nioAt (point : NioPoint Session) (state : SelectorState Session) :
    SelectorState Session :=
  { state with nio := point }

def packetAt (point : PacketPoint Session) (state : SelectorState Session) :
    SelectorState Session :=
  { state with packet := point }

/-- The thread takes the lock, or waits for it. -/
def lock (thread : LockThread) (lock : SelectorLock Session)
    (state : SelectorState Session) : Option (SelectorState Session) :=
  ((state.locks lock).tryLock thread).map fun taken =>
    { state with locks := Function.update state.locks lock taken }

def unlock (thread : LockThread) (lock : SelectorLock Session)
    (state : SelectorState Session) : SelectorState Session :=
  { state with
    locks :=
      Function.update state.locks lock ((state.locks lock).unlock thread) }

/-- `Selector.wakeup`. -/
def wakeup (state : SelectorState Session) : SelectorState Session :=
  { state with woken := true }

/-- `select` can return with the keys of these sessions. -/
def CanSelect (selected : List Session) (state : SelectorState Session) :
    Prop :=
  (state.woken = true ∨ selected ≠ []) ∧ selected.Nodup ∧
    ∀ session ∈ selected,
      session ∈ state.ready ∧ session ∈ state.registered

instance (selected : List Session) (state : SelectorState Session) :
    Decidable (CanSelect selected state) :=
  inferInstanceAs (Decidable (_ ∧ _ ∧ _))

/-- `select` returns; a pending wakeup is used up. -/
def selectReturns (state : SelectorState Session) : SelectorState Session :=
  { state with woken := false }

/-- The next step of the NIO thread, if it is not waiting; `selected` is
what `select` finds. -/
def nioStep (selected : List Session) (state : SelectorState Session) :
    Option (SelectorState Session) :=
  match state.nio with
  | .lockSelection => (state.lock .nio .nioSelectionLock).map (nioAt .select)
  | .select => some (state.nioAt .selecting)
  | .selecting =>
      if CanSelect selected state then
        some (state.selectReturns.nioAt (.unlockSelection selected))
      else
        none
  | .unlockSelection keys =>
      some ((state.unlock .nio .nioSelectionLock).nioAt (.lockHandling keys))
  | .lockHandling keys =>
      (state.lock .nio .nioHandlingLock).map (nioAt (.nextKey keys))
  | .nextKey [] =>
      some ((state.unlock .nio .nioHandlingLock).nioAt .lockSelection)
  | .nextKey (session :: rest) =>
      (state.lock .nio (.monitor session)).map
        (nioAt (.processSelectionKey session rest))
  | .processSelectionKey session rest =>
      some ((state.unlock .nio (.monitor session)).nioAt (.nextKey rest))

/-- What the packet-handling thread comes to next, where there is a choice:
a packet of a new or a registered session, a `refreshSelect` before it leaves
the monitor, or a `register` that throws. -/
inductive PacketChoice (Session : Type) where
  | newSession (session : Session)
  | knownSession (session : Session)
  | refreshSelect
  | registerThrows
  | proceed
  deriving DecidableEq, Repr

/-- `channel.register` and the statements up to the `finally` block. -/
def register (session : Session) (state : SelectorState Session) :
    SelectorState Session :=
  { state with registered := insert session state.registered }

/-- The next step of the packet-handling thread, if it is not waiting. -/
def packetStep (choice : PacketChoice Session)
    (state : SelectorState Session) : Option (SelectorState Session) :=
  match state.packet with
  | .idle =>
      match choice with
      | .newSession session =>
          if session ∈ state.registered then
            none
          else
            some (state.packetAt (.enterNew session))
      | .knownSession session =>
          if session ∈ state.registered then
            some (state.packetAt (.enter session))
          else
            none
      | _ => none
  | .enterNew session =>
      (state.lock .packet (.monitor session)).map
        (packetAt (.populate session))
  | .populate session => some (state.packetAt (.lockSelector session))
  | .lockSelector session =>
      match state.lock .packet .nioSelectionLock with
      | some locked => some (locked.packetAt (.register session))
      | none => some (state.packetAt (.lockHandling session))
  | .lockHandling session =>
      (state.lock .packet .nioHandlingLock).map (packetAt (.wakeup session))
  | .wakeup session => some (state.wakeup.packetAt (.lockSelection session))
  | .lockSelection session =>
      (state.lock .packet .nioSelectionLock).map
        (packetAt (.unlockHandling session))
  | .unlockHandling session =>
      some
        ((state.unlock .packet .nioHandlingLock).packetAt
          (.register session))
  | .register session =>
      if choice = .registerThrows then
        some (state.packetAt (.unlockSelector session true))
      else
        some
          ((state.register session).packetAt
            (.unlockSelector session false))
  | .unlockSelector session thrown =>
      some
        ((state.unlock .packet .nioSelectionLock).packetAt
          (if thrown then .leave session else .inMonitor session))
  | .enter session =>
      (state.lock .packet (.monitor session)).map
        (packetAt (.inMonitor session))
  | .inMonitor session =>
      if choice = .refreshSelect then
        some (state.packetAt (.refreshSelect session))
      else
        some (state.packetAt (.leave session))
  | .refreshSelect session =>
      match state.lock .packet .nioSelectionLock with
      | some locked => some (locked.packetAt (.refreshUnlock session))
      | none => some (state.packetAt (.refreshWakeup session))
  | .refreshWakeup session =>
      some (state.wakeup.packetAt (.inMonitor session))
  | .refreshUnlock session =>
      some
        ((state.unlock .packet .nioSelectionLock).packetAt
          (.inMonitor session))
  | .leave session =>
      some ((state.unlock .packet (.monitor session)).packetAt .idle)

end SelectorState

/-- A thread is scheduled, or the channels' readiness changes. -/
inductive SelectorEvent (Session : Type) where
  | nio (selected : List Session)
  | packet (choice : SelectorState.PacketChoice Session)
  | ready (sessions : Finset Session)

/-- A thread that waits stays where it is. -/
def selectorStep {Session : Type} [DecidableEq Session]
    (state : SelectorState Session) :
    SelectorEvent Session → SelectorState Session
  | .nio selected => (state.nioStep selected).getD state
  | .packet choice => (state.packetStep choice).getD state
  | .ready sessions => { state with ready := sessions }

end LanShield.Vpn
