import Mathlib.Logic.Function.Basic
import LanShield.Library.PutBackQueue

/-!
# `ClientPacketWriter`

Any number of threads call `write`, and one thread runs the loop of `run`,
which writes the packets to the TUN device.  They share the fields of the
object, so a call and a round of the loop are cut between any two accesses to
these.  The deque has no bound.
-/

namespace LanShield.Vpn

open LanShield.Library

/-- `MAX_WRITE_PACKET_SIZE`. -/
def maxWritePacketSize : Nat :=
  30000

/-- Where a thread stands in `write`: outside it, before `addLast`, or with
an oversized packet before it reads `alreadyReportedOversize`, before it sets
it, and before it records the exception. -/
inductive WriteCall where
  | outside
  | addLast (data : List UInt8)
  | dropOversized (data : List UInt8)
  | setReported (data : List UInt8)
  | recordException (data : List UInt8)
  deriving DecidableEq, Repr

/-- Where the loop of `run` stands: at its condition, before `take`, with a
packet before `clientWriter.write` and before `addFirst`, before `sleep`,
and at its end. -/
inductive WriterLoop where
  | condition
  | take
  | write (data : List UInt8)
  | addFirst (data : List UInt8)
  | sleep
  | ended
  deriving DecidableEq, Repr

/-- `toTun` is what the TUN device has taken, `recorded` the sizes in the
exceptions recorded.  `called` and `added` are the histories of the calls of
`write` and of `addLast`, each with its thread. -/
structure ClientPacketWriter (Thread : Type) where
  shutdown : Bool
  alreadyReportedOversize : Bool
  packetQueue : List (List UInt8)
  calls : Thread → WriteCall
  loop : WriterLoop
  toTun : List (List UInt8)
  recorded : List Nat
  called : List (Thread × List UInt8)
  added : List (Thread × List UInt8)

/-- The packet the loop holds. -/
def WriterLoop.held : WriterLoop → Option (List UInt8)
  | write data | addFirst data => some data
  | condition | take | sleep | ended => none

/-- What a thread has yet to add. -/
def WriteCall.pending : WriteCall → List (List UInt8)
  | addLast data => [data]
  | outside | dropOversized _ | setReported _ | recordException _ => []

namespace ClientPacketWriter

variable {Thread : Type}

/-- The constructor, with no thread in `write` and the loop at its start. -/
def create : ClientPacketWriter Thread where
  shutdown := false
  alreadyReportedOversize := false
  packetQueue := []
  calls := fun _ => .outside
  loop := .condition
  toTun := []
  recorded := []
  called := []
  added := []

section Write

variable [DecidableEq Thread]

def callAt (thread : Thread) (call : WriteCall)
    (writer : ClientPacketWriter Thread) : ClientPacketWriter Thread :=
  { writer with calls := Function.update writer.calls thread call }

/-- `write` down to its first access to the object.  A thread makes one call
at a time. -/
def write (thread : Thread) (data : List UInt8)
    (writer : ClientPacketWriter Thread) : ClientPacketWriter Thread :=
  if writer.calls thread = .outside then
    { writer with called := writer.called ++ [(thread, data)] }.callAt thread
      (if maxWritePacketSize < data.length then
        .dropOversized data
      else
        .addLast data)
  else
    writer

/-- The next access of a thread in `write`. -/
def proceed (thread : Thread) (writer : ClientPacketWriter Thread) :
    ClientPacketWriter Thread :=
  match writer.calls thread with
  | .outside => writer
  | .addLast data =>
      { writer with
        packetQueue := writer.packetQueue ++ [data]
        added := writer.added ++ [(thread, data)] }.callAt thread .outside
  | .dropOversized data =>
      writer.callAt thread
        (if writer.alreadyReportedOversize then
          .outside
        else
          .setReported data)
  | .setReported data =>
      { writer with alreadyReportedOversize := true }.callAt thread
        (.recordException data)
  | .recordException data =>
      { writer with
        recorded := writer.recorded ++ [data.length] }.callAt thread .outside

end Write

/-- The next access of the loop of `run`.  What may fail is `take` and
`sleep`, with an `InterruptedException`, and `clientWriter.write`, with an
`IOException`; `take` waits for a packet. -/
def iterate (fails : Bool) (writer : ClientPacketWriter Thread) :
    ClientPacketWriter Thread :=
  match writer.loop with
  | .condition =>
      { writer with loop := if writer.shutdown then .ended else .take }
  | .take =>
      if fails then
        { writer with loop := .condition }
      else
        match writer.packetQueue with
        | [] => writer
        | data :: later =>
            { writer with packetQueue := later, loop := .write data }
  | .write data =>
      if fails then
        { writer with loop := .addFirst data }
      else
        { writer with toTun := writer.toTun ++ [data], loop := .condition }
  | .addFirst data =>
      { writer with
        packetQueue := data :: writer.packetQueue
        loop := .sleep }
  | .sleep => { writer with loop := .condition }
  | .ended => writer

end ClientPacketWriter

section Queue

variable {Thread : Type}

namespace ClientPacketWriter

/-- The packets of the writer as a queue. -/
def packets (writer : ClientPacketWriter Thread) :
    PutBackQueue (List UInt8) where
  delivered := writer.toTun
  held := writer.loop.held
  waiting := writer.packetQueue

/-- A step moves the queue, and what it adds to the history is what these
moves enqueue. -/
structure Refines (before after : ClientPacketWriter Thread)
    (moves : List (QueueMove (List UInt8))) : Prop where
  packets :
    after.packets = run PutBackQueue.move before.packets moves
  added :
    after.added.map Prod.snd =
      before.added.map Prod.snd ++ moves.flatMap QueueMove.enqueued

variable {before after : ClientPacketWriter Thread}

private theorem Refines.stutter (packets : after.packets = before.packets)
    (added : after.added = before.added) : Refines before after [] := by
  refine ⟨packets, ?_⟩
  rw [added, List.flatMap_nil, List.append_nil]

/-- A move that enqueues nothing. -/
private theorem Refines.consume {move : QueueMove (List UInt8)}
    (packets : after.packets = before.packets.move move)
    (added : after.added = before.added) (nothing : move.enqueued = []) :
    Refines before after [move] := by
  refine ⟨packets, ?_⟩
  rw [added, List.flatMap_singleton, nothing, List.append_nil]

/-- The loop takes packets, delivers them and puts them back. -/
private theorem refines_iterate (fails : Bool)
    (writer : ClientPacketWriter Thread) :
    ∃ moves, Refines writer (writer.iterate fails) moves := by
  obtain ⟨shutdown, reported, queue, calls, loop, toTun, recorded, called,
    added⟩ := writer
  cases loop with
  | condition =>
      cases shutdown with
      | true => exact ⟨[], .stutter rfl rfl⟩
      | false => exact ⟨[], .stutter rfl rfl⟩
  | take =>
      cases fails with
      | true => exact ⟨[], .stutter rfl rfl⟩
      | false =>
          cases queue with
          | nil => exact ⟨[], .stutter rfl rfl⟩
          | cons data later => exact ⟨[.take], .consume rfl rfl rfl⟩
  | write data =>
      cases fails with
      | true => exact ⟨[], .stutter rfl rfl⟩
      | false => exact ⟨[.deliver], .consume rfl rfl rfl⟩
  | addFirst data => exact ⟨[.putBack], .consume rfl rfl rfl⟩
  | sleep => exact ⟨[], .stutter rfl rfl⟩
  | ended => exact ⟨[], .stutter rfl rfl⟩

variable [DecidableEq Thread]

private theorem refines_write (thread : Thread) (data : List UInt8)
    (writer : ClientPacketWriter Thread) :
    Refines writer (writer.write thread data) [] := by
  rw [write]
  by_cases outside : writer.calls thread = .outside
  · rw [if_pos outside]
    exact .stutter rfl rfl
  · rw [if_neg outside]
    exact .stutter rfl rfl

/-- A call of `write` enqueues its packet, or nothing. -/
private theorem refines_proceed (thread : Thread)
    (writer : ClientPacketWriter Thread) :
    ∃ moves, Refines writer (writer.proceed thread) moves := by
  rw [proceed]
  cases writer.calls thread with
  | outside => exact ⟨[], .stutter rfl rfl⟩
  | addLast data => exact ⟨[.enqueue data], rfl, List.map_append⟩
  | dropOversized data => exact ⟨[], .stutter rfl rfl⟩
  | setReported data => exact ⟨[], .stutter rfl rfl⟩
  | recordException data => exact ⟨[], .stutter rfl rfl⟩

end ClientPacketWriter

end Queue

section Packets

variable {Thread : Type} [DecidableEq Thread]

/-- The packets of one thread in a history. -/
def packetsOf (thread : Thread) (history : List (Thread × List UInt8)) :
    List (List UInt8) :=
  (history.filter fun entry => entry.1 = thread).map Prod.snd

private theorem packetsOf_concat_self (thread : Thread) (data : List UInt8)
    (history : List (Thread × List UInt8)) :
    packetsOf thread (history ++ [(thread, data)]) =
      packetsOf thread history ++ [data] := by
  simp [packetsOf]

private theorem packetsOf_concat_other {thread other : Thread}
    (different : thread ≠ other) (data : List UInt8)
    (history : List (Thread × List UInt8)) :
    packetsOf other (history ++ [(thread, data)]) =
      packetsOf other history := by
  simp [packetsOf, different]

/-- A packet that `write` does not drop. -/
def Fits (data : List UInt8) : Prop :=
  data.length ≤ maxWritePacketSize

instance : DecidablePred Fits :=
  fun data => inferInstanceAs (Decidable (data.length ≤ maxWritePacketSize))

namespace ClientPacketWriter

/-- A thread has added, or is about to add, the packets it has called `write`
with, but for the oversized ones. -/
def Adds (thread : Thread) (writer : ClientPacketWriter Thread) : Prop :=
  packetsOf thread writer.added ++ (writer.calls thread).pending =
    (packetsOf thread writer.called).filter fun data => Fits data

variable {thread : Thread} {writer : ClientPacketWriter Thread}

/-- A new call is for a packet still to be added, unless it is oversized. -/
private theorem adds_write (adds : writer.Adds thread) (caller : Thread)
    (data : List UInt8) : (writer.write caller data).Adds thread := by
  rw [write]
  by_cases outside : writer.calls caller = .outside
  · rw [if_pos outside]
    rw [Adds] at adds ⊢
    dsimp only [callAt]
    by_cases same : caller = thread
    · subst same
      rw [outside, WriteCall.pending, List.append_nil] at adds
      rw [packetsOf_concat_self, List.filter_append, adds,
        Function.update_self]
      by_cases fits : Fits data
      · simp [fits, WriteCall.pending, Nat.not_lt.mpr fits]
      · simp [fits, WriteCall.pending, Nat.not_le.mp fits]
    · rw [packetsOf_concat_other same,
        Function.update_of_ne (Ne.symm same)]
      exact adds
  · rw [if_neg outside]
    exact adds

/-- Where a call goes on without adding, what is pending is unchanged. -/
private theorem adds_callAt {next : WriteCall}
    {other : ClientPacketWriter Thread}
    {caller : Thread} (adds : writer.Adds thread)
    (calls : other.calls = writer.calls)
    (added : other.added = writer.added)
    (called : other.called = writer.called)
    (pending : next.pending = (writer.calls caller).pending) :
    (other.callAt caller next).Adds thread := by
  rw [Adds] at adds ⊢
  dsimp only [callAt]
  rw [calls, added, called, ← adds]
  by_cases same : caller = thread
  · rw [← same, Function.update_self, pending]
  · rw [Function.update_of_ne (Ne.symm same)]

private theorem adds_proceed (adds : writer.Adds thread) (caller : Thread) :
    (writer.proceed caller).Adds thread := by
  rw [proceed]
  rcases call : writer.calls caller with _ | data | data | data | data
  · exact adds
  · rw [Adds] at adds ⊢
    dsimp only [callAt]
    by_cases same : caller = thread
    · subst same
      rw [call, WriteCall.pending] at adds
      rw [packetsOf_concat_self, Function.update_self, WriteCall.pending,
        List.append_nil]
      exact adds
    · rw [packetsOf_concat_other same,
        Function.update_of_ne (Ne.symm same)]
      exact adds
  · apply adds_callAt adds rfl rfl rfl
    rw [call]
    cases writer.alreadyReportedOversize with
    | true => rfl
    | false => rfl
  · apply adds_callAt adds rfl rfl rfl
    rw [call]
    rfl
  · apply adds_callAt adds rfl rfl rfl
    rw [call]
    rfl

/-- The loop has no part in what a thread adds. -/
private theorem adds_iterate (adds : writer.Adds thread) (fails : Bool) :
    (writer.iterate fails).Adds thread := by
  obtain ⟨shutdown, reported, queue, calls, loop, toTun, recorded, called,
    added⟩ := writer
  cases loop with
  | take =>
      cases fails with
      | true => exact adds
      | false =>
          cases queue with
          | nil => exact adds
          | cons data later => exact adds
  | write data =>
      cases fails with
      | true => exact adds
      | false => exact adds
  | condition => exact adds
  | addFirst data => exact adds
  | sleep => exact adds
  | ended => exact adds

/-- What a thread has added fits. -/
private theorem fits_of_adds (adds : writer.Adds thread) {data : List UInt8}
    (inside : (thread, data) ∈ writer.added) : Fits data := by
  have member : data ∈ packetsOf thread writer.added :=
    List.mem_map.mpr
      ⟨(thread, data), List.mem_filter.mpr ⟨inside, by simp⟩, rfl⟩
  have among :
      data ∈
        (packetsOf thread writer.called).filter fun data => Fits data := by
    rw [← adds]
    exact List.mem_append_left _ member
  simpa using (List.mem_filter.mp among).2

end ClientPacketWriter

end Packets

inductive WriterEvent (Thread : Type) where
  | write (thread : Thread) (data : List UInt8)
  | proceed (thread : Thread)
  | iterate (fails : Bool)
  | shutdown

namespace ClientPacketWriter

variable {Thread : Type} [DecidableEq Thread]

def writerStep (writer : ClientPacketWriter Thread) :
    WriterEvent Thread → ClientPacketWriter Thread
  | .write thread data => writer.write thread data
  | .proceed thread => writer.proceed thread
  | .iterate fails => writer.iterate fails
  | .shutdown => { writer with shutdown := true }

private theorem refines_writerStep (event : WriterEvent Thread)
    (writer : ClientPacketWriter Thread) :
    ∃ moves, Refines writer (writerStep writer event) moves := by
  cases event with
  | write thread data => exact ⟨[], refines_write thread data writer⟩
  | proceed thread => exact refines_proceed thread writer
  | iterate fails => exact refines_iterate fails writer
  | shutdown => exact ⟨[], .stutter rfl rfl⟩

private theorem adds_writerStep {thread : Thread}
    {writer : ClientPacketWriter Thread} (adds : writer.Adds thread)
    (event : WriterEvent Thread) :
    (writerStep writer event).Adds thread := by
  cases event with
  | write caller data => exact adds_write adds caller data
  | proceed caller => exact adds_proceed adds caller
  | iterate fails => exact adds_iterate adds fails
  | shutdown => exact adds

/-- What is with the TUN device, held by the loop and waiting are the packets
added, in the order they were added. -/
def InOrder (writer : ClientPacketWriter Thread) : Prop :=
  writer.packets.contents = writer.added.map Prod.snd

private theorem inOrder_writerStep {writer : ClientPacketWriter Thread}
    (inOrder : writer.InOrder) (event : WriterEvent Thread) :
    (writerStep writer event).InOrder := by
  obtain ⟨moves, packets, added⟩ := refines_writerStep event writer
  rw [InOrder, packets, added, PutBackQueue.contents_run, inOrder]

private theorem inOrder_run (events : List (WriterEvent Thread)) :
    (run writerStep create events).InOrder :=
  @run_invariant _ _ _ InOrder
    (fun _ event inOrder => inOrder_writerStep inOrder event) events _ rfl

private theorem adds_run (thread : Thread)
    (events : List (WriterEvent Thread)) :
    (run writerStep create events).Adds thread :=
  @run_invariant _ _ _ (Adds thread)
    (fun _ event adds => adds_writerStep adds event) events _ rfl

/-- The packets that fit are written in the order in which they were added,
each once: what the TUN device has taken, what the loop holds and what waits
are all that has been added.  A thread has added, or is about to add, the
packets it has called `write` with that fit, in the order of its calls. -/
theorem delivered_in_order (events : List (WriterEvent Thread)) :
    (run writerStep create events).toTun ++
        (run writerStep create events).loop.held.toList ++
        (run writerStep create events).packetQueue =
      (run writerStep create events).added.map Prod.snd ∧
    (∀ entry ∈ (run writerStep create events).added, Fits entry.2) ∧
    ∀ thread,
      packetsOf thread (run writerStep create events).added ++
          ((run writerStep create events).calls thread).pending =
        (packetsOf thread (run writerStep create events).called).filter
          fun data => Fits data := by
  refine ⟨inOrder_run events, ?_, fun thread => adds_run thread events⟩
  rintro ⟨thread, data⟩ inside
  exact fits_of_adds (adds_run thread events) inside

/-- A packet the device has refused is ahead of one added meanwhile. -/
example :
    (run writerStep create
        [.write 0 [1], .proceed 0, .iterate false, .iterate false,
          .write 1 [2], .iterate true, .proceed 1,
          .iterate false]).packetQueue =
      [[1], [2]] := by
  decide

end ClientPacketWriter

end LanShield.Vpn
