import LanShield.Library.Runs

/-!
# Queues whose consumer may put an item back

Producers append items at the tail of a queue.  Its consumer takes the item
at the head, which it then delivers or puts back at the head.  In any order
of these moves, what is delivered, held and waiting is what was enqueued, in
that order.
-/

namespace LanShield.Library

structure PutBackQueue (Item : Type*) where
  delivered : List Item
  held : Option Item
  waiting : List Item
  deriving DecidableEq

inductive QueueMove (Item : Type*) where
  | enqueue (item : Item)
  | take
  | deliver
  | putBack
  deriving DecidableEq

variable {Item : Type*}

/-- What a move adds to the items enqueued so far. -/
def QueueMove.enqueued : QueueMove Item → List Item
  | enqueue item => [item]
  | take | deliver | putBack => []

namespace PutBackQueue

def empty : PutBackQueue Item where
  delivered := []
  held := none
  waiting := []

/-- A move the queue does not allow leaves it as it is. -/
def move (queue : PutBackQueue Item) : QueueMove Item → PutBackQueue Item
  | .enqueue item => { queue with waiting := queue.waiting ++ [item] }
  | .take =>
      match queue.held, queue.waiting with
      | none, item :: later =>
          { queue with held := some item, waiting := later }
      | _, _ => queue
  | .deliver =>
      match queue.held with
      | some item =>
          { queue with delivered := queue.delivered ++ [item], held := none }
      | none => queue
  | .putBack =>
      match queue.held with
      | some item =>
          { queue with held := none, waiting := item :: queue.waiting }
      | none => queue

/-- What has been delivered, then what is held, then what waits. -/
def contents (queue : PutBackQueue Item) : List Item :=
  queue.delivered ++ queue.held.toList ++ queue.waiting

theorem contents_move (queue : PutBackQueue Item) (step : QueueMove Item) :
    (queue.move step).contents = queue.contents ++ step.enqueued := by
  obtain ⟨delivered, held, waiting⟩ := queue
  cases step with
  | enqueue item =>
      simp [move, contents, QueueMove.enqueued]
  | take =>
      cases held with
      | some item => simp [move, contents, QueueMove.enqueued]
      | none =>
          cases waiting with
          | nil => simp [move, contents, QueueMove.enqueued]
          | cons item later =>
              simp [move, contents, QueueMove.enqueued]
  | deliver =>
      cases held with
      | none => simp [move, contents, QueueMove.enqueued]
      | some item => simp [move, contents, QueueMove.enqueued]
  | putBack =>
      cases held with
      | none => simp [move, contents, QueueMove.enqueued]
      | some item => simp [move, contents, QueueMove.enqueued]

/-- No run of moves loses an item, doubles one or changes the order. -/
theorem contents_run (moves : List (QueueMove Item))
    (queue : PutBackQueue Item) :
    (run move queue moves).contents =
      queue.contents ++ moves.flatMap QueueMove.enqueued := by
  induction moves generalizing queue with
  | nil => simp
  | cons first later inductionHypothesis =>
      rw [run_cons, inductionHypothesis, contents_move, List.flatMap_cons,
        List.append_assoc]

end PutBackQueue

end LanShield.Library
