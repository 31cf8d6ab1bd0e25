import Mathlib.Data.List.Defs

/-!
# Replies in order

What passes a relay that answers the items it takes one by one: each item, in
order, has one reply or is dropped.
-/

namespace LanShield.Library

variable {Item Reply : Type*} {Replies : Item → Reply → Prop}
  {Dropped : Item → Prop}

inductive RepliedInOrder (Replies : Item → Reply → Prop)
    (Dropped : Item → Prop) : List Item → List Reply → Prop where
  | nil : RepliedInOrder Replies Dropped [] []
  | replied {item : Item} {reply : Reply} {items : List Item}
      {replies : List Reply} (answers : Replies item reply)
      (rest : RepliedInOrder Replies Dropped items replies) :
      RepliedInOrder Replies Dropped (item :: items) (reply :: replies)
  | dropped {item : Item} {items : List Item} {replies : List Reply}
      (drops : Dropped item)
      (rest : RepliedInOrder Replies Dropped items replies) :
      RepliedInOrder Replies Dropped (item :: items) replies

namespace RepliedInOrder

theorem append {items later : List Item} {replies laterReplies : List Reply}
    (first : RepliedInOrder Replies Dropped items replies)
    (second : RepliedInOrder Replies Dropped later laterReplies) :
    RepliedInOrder Replies Dropped (items ++ later)
      (replies ++ laterReplies) := by
  induction first with
  | nil => exact second
  | replied answers _ inductionHypothesis =>
      exact .replied answers inductionHypothesis
  | dropped drops _ inductionHypothesis =>
      exact .dropped drops inductionHypothesis

end RepliedInOrder

end LanShield.Library
