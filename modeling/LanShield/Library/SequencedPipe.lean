import Mathlib.Data.List.Basic
import Mathlib.Logic.Relation

/-!
# A pipe with numbered frames

A pipe stages the items it receives and sends them on in frames.  Every
frame carries the label of the position of its first item in the stream;
a final frame, sent once the input has ended and nothing is staged, carries
the label of the position behind the last item.
-/

namespace LanShield.Library

variable {α L : Type*}

inductive Frame (α L : Type*) where
  | data (label : L) (items : List α)
  | fin (label : L)

namespace Frame

def items : Frame α L → List α
  | data _ items => items
  | fin _ => []

def label : Frame α L → L
  | data label _ => label
  | fin label => label

end Frame

/-- The items of a list of frames, in order. -/
def payload (frames : List (Frame α L)) : List α :=
  frames.flatMap Frame.items

@[simp]
theorem payload_append (first second : List (Frame α L)) :
    payload (first ++ second) = payload first ++ payload second :=
  List.flatMap_append

@[simp]
theorem payload_singleton (frame : Frame α L) :
    payload [frame] = frame.items := by
  simp [payload]

/-- The frames lie end to end from `position` on, each under the label of
its position, and nothing follows a final frame. -/
def Laid (label : Nat → L) : (position : Nat) → List (Frame α L) → Prop
  | _, [] => True
  | position, .data number items :: rest =>
      number = label position ∧ Laid label (position + items.length) rest
  | position, .fin number :: rest =>
      number = label position ∧ rest = []

/-- A final frame among `frames`. -/
def HasFin (frames : List (Frame α L)) : Prop :=
  ∃ number, Frame.fin number ∈ frames

theorem not_hasFin_nil : ¬ HasFin ([] : List (Frame α L)) := by
  rintro ⟨number, member⟩
  cases member

private theorem hasFin_append {first second : List (Frame α L)} :
    HasFin (first ++ second) ↔ HasFin first ∨ HasFin second := by
  simp only [HasFin, List.mem_append, exists_or]

private theorem Laid.append_data
    {label : Nat → L} {position : Nat} {frames : List (Frame α L)}
    (laid : Laid label position frames) (open_ : ¬ HasFin frames)
    (items : List α) :
    Laid label position
      (frames ++
        [.data (label (position + (payload frames).length)) items]) := by
  induction frames generalizing position with
  | nil =>
      exact ⟨rfl, trivial⟩
  | cons frame rest inductionHypothesis =>
      cases frame with
      | data number first =>
          obtain ⟨number_eq, restLaid⟩ := laid
          have restOpen : ¬ HasFin rest := by
            rintro ⟨last, member⟩
            exact open_ ⟨last, List.mem_cons_of_mem _ member⟩
          refine ⟨number_eq, ?_⟩
          simpa [payload, Frame.items, Nat.add_assoc] using
            inductionHypothesis restLaid restOpen
      | fin number =>
          exact (open_ ⟨number, List.mem_cons_self⟩).elim

private theorem Laid.append_fin
    {label : Nat → L} {position : Nat} {frames : List (Frame α L)}
    (laid : Laid label position frames) (open_ : ¬ HasFin frames) :
    Laid label position
      (frames ++ [.fin (label (position + (payload frames).length))]) := by
  induction frames generalizing position with
  | nil =>
      exact ⟨rfl, rfl⟩
  | cons frame rest inductionHypothesis =>
      cases frame with
      | data number first =>
          obtain ⟨number_eq, restLaid⟩ := laid
          have restOpen : ¬ HasFin rest := by
            rintro ⟨last, member⟩
            exact open_ ⟨last, List.mem_cons_of_mem _ member⟩
          refine ⟨number_eq, ?_⟩
          simpa [payload, Frame.items, Nat.add_assoc] using
            inductionHypothesis restLaid restOpen
      | fin number =>
          exact (open_ ⟨number, List.mem_cons_self⟩).elim

/-- What lies behind a prefix of the frames lies behind its items. -/
private theorem Laid.drop_prefix
    {label : Nat → L} {position : Nat}
    {before after : List (Frame α L)}
    (laid : Laid label position (before ++ after)) (rest : after ≠ []) :
    Laid label (position + (payload before).length) after := by
  induction before generalizing position with
  | nil =>
      exact laid
  | cons frame later inductionHypothesis =>
      cases frame with
      | data number items =>
          simpa [payload, Frame.items, Nat.add_assoc] using
            inductionHypothesis laid.2
      | fin number =>
          exact (rest (List.append_eq_nil_iff.mp laid.2).2).elim

private theorem Laid.fin_label
    {label : Nat → L} {before after : List (Frame α L)} {number : L}
    (laid : Laid label 0 (before ++ .fin number :: after)) :
    number = label (payload before).length ∧ after = [] := by
  have fin_laid := laid.drop_prefix (List.cons_ne_nil _ _)
  rw [Nat.zero_add] at fin_laid
  exact fin_laid

/-- The label of every single item, when `next` counts on from the label of
its frame. -/
def itemLabels (next : L → Nat → L) (frames : List (Frame α L)) : List L :=
  frames.flatMap fun frame =>
    (List.range frame.items.length).map (next frame.label)

/-- Every item of frames laid end to end has the label of its position. -/
theorem Laid.itemLabels
    {label : Nat → L} {next : L → Nat → L}
    (counts : ∀ position offset,
      next (label position) offset = label (position + offset))
    {position : Nat} {frames : List (Frame α L)}
    (laid : Laid label position frames) :
    itemLabels next frames =
      (List.range (payload frames).length).map
        fun offset => label (position + offset) := by
  induction frames generalizing position with
  | nil =>
      rfl
  | cons frame rest inductionHypothesis =>
      cases frame with
      | data number items =>
          obtain ⟨number_eq, restLaid⟩ := laid
          have restLabels := inductionHypothesis restLaid
          rw [Library.itemLabels] at restLabels ⊢
          rw [List.flatMap_cons, restLabels, number_eq]
          simp [payload, Frame.items, Frame.label, List.range_add,
            Function.comp_def, counts, Nat.add_assoc]
      | fin number =>
          obtain ⟨_, rfl⟩ := laid
          rfl

structure Pipe (α L : Type*) where
  received : List α
  staged : List α
  sent : List (Frame α L)
  ended : Bool
  halted : Bool

namespace Pipe

inductive Step (label : Nat → L) : Pipe α L → Pipe α L → Prop
  | receive (pipe : Pipe α L) (items : List α) :
      pipe.ended = false → pipe.halted = false →
      Step label pipe
        { pipe with
          received := pipe.received ++ items
          staged := pipe.staged ++ items }
  | emit (pipe : Pipe α L) (items rest : List α) :
      pipe.staged = items ++ rest → items ≠ [] →
      Step label pipe
        { pipe with
          staged := rest
          sent :=
            pipe.sent ++ [.data (label (payload pipe.sent).length) items] }
  | finish (pipe : Pipe α L) :
      pipe.ended = true → pipe.staged = [] → pipe.halted = false →
      Step label pipe
        { pipe with
          sent := pipe.sent ++ [.fin (label (payload pipe.sent).length)]
          halted := true }
  | endInput (pipe : Pipe α L) :
      Step label pipe { pipe with ended := true }
  | halt (pipe : Pipe α L) :
      Step label pipe { pipe with halted := true }

abbrev Steps (label : Nat → L) : Pipe α L → Pipe α L → Prop :=
  Relation.ReflTransGen (Step label)

structure WellFormed (label : Nat → L) (pipe : Pipe α L) : Prop where
  conserved : payload pipe.sent ++ pipe.staged = pipe.received
  laid : Laid label 0 pipe.sent
  closed : HasFin pipe.sent → pipe.staged = [] ∧ pipe.halted = true

theorem WellFormed.step
    {label : Nat → L} {before after : Pipe α L}
    (wellFormed : WellFormed label before)
    (step : Step label before after) :
    WellFormed label after := by
  cases step with
  | receive items notEnded notHalted =>
      refine ⟨?_, wellFormed.laid, fun finished => ?_⟩
      · rw [← wellFormed.conserved, List.append_assoc]
      · have halted := (wellFormed.closed finished).2
        rw [notHalted] at halted
        cases halted
  | emit items rest staged nonempty =>
      have open_ : ¬ HasFin before.sent := by
        intro finished
        have empty := (wellFormed.closed finished).1
        rw [staged] at empty
        exact nonempty (List.append_eq_nil_iff.mp empty).1
      refine ⟨?_, ?_, fun finished => ?_⟩
      · rw [← wellFormed.conserved, staged]
        simp [Frame.items]
      · simpa using wellFormed.laid.append_data open_ items
      · rcases hasFin_append.mp finished with earlier | ⟨number, last⟩
        · exact (open_ earlier).elim
        · simp at last
  | finish ended empty notHalted =>
      have open_ : ¬ HasFin before.sent := by
        intro finished
        have halted := (wellFormed.closed finished).2
        rw [notHalted] at halted
        cases halted
      refine ⟨?_, ?_, fun _ => ⟨empty, rfl⟩⟩
      · rw [← wellFormed.conserved]
        simp [Frame.items]
      · simpa using wellFormed.laid.append_fin open_
  | endInput =>
      exact ⟨wellFormed.conserved, wellFormed.laid, wellFormed.closed⟩
  | halt =>
      exact
        ⟨wellFormed.conserved, wellFormed.laid,
          fun finished => ⟨(wellFormed.closed finished).1, rfl⟩⟩

/-- A final frame is the last one, stands behind every received item and
carries the number behind them. -/
theorem WellFormed.fin_last
    {label : Nat → L} {pipe : Pipe α L}
    (wellFormed : WellFormed label pipe)
    {before after : List (Frame α L)} {number : L}
    (sent : pipe.sent = before ++ .fin number :: after) :
    pipe.staged = [] ∧ payload before = pipe.received ∧
      number = label pipe.received.length ∧ after = [] := by
  have laid := wellFormed.laid
  rw [sent] at laid
  obtain ⟨number_eq, last⟩ := laid.fin_label
  have finished : HasFin pipe.sent := by
    rw [sent]
    exact ⟨number, List.mem_append_right _ List.mem_cons_self⟩
  have empty := (wellFormed.closed finished).1
  have everything : payload before = pipe.received := by
    rw [← wellFormed.conserved, sent, last, empty]
    simp [Frame.items]
  exact ⟨empty, everything, everything ▸ number_eq, last⟩

end Pipe

end LanShield.Library
