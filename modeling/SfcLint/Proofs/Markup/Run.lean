/-
# Runs of text

Neighbouring stretches of text are one run, also when markup that shows nothing stands between
them. The interpolations of a run are found in what it shows, and their positions are counted there
from the place where the run starts.
-/

import SfcLint.Proofs.Component.Reached
import SfcLint.Proofs.Markup.Mask
import SfcLint.Proofs.Text.Except
import SfcLint.Proofs.Text.Position

namespace SfcLint.Markup

/-- From one place of the tokenizer to another there are only stretches of text and markup that
shows nothing, in the given pieces. -/
inductive Run (t : Text) (start : Nat) : List Piece → Nat → Option Text → Prop
  | nil {element : Option Text} : Between t start element → Run t start [] start element
  | text {pieces more : List Piece} {n length : Nat} {element next : Option Text} :
      Run t start pieces n element → t.drop n ≠ [] →
        step? element (t.drop n) = .ok (some ⟨some (.text (shownAs more)), length, next⟩) →
          Showing ((t.drop n).take length) more →
            Run t start (pieces ++ more) (n + length) next
  | pass {pieces : List Piece} {n length : Nat} {element next : Option Text} :
      Run t start pieces n element → t.drop n ≠ [] →
        step? element (t.drop n) = .ok (some ⟨none, length, next⟩) →
          Run t start (pieces ++ [⟨(t.drop n).take length, []⟩]) (n + length) next

namespace Run

variable {t : Text} {start n : Nat} {pieces : List Piece} {element : Option Text}

/-- The pieces are written where the run stands. -/
theorem written (run : Run t start pieces n element) :
    n = start + (writtenAs pieces).length ∧ t.drop start = writtenAs pieces ++ t.drop n := by
  induction run with
  | nil => exact ⟨rfl, rfl⟩
  | text _ nonempty found shows ih =>
    have within := (step?_fits nonempty found).within
    rw [writtenAs_append, shows.written]
    refine ⟨?_, ?_⟩
    · rw [List.length_append, List.length_take, Nat.min_eq_left within, ← Nat.add_assoc, ← ih.1]
    · rw [ih.2, List.append_assoc, ← List.drop_drop, List.take_append_drop]
  | pass _ nonempty found ih =>
    have within := (step?_fits nonempty found).within
    rw [writtenAs_append, writtenAs_cons, writtenAs_nil, List.append_nil]
    refine ⟨?_, ?_⟩
    · rw [List.length_append, List.length_take, Nat.min_eq_left within, ← Nat.add_assoc, ← ih.1]
    · rw [ih.2, List.append_assoc, ← List.drop_drop, List.take_append_drop]

/-- Where a part of a run ends in the text. -/
theorem drop_written {before after : List Piece} (run : Run t start (before ++ after) n element) :
    t.drop (start + (writtenAs before).length) = writtenAs after ++ t.drop n := by
  have whole := run.written.2
  rw [writtenAs_append, List.append_assoc] at whole
  rw [← List.drop_drop, whole, List.drop_left]

/-- The position of the end of a part of a run. -/
theorem positionAt_written {before after : List Piece}
    (run : Run t start (before ++ after) n element) :
    t.positionAt ((start + (writtenAs before).length : Nat) : Int) =
      (t.positionAt (start : Int)).after (writtenAs before) := by
  have whole := run.written.2
  rw [writtenAs_append, List.append_assoc] at whole
  rw [Text.positionAt_add, whole, List.take_left]

end Run

/-! ## The nodes of a run -/

theorem exists_of_mem_nodesFrom {position : Position} {segments : List Segment}
    {nodes : List Node} (read : nodesFrom position segments = .ok nodes) {node : Node}
    (member : node ∈ nodes) :
    ∃ earlier segment later, segments = earlier ++ segment :: later ∧
      ((∃ t, segment = .plain t ∧
          node = .text t (position.after (earlier.flatMap Segment.source))) ∨
        ∃ t, segment = .braced t ∧
          node = .interpolation (Text.strip t)
            (position.after (earlier.flatMap Segment.source))) := by
  induction segments generalizing position nodes with
  | nil =>
    obtain rfl := Except.ok.inj read
    simp at member
  | cons segment segments ih =>
    -- What is found further on is counted from the end of the first stretch.
    have behind {nodes : List Node}
        (read : nodesFrom (position.after segment.source) segments = .ok nodes)
        (member : node ∈ nodes) :
        ∃ earlier found later, segment :: segments = earlier ++ found :: later ∧
          ((∃ t, found = .plain t ∧
              node = .text t (position.after (earlier.flatMap Segment.source))) ∨
            ∃ t, found = .braced t ∧
              node = .interpolation (Text.strip t)
                (position.after (earlier.flatMap Segment.source))) := by
      obtain ⟨earlier, found, later, split, kind⟩ := ih read member
      refine ⟨segment :: earlier, found, later, by rw [split]; rfl, ?_⟩
      simpa using kind
    cases segment with
    | plain t =>
      rw [nodesFrom, Except.bind_eq_ok_iff] at read
      obtain ⟨nodes, read, made⟩ := read
      obtain rfl := Except.pure_eq_ok_iff.mp made
      split at member
      · exact behind read member
      · rcases List.mem_cons.mp member with rfl | member
        · exact ⟨[], _, _, rfl, .inl ⟨t, rfl, rfl⟩⟩
        · exact behind read member
    | braced t =>
      rw [nodesFrom, Except.bind_eq_ok_iff] at read
      obtain ⟨nodes, read, made⟩ := read
      obtain rfl := Except.pure_eq_ok_iff.mp made
      rcases List.mem_cons.mp member with rfl | member
      · exact ⟨[], _, _, rfl, .inr ⟨t, rfl, rfl⟩⟩
      · exact behind read member
    | unclosed t => simp [nodesFrom] at read

/-- An interpolation with this content and position is read from the pieces of a run. `front` is
what the run shows before it. -/
structure ReadFrom (source : Text) (content : Text) (position : Position) (start : Nat)
    (pieces : List Piece) (front : Text) : Prop where
  run : ∃ n element, Run (maskInterpolations source) start pieces n element
  stretches : ∃ earlier inner later,
    segments (unmasked (shownAs pieces)) = earlier ++ .braced inner :: later ∧
      front = earlier.flatMap Segment.source ∧ content = Text.strip inner
  position : position = (source.positionAt (start : Int)).after front

/-- The braces that open an interpolation are written as such, behind the pieces `before`, which
show what the run shows before the interpolation. -/
def OpensBehind (pieces : List Piece) (front : Text) (before : List Piece) : Prop :=
  unmasked (shownAs before) = front ∧
    ∃ after, pieces = before ++ .letter '\x7b' :: .letter '\x7b' :: after

end SfcLint.Markup
