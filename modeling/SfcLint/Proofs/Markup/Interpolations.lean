/-
# Where interpolations are cut out

A run of text is read from left to right: up to the next two opening braces it is plain, and from
there an interpolation goes on to the nearest two closing ones, which may overlap nothing of the
opening. Said with offsets in the run, this cuts every run in one way. The stretches of a run are
those of this cut, each with the offset at which it starts, so a run that waits is made into nodes,
or found to open an interpolation that never closes, as the cut tells.
-/

import Mathlib.Data.Nat.Find
import SfcLint.Component.Assembly
import SfcLint.Proofs.Markup.Mask

namespace SfcLint

namespace Markup

variable {sign t run : Text} {start n n' : Nat}

/-! ## Signs in a text -/

/-- The sign stands at an offset, and nowhere between the start and there. -/
structure FirstFrom (sign t : Text) (start n : Nat) : Prop where
  behind : start ≤ n
  stands : sign <+: t.drop n
  none : ∀ m, start ≤ m → m < n → ¬ sign <+: t.drop m

/-- From the start on the sign stands nowhere. -/
def NowhereFrom (sign t : Text) (start : Nat) : Prop := ∀ n, start ≤ n → ¬ sign <+: t.drop n

theorem FirstFrom.unique (first : FirstFrom sign t start n) (first' : FirstFrom sign t start n') :
    n = n' := by
  rcases Nat.lt_trichotomy n n' with less | same | less
  · exact absurd first.stands (first'.none n first.behind less)
  · exact same
  · exact absurd first'.stands (first.none n' first'.behind less)

theorem FirstFrom.not_nowhere (first : FirstFrom sign t start n) : ¬ NowhereFrom sign t start :=
  fun none => none n first.behind first.stands

theorem exists_firstFrom_or_nowhere (sign t : Text) (start : Nat) :
    (∃ n, FirstFrom sign t start n) ∨ NowhereFrom sign t start := by
  classical
  by_cases some : ∃ n, start ≤ n ∧ sign <+: t.drop n
  · obtain ⟨behind, stands⟩ := Nat.find_spec some
    refine .inl ⟨Nat.find some, behind, stands, fun m behind less here => ?_⟩
    exact Nat.find_min some less ⟨behind, here⟩
  · exact .inr fun n behind here => some ⟨n, behind, here⟩

/-- A sign that stands somewhere lies within the text. -/
theorem FirstFrom.within (first : FirstFrom sign t start n) (held : sign ≠ []) :
    n + sign.length ≤ t.length := by
  have shorter := first.stands.length_le
  have some := List.length_pos_iff.mpr held
  rw [List.length_drop] at shorter
  omega

/-- What follows an offset is what stands before the sign, the sign, and what follows it. -/
theorem FirstFrom.drop_eq (first : FirstFrom sign t start n) :
    t.drop start = t.slice start n ++ (sign ++ t.drop (n + sign.length)) := by
  obtain ⟨rest, split⟩ := first.stands
  have behind : t.drop n = (t.drop start).drop (n - start) := by
    rw [List.drop_drop, Nat.add_sub_cancel' first.behind]
  rw [← List.drop_drop, ← split, List.drop_left, split, behind, Text.slice, List.take_append_drop]

theorem noneStarts_of_forall {later : Text}
    (none : ∀ m < t.length, ¬ sign <+: (t ++ later).drop m) : NoneStarts sign t later := by
  induction t with
  | nil => trivial
  | cons c t ih =>
    refine ⟨none 0 (by simp), ih fun m less => ?_⟩
    exact none (m + 1) (Nat.succ_lt_succ less)

/-- The sign starts nowhere in what stands before it. -/
theorem FirstFrom.noneStarts (first : FirstFrom sign t start n) :
    NoneStarts sign (t.slice start n) (sign ++ t.drop (n + sign.length)) := by
  refine noneStarts_of_forall fun m less => ?_
  rw [Text.slice, List.length_take] at less
  rw [← first.drop_eq, List.drop_drop]
  exact first.none (start + m) (Nat.le_add_right start m) (by omega)

theorem NowhereFrom.not_infix (none : NowhereFrom sign t start) : ¬ sign <:+: t.drop start := by
  rintro ⟨front, back, split⟩
  refine none (start + front.length) (Nat.le_add_right _ _) ?_
  rw [← List.drop_drop, ← split, List.append_assoc, List.drop_left]
  exact List.prefix_append sign back

theorem take_append_slice (t : Text) (inOrder : start ≤ n) :
    t.take start ++ t.slice start n = t.take n := by
  rw [Text.slice, ← List.take_add, Nat.add_sub_cancel' inOrder]

/-! ## The cut of a run -/

/-- Reading a run from an offset on cuts it into stretches, each with the offset where it starts:
plain up to the next opening braces, and from there through the nearest closing ones behind them.
Where there are none the reading ends, and the offset of the opening braces is its fault. -/
inductive Cuts (run : Text) : Nat → List (Nat × Segment) → Option Nat → Prop
  | plain {start : Nat} : NowhereFrom braces run start →
      Cuts run start [(start, .plain (run.drop start))] none
  | braced {start opening closing : Nat} {later : List (Nat × Segment)} {fault : Option Nat} :
      FirstFrom braces run start opening → FirstFrom closingBraces run (opening + 2) closing →
        Cuts run (closing + 2) later fault →
          Cuts run start ((start, .plain (run.slice start opening)) ::
            (opening, .braced (run.slice (opening + 2) closing)) :: later) fault
  | unclosed {start opening : Nat} : FirstFrom braces run start opening →
      NowhereFrom closingBraces run (opening + 2) →
        Cuts run start [(start, .plain (run.slice start opening)),
          (opening, .unclosed (run.drop (opening + 2)))] (some opening)

variable {parts parts' : List (Nat × Segment)} {fault fault' : Option Nat}

/-- A run is cut in one way. -/
theorem Cuts.unique (cuts : Cuts run start parts fault)
    (cuts' : Cuts run start parts' fault') : parts' = parts ∧ fault' = fault := by
  induction cuts generalizing parts' fault' with
  | plain none =>
    cases cuts' with
    | plain => exact ⟨rfl, rfl⟩
    | braced opens => exact absurd none opens.not_nowhere
    | unclosed opens => exact absurd none opens.not_nowhere
  | braced opens closes _ ih =>
    cases cuts' with
    | plain none => exact absurd none opens.not_nowhere
    | braced opens' closes' later =>
      obtain rfl := opens.unique opens'
      obtain rfl := closes.unique closes'
      obtain ⟨rfl, rfl⟩ := ih later
      exact ⟨rfl, rfl⟩
    | unclosed opens' none =>
      obtain rfl := opens.unique opens'
      exact absurd none closes.not_nowhere
  | unclosed opens none =>
    cases cuts' with
    | plain none' => exact absurd none' opens.not_nowhere
    | braced opens' closes' =>
      obtain rfl := opens.unique opens'
      exact absurd none closes'.not_nowhere
    | unclosed opens' =>
      obtain rfl := opens.unique opens'
      exact ⟨rfl, rfl⟩

/-- Every run is cut in some way. -/
theorem exists_cuts (run : Text) (start : Nat) :
    ∃ parts fault, Cuts run start parts fault := by
  rcases exists_firstFrom_or_nowhere braces run start with ⟨opening, opens⟩ | none
  · rcases exists_firstFrom_or_nowhere closingBraces run (opening + 2) with ⟨closing, closes⟩ | none
    · -- Each interpolation takes something from what is left of the run.
      have within := closes.within (by decide)
      have behind := closes.behind
      have onward := opens.behind
      obtain ⟨later, fault, cuts⟩ := exists_cuts run (closing + 2)
      exact ⟨_, _, .braced opens closes cuts⟩
    · exact ⟨_, _, .unclosed opens none⟩
  · exact ⟨_, _, .plain none⟩
termination_by run.length - start
decreasing_by
  have width : closingBraces.length = 2 := rfl
  omega

/-! ## The stretches of a run -/

theorem segmentsFrom_unclosed (absent : ¬ closingBraces <:+: t) :
    segmentsFrom true t = [.unclosed t] := by
  induction t with
  | nil => rfl
  | cons c t ih =>
    rw [List.infix_cons_iff, not_or] at absent
    rw [segmentsFrom_true_cons absent.1, ih absent.2]
    rfl

/-- What follows opening braces is read inside an interpolation. -/
theorem FirstFrom.segmentsFrom_false {opening : Nat} (opens : FirstFrom braces run start opening) :
    segmentsFrom false (run.drop start) =
      .plain (run.slice start opening) :: segmentsFrom true (run.drop (opening + 2)) := by
  have inside : segmentsFrom false (braces ++ run.drop (opening + 2)) =
      .plain [] :: segmentsFrom true (run.drop (opening + 2)) := rfl
  rw [opens.drop_eq]
  exact (segmentsFrom_plain opens.noneStarts inside).trans (by rw [List.append_nil])

/-- What follows closing braces is read outside of interpolations. -/
theorem FirstFrom.segmentsFrom_true {closing : Nat}
    (closes : FirstFrom closingBraces run start closing) :
    segmentsFrom true (run.drop start) =
      .braced (run.slice start closing) :: segmentsFrom false (run.drop (closing + 2)) := by
  have outside : segmentsFrom true (closingBraces ++ run.drop (closing + 2)) =
      .braced [] :: segmentsFrom false (run.drop (closing + 2)) := rfl
  rw [closes.drop_eq]
  exact (segmentsFrom_braced closes.noneStarts outside).trans (by rw [List.append_nil])

/-- The stretches of a run are those of its cut. -/
theorem Cuts.segmentsFrom_eq (cuts : Cuts run start parts fault) :
    segmentsFrom false (run.drop start) = parts.map (·.2) := by
  induction cuts with
  | plain none => exact segments_of_no_braces none.not_infix
  | braced opens closes _ ih =>
    rw [opens.segmentsFrom_false, closes.segmentsFrom_true, ih]
    rfl
  | unclosed opens none =>
    rw [opens.segmentsFrom_false, segmentsFrom_unclosed none.not_infix]
    rfl

/-! ## The nodes of a run -/

/-- The node that a stretch is made into, at the place in the run where it starts: an interpolation
has its inside without the blanks around it, and plain text that is not blank has all of it. -/
def nodeOf? (position : Position) (run : Text) : Nat × Segment → Option Node
  | (n, .plain t) =>
      if Text.allBlank t then none else some (.text t (position.after (run.take n)))
  | (n, .braced t) => some (.interpolation (Text.strip t) (position.after (run.take n)))
  | (_, .unclosed _) => none

/-- What the stretches of a run come to: the nodes of all of them, or the place of the fault. -/
def nodesOrFault (position : Position) (run : Text) (parts : List (Nat × Segment)) :
    Option Nat → Except Position (List Node)
  | none => .ok (parts.filterMap (nodeOf? position run))
  | some opening => .error (position.after (run.take opening))

theorem FirstFrom.after_plain {opening : Nat} (opens : FirstFrom braces run start opening)
    (position : Position) :
    (position.after (run.take start)).after (run.slice start opening) =
      position.after (run.take opening) := by
  rw [← Position.after_append, take_append_slice run opens.behind]

theorem FirstFrom.take_eq (first : FirstFrom sign t start n) :
    t.take (n + sign.length) = t.take n ++ sign := by
  obtain ⟨rest, split⟩ := first.stands
  rw [List.take_add, ← split, List.take_left]

/-- An interpolation leads from its opening braces to behind its closing ones. -/
theorem FirstFrom.after_braced {opening closing : Nat} (opens : FirstFrom braces run start opening)
    (closes : FirstFrom closingBraces run (opening + 2) closing) (position : Position) :
    (position.after (run.take opening)).after
        (Segment.braced (run.slice (opening + 2) closing)).source =
      position.after (run.take (closing + 2)) := by
  have front : run.take (opening + 2) = run.take opening ++ braces := opens.take_eq
  have back : run.take (closing + 2) = run.take closing ++ closingBraces := closes.take_eq
  rw [back, ← take_append_slice run closes.behind, front, List.append_assoc, List.append_assoc,
    Position.after_append]
  rfl

/-- Making nodes of the stretches comes to their nodes or the fault. -/
theorem Cuts.nodesFrom_eq (cuts : Cuts run start parts fault) (position : Position) :
    nodesFrom (position.after (run.take start)) (parts.map (·.2)) =
      nodesOrFault position run parts fault := by
  -- Induction on the cut: each stretch leads from the place of its offset to that of the next one.
  induction cuts with
  | @plain start none =>
    by_cases blank : Text.allBlank (run.drop start)
    · simp only [List.map_cons, List.map_nil, nodesFrom, nodesOrFault, List.filterMap_cons,
        List.filterMap_nil, nodeOf?, if_pos blank]
      rfl
    · simp only [List.map_cons, List.map_nil, nodesFrom, nodesOrFault, List.filterMap_cons,
        List.filterMap_nil, nodeOf?, if_neg blank]
      rfl
  | @braced start opening closing later fault opens closes _ ih =>
    simp only [List.map_cons, nodesFrom, opens.after_plain position]
    rw [opens.after_braced closes position, ih]
    cases fault with
    | some place => rfl
    | none =>
      by_cases blank : Text.allBlank (run.slice start opening)
      · simp only [nodesOrFault, List.filterMap_cons, nodeOf?, if_pos blank]
        rfl
      · simp only [nodesOrFault, List.filterMap_cons, nodeOf?, if_neg blank]
        rfl
  | unclosed opens none =>
    simp only [List.map_cons, nodesFrom, opens.after_plain position]
    rfl

end Markup

namespace Assembly

open Markup

/-- The run of text that waits is cut in one way, and its stretches together are the run. If an
interpolation opens and never closes, this is the error, at the opening braces. Otherwise the nodes
of the stretches are appended in order, each with the place in the run where it starts. -/
theorem Draft.flush_cuts (draft : Draft) (position : Position) (stretches : List Text) :
    let run := unmasked stretches.reverse.flatten
    ∃ parts fault,
      (∀ parts' fault', Cuts run 0 parts' fault' ↔ parts' = parts ∧ fault' = fault) ∧
      parts.flatMap (·.2.source) = run ∧
      ({ draft with run := some (position, stretches) } : Draft).flush =
        match fault with
        | some opening =>
            .error (.malformed .unclosedInterpolation (position.after (run.take opening)))
        | none =>
            .ok ((parts.filterMap (nodeOf? position run)).foldl Draft.append
              { draft with run := none }) := by
  intro run
  obtain ⟨parts, fault, cuts⟩ := exists_cuts run 0
  have stretched : segments run = parts.map (·.2) := cuts.segmentsFrom_eq
  have nodes : nodesOfRun position run = nodesOrFault position run parts fault := by
    rw [nodesOfRun, stretched]
    exact cuts.nodesFrom_eq position
  refine ⟨parts, fault, fun parts' fault' => ⟨fun other => cuts.unique other, ?_⟩, ?_, ?_⟩
  · rintro ⟨rfl, rfl⟩
    exact cuts
  · have whole := flatMap_source_segments run
    rwa [stretched, List.flatMap_map] at whole
  · simp only [Draft.flush]
    rw [show nodesOfRun position (unmasked stretches.reverse.flatten) = _ from nodes]
    cases fault <;> rfl

end Assembly

end SfcLint
