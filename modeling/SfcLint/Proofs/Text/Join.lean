/-
# Joined texts and their pieces

Texts are joined with a separator between any two neighbours. So each of them stands in the joined
text behind those before it and as many separators. A text is cut at every separator: no piece has
one, a text that is joined from two texts with a separator between them is cut into the pieces of
both, and pieces without separators come back when they have been joined.
-/

import Mathlib.Algebra.GroupWithZero.Nat
import SfcLint.Proofs.Text.Position
import SfcLint.Text.Basic

namespace SfcLint.Text

/-! ## Pieces put together -/

theorem join_singleton (separator piece : Text) : join separator [piece] = piece := by
  simp [join]

theorem join_cons_cons (separator piece next : Text) (pieces : List Text) :
    join separator (piece :: next :: pieces) =
      piece ++ (separator ++ join separator (next :: pieces)) := by
  simp [join]

/-- The joined text starts with the first piece. -/
theorem prefix_join (separator piece : Text) (pieces : List Text) :
    piece <+: join separator (piece :: pieces) := by
  cases pieces with
  | nil => exact List.prefix_append piece []
  | cons next pieces =>
    rw [join_cons_cons]
    exact List.prefix_append _ _

theorem join_append (separator : Text) {front back : List Text} (held : front ≠ [])
    (heldBack : back ≠ []) :
    join separator (front ++ back) =
      join separator front ++ (separator ++ join separator back) := by
  induction front with
  | nil => contradiction
  | cons first front ih =>
    obtain ⟨next, rest, split⟩ := List.exists_cons_of_ne_nil heldBack
    cases front with
    | nil => rw [split, List.singleton_append, join_cons_cons, join_singleton]
    | cons second front =>
      rw [List.cons_append, List.cons_append, join_cons_cons, ← List.cons_append,
        ih (List.cons_ne_nil second front), join_cons_cons]
      simp

/-- How far it is to the end of the last of some pieces and of the separator behind it. -/
def joinWidth (gap : Nat) (pieces : List Text) : Nat :=
  (pieces.map fun piece => piece.length + gap).sum

@[simp]
theorem joinWidth_nil (gap : Nat) : joinWidth gap [] = 0 := rfl

theorem joinWidth_append (gap : Nat) (front back : List Text) :
    joinWidth gap (front ++ back) = joinWidth gap front + joinWidth gap back := by
  simp [joinWidth]

theorem joinWidth_cons (gap : Nat) (piece : Text) (pieces : List Text) :
    joinWidth gap (piece :: pieces) = piece.length + gap + joinWidth gap pieces := by
  simp [joinWidth]

/-- A piece starts in the joined text behind the pieces before it. -/
theorem exists_drop_join (separator : Text) (front : List Text) (piece : Text) (back : List Text) :
    ∃ rest, (join separator (front ++ piece :: back)).drop (joinWidth separator.length front) =
      piece ++ rest := by
  induction front with
  | nil =>
    cases back with
    | nil => exact ⟨[], by simp [join, joinWidth]⟩
    | cons next back => exact ⟨_, join_cons_cons separator piece next back⟩
  | cons first front ih =>
    obtain ⟨rest, stands⟩ := ih
    refine ⟨rest, ?_⟩
    obtain ⟨next, later, split⟩ : ∃ next later, front ++ piece :: back = next :: later := by
      cases front with
      | nil => exact ⟨_, _, rfl⟩
      | cons next front => exact ⟨_, _, rfl⟩
    rw [List.cons_append, split, join_cons_cons, ← List.append_assoc, joinWidth_cons,
      ← List.length_append, ← List.drop_drop, List.drop_left, ← split, stands]

/-! ## Texts cut at a separator -/

variable {separator c : Char} {t piece : Text} {pieces : List Text}

theorem splitAt_cons_of_ne (other : c ≠ separator) (t : Text) :
    ∃ first rest, splitAt separator t = first :: rest ∧
      splitAt separator (c :: t) = (c :: first) :: rest := by
  obtain ⟨first, rest, split⟩ := List.exists_cons_of_ne_nil (splitAt_ne_nil separator t)
  refine ⟨first, rest, split, ?_⟩
  rw [splitAt, if_neg other, split]

theorem splitAt_append (separator : Char) (front back : Text) :
    splitAt separator (front ++ separator :: back) =
      splitAt separator front ++ splitAt separator back := by
  induction front with
  | nil => simp [splitAt]
  | cons c front ih =>
    by_cases same : c = separator
    · rw [List.cons_append, splitAt, if_pos same, ih, splitAt, if_pos same]
      rfl
    · obtain ⟨first, rest, split, longer⟩ := splitAt_cons_of_ne same front
      obtain ⟨whole, others, splitAll, longerAll⟩ :=
        splitAt_cons_of_ne same (front ++ separator :: back)
      -- The first piece of the whole is that of the front.
      rw [ih, split, List.cons_append] at splitAll
      obtain ⟨rfl, rfl⟩ := List.cons.inj splitAll
      rw [List.cons_append, longerAll, longer]
      rfl

theorem splitAt_join (held : pieces ≠ []) (whole : ∀ piece ∈ pieces, separator ∉ piece) :
    splitAt separator (join [separator] pieces) = pieces := by
  induction pieces with
  | nil => contradiction
  | cons first rest ih =>
    obtain ⟨firstWhole, restWhole⟩ := List.forall_mem_cons.mp whole
    cases rest with
    | nil => rw [join_singleton, splitAt_of_not_mem firstWhole]
    | cons next rest =>
      rw [join_cons_cons, List.singleton_append, splitAt_append, splitAt_of_not_mem firstWhole,
        ih (by simp) restWhole]
      rfl

/-- What stands in a piece stands in the text, and it is no separator. -/
theorem mem_of_mem_splitAt (cut : piece ∈ splitAt separator t) (inside : c ∈ piece) :
    c ∈ t ∧ c ≠ separator := by
  induction t generalizing piece with
  | nil =>
    obtain rfl := List.mem_singleton.mp cut
    contradiction
  | cons d t ih =>
    by_cases same : d = separator
    · rw [splitAt, if_pos same] at cut
      rcases List.mem_cons.mp cut with rfl | later
      · contradiction
      · exact (ih later inside).imp_left (List.mem_cons_of_mem d)
    · obtain ⟨first, rest, split, longer⟩ := splitAt_cons_of_ne same t
      rw [split] at ih
      rw [longer] at cut
      rcases List.mem_cons.mp cut with rfl | later
      · rcases List.mem_cons.mp inside with rfl | inside
        · exact ⟨List.mem_cons_self, same⟩
        · exact (ih List.mem_cons_self inside).imp_left (List.mem_cons_of_mem d)
      · exact (ih (List.mem_cons_of_mem first later) inside).imp_left (List.mem_cons_of_mem d)

theorem not_mem_of_mem_splitAt (cut : piece ∈ splitAt separator t) : separator ∉ piece :=
  fun inside => (mem_of_mem_splitAt cut inside).2 rfl

end SfcLint.Text
