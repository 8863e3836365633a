/-
# Matching brackets

Brackets are matched as the grammar says: the bracket that opens at a place is closed where nested
lexemes and then the closing bracket of its kind end, and nowhere when the lexemes from there on
do not start so. Spans and blocks are parts of the text between two such brackets.
-/

import Mathlib.Data.List.Basic
import SfcLint.Proofs.Script.Reading

namespace SfcLint.Script

/-- A text that starts with an opening bracket has it as its first lexeme. -/
theorem lexemes_opener (kind : Bracket) (t : Text) :
    lexemes (kind.opener :: t) = .mark kind.opener :: lexemes t := by
  refine lexemes_of_mark ?_
  cases kind <;> rfl

theorem drop_eq_cons {t : Text} {place : Nat} {c : Char} (here : t[place]? = some c) :
    t.drop place = c :: t.drop (place + 1) := by
  obtain ⟨within, rfl⟩ := List.getElem?_eq_some_iff.mp here
  exact List.drop_eq_getElem_cons within

theorem encloses_iff {t : Text} {start stop : Nat} {kind : Bracket}
    (opens : t[start]? = some kind.opener) :
    Encloses t start stop ↔
      ∃ inner, Closes kind (lexemes (t.drop (start + 1))) inner ∧
        stop = start + (textOf inner).length + 1 := by
  have first := lexemes_opener kind (t.drop (start + 1))
  rw [← drop_eq_cons opens] at first
  constructor
  · rintro ⟨other, later, inner, lexing, closes, rfl⟩
    have same := lexing.eq_lexemes
    rw [first, List.cons.injEq, Lexeme.mark.injEq] at same
    obtain ⟨sameOpener, rfl⟩ := same
    have sameKind : kind = other := by
      have := Bracket.opened?_opener kind
      rw [← sameOpener, Bracket.opened?_opener, Option.some.injEq] at this
      exact this.symm
    exact ⟨inner, sameKind ▸ closes, rfl⟩
  · rintro ⟨inner, closes, rfl⟩
    exact ⟨kind, _, inner, first ▸ lexing_lexemes _, closes, rfl⟩

theorem spanAt?_opener {t : Text} {start : Nat} {kind : Bracket}
    (opens : t[start]? = some kind.opener) :
    spanAt? t start =
      (lexemeClosing [kind] (lexemes (t.drop (start + 1)))).map fun n =>
        ⟨start, start + n, (t.drop (start + 1)).take (n - 1)⟩ := by
  rw [spanAt?, drop_eq_cons opens, ← closing_brackets]
  simp

/-- An enclosed part of a text: the opening bracket, the inner lexemes and the closing bracket. -/
theorem Encloses.exists_split {t : Text} {start stop : Nat} (encloses : Encloses t start stop) :
    ∃ (kind : Bracket) (inner : List Lexeme) (after : Text),
      t.drop start = kind.opener :: (textOf inner ++ kind.closer :: after) ∧
        stop = start + (textOf inner).length + 1 := by
  obtain ⟨kind, later, inner, lexing, ⟨-, behind, rfl⟩, place⟩ := encloses
  refine ⟨kind, inner, textOf behind, ?_, place⟩
  rw [← lexing.text_eq]
  simp [Lexeme.text]

/-- The two brackets stand inside the text, the closing one behind the opening one, and they are of
one kind. -/
theorem Encloses.brackets {t : Text} {start stop : Nat} (encloses : Encloses t start stop) :
    start < stop ∧ stop < t.length ∧
      ∃ kind : Bracket, t[start]? = some kind.opener ∧ t[stop]? = some kind.closer := by
  obtain ⟨kind, inner, after, split, rfl⟩ := encloses.exists_split
  have opens : t[start]? = some kind.opener := by
    have first := congrArg (·[0]?) split
    simpa using first
  have closes : t[start + (textOf inner).length + 1]? = some kind.closer := by
    have last := congrArg (·[(textOf inner).length + 1]?) split
    simpa [Nat.add_assoc] using last
  exact ⟨by omega, (List.getElem?_eq_some_iff.mp closes).1, kind, opens, closes⟩

/-- A span is found exactly where the grammar sees a bracket closed. -/
theorem spanAt?_eq_some_iff {t : Text} {start : Nat} {span : Span} :
    spanAt? t start = some span ↔
      span.start = start ∧ Encloses t start span.stop ∧
        span.body = t.slice (start + 1) span.stop := by
  constructor
  · intro found
    obtain ⟨kind, opens⟩ : ∃ kind : Bracket, t[start]? = some kind.opener := by
      rw [spanAt?] at found
      split at found
      · contradiction
      next c rest split =>
        cases opens : Bracket.opened? c with
        | none => simp [opens] at found
        | some kind =>
          obtain rfl := Bracket.opened?_eq_some_iff.mp opens
          have first := congrArg (·[0]?) split
          exact ⟨kind, by simpa using first⟩
    rw [spanAt?_opener opens, Option.map_eq_some_iff] at found
    obtain ⟨n, ends, rfl⟩ := found
    obtain ⟨inner, closes, rfl⟩ := lexemeClosing_eq_some_iff.mp ends
    refine ⟨rfl, (encloses_iff opens).mpr ⟨inner, closes, by simp [Nat.add_assoc]⟩, ?_⟩
    simp only [Text.slice]
    congr 1
    omega
  · obtain ⟨first, stop, body⟩ := span
    rintro ⟨sameStart, encloses, sameBody⟩
    dsimp only at sameStart encloses sameBody
    subst sameStart sameBody
    obtain ⟨-, -, kind, opens, -⟩ := encloses.brackets
    obtain ⟨inner, closes, rfl⟩ := (encloses_iff opens).mp encloses
    rw [spanAt?_opener opens, lexemeClosing_eq_some_iff.mpr ⟨inner, closes, rfl⟩]
    simp only [Option.map_some, Option.some.injEq, Span.mk.injEq, true_and, Text.slice]
    exact ⟨by omega, by congr 1; omega⟩

theorem matching?_opener {t : Text} {start : Nat} {kind : Bracket}
    (opens : t[start]? = some kind.opener) :
    matching? t start = .ok ((spanAt? t start).map (·.stop)) := by
  have found : matching? t (Int.ofNat start) = .ok ((spanAt? t start).map (·.stop)) := by
    simp [matching?, opens]
  exact found

theorem map_stop_spanAt?_eq_some_iff {t : Text} {start stop : Nat} :
    (spanAt? t start).map (·.stop) = some stop ↔ Encloses t start stop := by
  rw [Option.map_eq_some_iff]
  constructor
  · rintro ⟨span, found, rfl⟩
    exact (spanAt?_eq_some_iff.mp found).2.1
  · intro encloses
    exact ⟨⟨start, stop, t.slice (start + 1) stop⟩,
      spanAt?_eq_some_iff.mpr ⟨rfl, encloses, rfl⟩, rfl⟩

/-- Blocks are spans that start with the bracket that was asked for. -/
theorem exists_spanAt?_of_block {t : Text} {place : Nat} {opener : Char} {span : Span}
    (found : blockAfter? t place opener = some span ∨ blockAt? t place opener = some span) :
    spanAt? t span.start = some span := by
  have self {start : Nat} (found : spanAt? t start = some span) :
      spanAt? t span.start = some span := by
    rw [(spanAt?_eq_some_iff.mp found).1]
    exact found
  rcases found with found | found
  · rw [blockAfter?, Option.bind_eq_some_iff] at found
    obtain ⟨n, -, found⟩ := found
    exact self found
  · rw [blockAt?] at found
    split at found
    · exact self found
    · contradiction

/-- **Brackets are matched as the grammar says.** A bracket is closed at a place exactly when nested
lexemes stand between the two, and it is not closed exactly when there is no such place. Every span
and every block lies between two such brackets. -/
theorem matching?_exact (t : Text) :
    (∀ (start : Nat) (kind : Bracket), t[start]? = some kind.opener →
      (∀ stop : Nat, matching? t start = .ok (some stop) ↔ Encloses t start stop) ∧
        (matching? t start = .ok none ↔ ∀ stop, ¬ Encloses t start stop)) ∧
      ∀ span : Span,
        (∃ (place : Nat) (opener : Char), spanAt? t place = some span ∨
          blockAfter? t place opener = some span ∨ blockAt? t place opener = some span) →
        span.start < span.stop ∧ span.stop < t.length ∧
          Encloses t span.start span.stop ∧ span.body = t.slice (span.start + 1) span.stop ∧
            ∃ kind : Bracket,
              t[span.start]? = some kind.opener ∧ t[span.stop]? = some kind.closer := by
  constructor
  · intro start kind opens
    rw [matching?_opener opens]
    simp only [Except.ok.injEq, map_stop_spanAt?_eq_some_iff, true_and, implies_true]
    rw [Option.eq_none_iff_forall_ne_some]
    exact forall_congr' fun stop => not_congr map_stop_spanAt?_eq_some_iff
  · rintro span ⟨place, opener, found⟩
    have here : spanAt? t span.start = some span := by
      rcases found with found | block
      · rw [(spanAt?_eq_some_iff.mp found).1]
        exact found
      · exact exists_spanAt?_of_block block
    obtain ⟨-, encloses, body⟩ := spanAt?_eq_some_iff.mp here
    obtain ⟨ordered, within, kinds⟩ := encloses.brackets
    exact ⟨ordered, within, encloses, body, kinds⟩

/-- Braces in a string, in a template string and in a comment. -/
def bracesInLiterals : Text := "\x7b a: '\x7d', b: `$\x7bx\x7d\x7d`, /* \x7d */ c: 1 // \x7d\n\x7d"

/-- Brackets in literals are passed over. -/
theorem matching?_exact_literals :
    bracesInLiterals[0]? = some Bracket.curly.opener ∧
      matching? bracesInLiterals 0 = .ok (some 40) ∧ Encloses bracesInLiterals 0 40 ∧
        ∃ span, blockAfter? bracesInLiterals 0 '{' = some span ∧
          span.stop < bracesInLiterals.length := by
  have opens : bracesInLiterals[0]? = some Bracket.curly.opener := by cbv
  have found : matching? bracesInLiterals 0 = .ok (some 40) := by cbv
  have block : (blockAfter? bracesInLiterals 0 '{').isSome := by cbv
  obtain ⟨span, block⟩ := Option.isSome_iff_exists.mp block
  have encloses : Encloses bracesInLiterals 0 40 :=
    (((matching?_exact _).1 0 .curly opens).1 40).mp (by simpa using found)
  have inside := (matching?_exact _).2 span ⟨0, '{', .inr (.inl block)⟩
  exact ⟨opens, found, encloses, span, block, inside.2.1⟩

end SfcLint.Script
