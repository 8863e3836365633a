/-
# The length of an expression

An expression goes up to a comma, a semicolon or a closing bracket that is not its own. Its literals
and its groups in brackets are passed over, whatever stands in them.
-/

import SfcLint.Proofs.Script.Closed
import SfcLint.Script.Function

namespace SfcLint.Script

variable {t after : Text} {front later : List Lexeme} {c : Char}

theorem expressionLength_passing (passed after : Text) :
    expressionLength passed.length (passed ++ after) =
      passed.length + expressionLength 0 after := by
  induction passed with
  | nil => rw [List.length_nil, Nat.zero_add, List.nil_append]
  | cons c passed ih =>
    rw [List.length_cons, List.cons_append, expressionLength, ih]
    omega

theorem expressionLength_literal {taken : Text} (literal : Literal taken after) :
    expressionLength 0 (taken ++ after) = taken.length + expressionLength 0 after := by
  have length := literal.length_eq fun u found _ lexing => lexing.eq_lexemes
  obtain ⟨c, taken, rfl⟩ := List.exists_cons_of_ne_nil literal.ne_nil
  rw [List.cons_append, List.length_cons] at length
  rw [List.cons_append, expressionLength, length]
  dsimp only
  rw [expressionLength_passing, List.length_cons]
  omega

theorem expressionLength_mark (code : startsLiteral (c :: t) = false)
    (plain : (Lexeme.mark c).isBracket = false) (inside : c ∉ [',', ';']) :
    expressionLength 0 (c :: t) = expressionLength 0 t + 1 := by
  have length : literalLength (c :: t) = 0 := by
    refine Nat.eq_zero_of_not_pos fun starts => ?_
    rw [literalLength_pos_iff, code] at starts
    contradiction
  rw [Lexeme.isBracket, Bool.or_eq_false_iff, Option.isSome_eq_false_iff,
    Option.isNone_iff_eq_none] at plain
  simp only [List.mem_cons, List.not_mem_nil, or_false, not_or] at inside
  rw [expressionLength, length]
  dsimp only
  rw [plain.1]
  dsimp only
  rw [if_neg]
  simp [plain.2, inside]

theorem expressionLength_group (kind : Bracket) {inner : List Lexeme}
    (closes : Closes kind (lexemes t) inner) :
    expressionLength 0 (kind.opener :: t) =
      (textOf inner).length + 2 + expressionLength 0 (t.drop ((textOf inner).length + 1)) := by
  have length : literalLength (kind.opener :: t) = 0 := by
    cases kind <;> rfl
  have stop : closing 0 [.bracket kind] t = some ((textOf inner).length + 1) := by
    have walk := closing_brackets [kind] t
    rw [List.map_singleton, lexemeClosing_eq_some_iff.mpr ⟨inner, closes, rfl⟩] at walk
    exact walk
  have within := (closing_bounds stop).2
  have passing := expressionLength_passing (t.take ((textOf inner).length + 1))
    (t.drop ((textOf inner).length + 1))
  rw [List.take_append_drop, List.length_take, Nat.min_eq_left within] at passing
  rw [expressionLength, length]
  dsimp only
  rw [Bracket.opened?_opener]
  dsimp only
  rw [stop]
  dsimp only
  rw [passing]
  omega

/-- Nested lexemes without a comma or a semicolon outside their brackets belong to an expression. -/
theorem NestedWithout.expressionLength_eq (nested : NestedWithout [',', ';'] front)
    (lexing : Lexing t (front ++ later)) :
    expressionLength 0 t = (textOf front).length + expressionLength 0 (textOf later) := by
  induction nested generalizing t with
  | nil => rw [← lexing.text_eq, textOf_nil, List.length_nil, Nat.zero_add, List.nil_append]
  | pass plain other _ ih =>
    cases lexing with
    | mark code lexing =>
      have inside := fun listed => other _ listed rfl
      rw [expressionLength_mark code plain inside, ih lexing, textOf_cons]
      simp [Lexeme.text]
      omega
    | literal literal lexing =>
      rw [expressionLength_literal literal, ih lexing, textOf_cons]
      simp [Lexeme.text, Nat.add_assoc]
  | @group kind inner others nested _ ih =>
    -- The walk from the bracket ends behind its group, and the rest is read from there.
    rw [List.cons_append, List.append_assoc, List.cons_append] at lexing
    cases lexing with
    | @mark _ t _ _ lexing =>
      have behind : t.drop ((textOf inner).length + 1) = textOf (others ++ later) := by
        have split : t = (textOf inner ++ [kind.closer]) ++ textOf (others ++ later) := by
          rw [← lexing.text_eq]
          simp [Lexeme.text]
        have place : (textOf inner).length + 1 = (textOf inner ++ [kind.closer]).length := by simp
        rw [split, place, List.drop_left]
      have closes : Closes kind (lexemes t) inner := by
        refine ⟨nested, others ++ later, ?_⟩
        rw [← lexing.eq_lexemes]
        simp
      have parts : Lexing t (inner ++ [.mark kind.closer] ++ (others ++ later)) := by
        simpa using lexing
      rw [expressionLength_group kind closes, behind, ih parts.drop]
      simp [Lexeme.text]
      omega

/-- What follows an expression ends it: nothing, a comma, a semicolon or a closing bracket. -/
def EndsExpression (after : Text) : Prop :=
  ∀ c, after.head? = some c → c = ',' ∨ c = ';' ∨ ∃ kind : Bracket, c = kind.closer

theorem EndsExpression.visible (ends : EndsExpression after) (first : after.head? = some c) :
    Text.isBlank c = false ∧ c ≠ '\x7b' := by
  rcases ends c first with rfl | rfl | ⟨kind, rfl⟩
  · decide
  · decide
  · cases kind <;> decide

theorem expressionLength_of_ends (ends : EndsExpression after) : expressionLength 0 after = 0 := by
  cases after with
  | nil => rfl
  | cons c after =>
    rcases ends c rfl with rfl | rfl | ⟨kind, rfl⟩
    · rfl
    · rfl
    · cases kind <;> rfl

/-- An expression goes on to its end. -/
theorem expressionLength_closed (closed : Closed [',', ';'] t) (ends : EndsExpression after) :
    expressionLength 0 (t ++ after) = t.length := by
  have apart : Apart t after := by
    rintro - c first
    rcases ends c first with rfl | rfl | ⟨kind, rfl⟩
    · decide
    · decide
    · cases kind <;> decide
  have lexing : Lexing (t ++ after) (lexemes t ++ lexemes after) := by
    rw [← closed.lexemes_append apart]
    exact lexing_lexemes _
  rw [closed.nested.expressionLength_eq lexing, textOf_lexemes, textOf_lexemes,
    expressionLength_of_ends ends, Nat.add_zero]

theorem expressionLength_blanks {blanks : Text} (blank : ∀ c ∈ blanks, Text.isBlank c = true)
    (t : Text) : expressionLength 0 (blanks ++ t) = blanks.length + expressionLength 0 t := by
  have closed : Closed [',', ';'] blanks :=
    closed_of_blanks (List.all_iff_forall_prop.mp (by decide)) blank
  have noSlash : '/' ∉ blanks := fun slash => absurd (blank _ slash) (by decide)
  have lexing : Lexing (blanks ++ t) (lexemes blanks ++ lexemes t) := by
    rw [← closed.lexemes_append (apart_of_not_mem noSlash t)]
    exact lexing_lexemes _
  rw [closed.nested.expressionLength_eq lexing, textOf_lexemes, textOf_lexemes]

end SfcLint.Script
