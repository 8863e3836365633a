/-
# Closed texts

A text is closed when nothing in it waits for what follows: its brackets are nested, its last
literal has come to its end, and outside its brackets and literals none of certain signs stands. So
a closed text has the same lexemes wherever it stands, and a list is not split within it.
-/

import Mathlib.Data.Bool.AllAny
import SfcLint.Proofs.Script.Pieces

namespace SfcLint.Script

variable {signs t after : Text} {front back later : List Lexeme} {lexeme : Lexeme}

/-- The brackets are nested, and outside them none of the signs is a lexeme. -/
inductive NestedWithout (signs : Text) : List Lexeme → Prop
  | nil : NestedWithout signs []
  | pass {lexeme : Lexeme} {later : List Lexeme} :
      lexeme.isBracket = false → (∀ c ∈ signs, lexeme ≠ .mark c) → NestedWithout signs later →
        NestedWithout signs (lexeme :: later)
  | group (kind : Bracket) {inner later : List Lexeme} :
      Nested inner → NestedWithout signs later →
        NestedWithout signs (.mark kind.opener :: (inner ++ .mark kind.closer :: later))

/-- The brackets of the text are nested, none of the signs stands outside its brackets and literals,
and its last literal has come to its end, so that nothing that follows belongs to it. Of the other
literals this need not be said, for something follows them. -/
structure Closed (signs t : Text) : Prop where
  nested : NestedWithout signs (lexemes t)
  ended : ∀ literal, (lexemes t).getLast? = some (.literal literal) → ∀ after, Literal literal after

/-- The text and what follows it do not begin a comment together. -/
def Apart (t after : Text) : Prop :=
  t.getLast? = some '/' → ∀ c, after.head? = some c → c ≠ '/' ∧ c ≠ '*'

theorem apart_cons {c : Char} (slash : c ≠ '/') (star : c ≠ '*') (t after : Text) :
    Apart t (c :: after) := by
  rintro - d first
  obtain rfl := Option.some.inj first
  exact ⟨slash, star⟩

theorem apart_of_not_mem (noSlash : '/' ∉ t) (after : Text) : Apart t after :=
  fun last => absurd (List.mem_of_getLast? last) noSlash

theorem apart_concat {c : Char} (slash : c ≠ '/') (t after : Text) : Apart (t ++ [c]) after := by
  intro last
  rw [List.getLast?_append, List.getLast?_singleton, Option.some_or, Option.some.injEq] at last
  exact absurd last slash

/-! ## Lexemes of two texts -/

/-- Of the lexemes of a text only the last one could change when another text follows. -/
theorem Lexing.append (lexing : Lexing t front)
    (last : ∀ lexeme, front.getLast? = some lexeme →
      ∃ later, Lexing (lexeme.text ++ after) (lexeme :: later))
    (rest : Lexing after back) : Lexing (t ++ after) (front ++ back) := by
  induction front generalizing t with
  | nil =>
    obtain rfl : t = [] := lexing.text_eq.symm
    exact rest
  | cons lexeme front ih =>
    have behind : Lexing (textOf front) front := lexing.tail
    rw [← lexing.text_eq, textOf_cons, List.append_assoc]
    -- What follows a lexeme matters only by its first character, which is another one only behind
    -- the last lexeme.
    cases front with
    | nil =>
      obtain ⟨later, found⟩ := last lexeme rfl
      have same : textOf later = after :=
        List.append_cancel_left (by rw [← textOf_cons, found.text_eq])
      exact lexing_cons_follow found (mayFollow_of_head_eq (by rw [same]; rfl)) rest
    | cons next front =>
      refine lexing_cons_follow lexing (mayFollow_of_head_eq ?_) (ih behind last)
      generalize textOf (next :: front) = u at behind
      cases behind with
      | mark => rfl
      | literal literal =>
        obtain ⟨c, taken, rfl⟩ := List.exists_cons_of_ne_nil literal.ne_nil
        rfl

theorem Lexing.startsLiteral_mark {c : Char} (lexing : Lexing t (.mark c :: later)) :
    startsLiteral t = false := by
  cases lexing
  assumption

/-- Only a slash could begin a literal together with what follows it. -/
theorem startsLiteral_cons {c : Char} (plain : startsLiteral [c] = false)
    (apart : Apart [c] after) : startsLiteral (c :: after) = false := by
  rw [← Bool.not_eq_true]
  intro starts
  unfold startsLiteral at starts
  -- A quote begins a literal alone, against the hypothesis, and a slash only before one of its two
  -- signs.
  split at starts
  next same =>
    obtain ⟨rfl, -⟩ := List.cons.inj same
    contradiction
  next same =>
    obtain ⟨rfl, -⟩ := List.cons.inj same
    contradiction
  next same =>
    obtain ⟨rfl, -⟩ := List.cons.inj same
    contradiction
  next same =>
    obtain ⟨rfl, rfl⟩ := List.cons.inj same
    exact (apart rfl _ rfl).1 rfl
  next same =>
    obtain ⟨rfl, rfl⟩ := List.cons.inj same
    exact (apart rfl _ rfl).2 rfl
  next => contradiction

/-- A closed text has its lexemes before any text. -/
theorem Closed.lexemes_append (closed : Closed signs t) (apart : Apart t after) :
    lexemes (t ++ after) = lexemes t ++ lexemes after := by
  refine ((lexing_lexemes t).append ?_ (lexing_lexemes after)).eq_lexemes.symm
  intro lexeme last
  obtain ⟨front, split⟩ := List.getLast?_eq_some_iff.mp last
  -- The last lexeme stays one before any text: a literal has ended, and a slash is kept apart.
  have alone := lexing_lexemes t
  rw [split] at alone
  refine ⟨lexemes after, ?_⟩
  cases lexeme with
  | literal literal => exact .literal (closed.ended literal last after) (lexing_lexemes after)
  | mark c =>
    have final : t.getLast? = some c := by
      rw [← alone.text_eq, textOf_append, List.getLast?_append]
      rfl
    have itself : Lexing [c] [.mark c] := alone.drop
    have apart' : Apart [c] after := fun slash => apart (final.trans slash)
    exact .mark (startsLiteral_cons itself.startsLiteral_mark apart') (lexing_lexemes after)

/-! ## Texts that are closed -/

theorem NestedWithout.nested (nested : NestedWithout signs front) : Nested front := by
  induction nested with
  | nil => exact .nil
  | pass plain _ _ ih => exact .pass plain ih
  | group kind inner _ ih => exact .group kind inner ih

theorem NestedWithout.append (first : NestedWithout signs front)
    (second : NestedWithout signs back) : NestedWithout signs (front ++ back) := by
  induction first with
  | nil => exact second
  | pass plain other _ ih => exact .pass plain other ih
  | group kind inner _ ih =>
    rw [List.cons_append, List.append_assoc, List.cons_append]
    exact .group kind inner ih

theorem closed_nil : Closed signs [] := ⟨.nil, fun _ none => by contradiction⟩

theorem Closed.append {t' : Text} (closed : Closed signs t) (closed' : Closed signs t')
    (apart : Apart t t') : Closed signs (t ++ t') where
  nested := by
    rw [closed.lexemes_append apart]
    exact closed.nested.append closed'.nested
  ended := by
    intro literal last
    rw [closed.lexemes_append apart, List.getLast?_append, Option.or_eq_some_iff] at last
    rcases last with last | ⟨-, last⟩
    · exact closed'.ended literal last
    · exact closed.ended literal last

/-- No literal begins with the character. -/
def BeginsNoLiteral (c : Char) : Prop := c ≠ '\'' ∧ c ≠ '"' ∧ c ≠ '\x60' ∧ c ≠ '/'

instance : DecidablePred BeginsNoLiteral := fun c =>
  inferInstanceAs (Decidable (c ≠ '\'' ∧ c ≠ '"' ∧ c ≠ '\x60' ∧ c ≠ '/'))

theorem lexemes_cons_of_beginsNoLiteral {c : Char} (plain : BeginsNoLiteral c) (t : Text) :
    lexemes (c :: t) = .mark c :: lexemes t := by
  refine lexemes_of_mark (Nat.eq_zero_of_not_pos fun starts => ?_)
  rw [literalLength_pos_iff] at starts
  unfold startsLiteral at starts
  obtain ⟨single, double, back, slash⟩ := plain
  split at starts <;> simp_all

/-- Characters with which no literal begins are lexemes, one by one. -/
theorem lexemes_append_of_beginsNoLiteral (plain : ∀ c ∈ t, BeginsNoLiteral c) (after : Text) :
    lexemes (t ++ after) = t.map .mark ++ lexemes after := by
  induction t with
  | nil => rfl
  | cons c t ih =>
    rw [List.forall_mem_cons] at plain
    rw [List.cons_append, lexemes_cons_of_beginsNoLiteral plain.1, ih plain.2]
    rfl

theorem lexemes_of_beginsNoLiteral (plain : ∀ c ∈ t, BeginsNoLiteral c) :
    lexemes t = t.map .mark := by
  have whole := lexemes_append_of_beginsNoLiteral plain []
  rwa [List.append_nil, lexemes_nil, List.append_nil] at whole

/-- A text without literals is closed when its brackets are nested. -/
theorem closed_of_marks (plain : ∀ c ∈ t, BeginsNoLiteral c)
    (nested : NestedWithout signs (t.map .mark)) : Closed signs t := by
  have marks := lexemes_of_beginsNoLiteral plain
  constructor
  · rwa [marks]
  · intro literal last
    rw [marks] at last
    obtain ⟨c, -, same⟩ := List.mem_map.mp (List.mem_of_getLast? last)
    contradiction

theorem closed_of_beginsNoLiteral
    (plain : ∀ c ∈ t, BeginsNoLiteral c ∧ (Lexeme.mark c).isBracket = false ∧ c ∉ signs) :
    Closed signs t := by
  refine closed_of_marks (fun c member => (plain c member).1) ?_
  induction t with
  | nil => exact .nil
  | cons c t ih =>
    rw [List.forall_mem_cons] at plain
    refine .pass plain.1.2.1 ?_ (ih plain.2)
    rintro d listed same
    obtain rfl := Lexeme.mark.inj same
    exact plain.1.2.2 listed

/-- A text between quotes that needs no backslash is a string. -/
theorem quotedTail_of_plain {quote : Char} (noQuote : quote ∉ t) (noEscape : '\\' ∉ t)
    (inLine : '\n' ∉ t) (after : Text) : QuotedTail quote (t ++ [quote]) after := by
  induction t with
  | nil => exact .closed after
  | cons c t ih =>
    rw [List.mem_cons, not_or] at noQuote noEscape inLine
    exact .other (Ne.symm noEscape.1) (Ne.symm noQuote.1) (Ne.symm inLine.1)
      (ih noQuote.2 noEscape.2 inLine.2)

/-- A literal that has come to its end is a closed text. -/
theorem closed_of_literal (literal : ∀ after, Literal t after) :
    Closed signs t := by
  have alone : lexemes t = [.literal t] := by
    have lexing := Lexing.literal (literal []) .nil
    rw [List.append_nil] at lexing
    exact lexing.eq_lexemes.symm
  constructor
  · rw [alone]
    exact .pass rfl (fun _ _ => nofun) .nil
  · intro other last
    rw [alone] at last
    obtain rfl := Lexeme.literal.inj (Option.some.inj last)
    exact literal

/-- Of a given text this can be evaluated. -/
theorem closed_of_all (plain : t.all fun c =>
    decide (BeginsNoLiteral c ∧ (Lexeme.mark c).isBracket = false ∧ c ∉ signs)) : Closed signs t :=
  closed_of_beginsNoLiteral (List.all_iff_forall_prop.mp plain)

/-- A character of a sort that has no such sign in it begins no literal and is no bracket. -/
theorem plain_of_test {test : Char → Bool}
    (refused : ∀ d ∈ "'\"`/()[]\x7b\x7d".toList ++ signs, test d = false) {c : Char}
    (passes : test c = true) :
    BeginsNoLiteral c ∧ (Lexeme.mark c).isBracket = false ∧ c ∉ signs := by
  have other {d : Char} (sign : d ∈ "'\"`/()[]\x7b\x7d".toList ++ signs) : c ≠ d := by
    rintro rfl
    rw [refused _ sign] at passes
    contradiction
  have differs {d : Char} (sign : d ∈ "'\"`/()[]\x7b\x7d".toList) : c ≠ d :=
    other (List.mem_append_left _ sign)
  refine ⟨⟨differs (by decide), differs (by decide), differs (by decide), differs (by decide)⟩,
    ?_, fun listed => other (List.mem_append_right _ listed) rfl⟩
  rw [Lexeme.isBracket, Bool.or_eq_false_iff, Option.isSome_eq_false_iff,
    Option.isSome_eq_false_iff, Option.isNone_iff_eq_none, Option.isNone_iff_eq_none]
  constructor
  · rw [Option.eq_none_iff_forall_ne_some]
    intro kind opens
    have same := Bracket.opened?_eq_some_iff.mp opens
    cases kind <;> exact differs (by decide) same
  · rw [Option.eq_none_iff_forall_ne_some]
    intro kind closes
    have same := Bracket.closed?_eq_some_iff.mp closes
    cases kind <;> exact differs (by decide) same

theorem closed_of_blanks (visible : ∀ d ∈ signs, Text.isBlank d = false)
    (blank : ∀ c ∈ t, Text.isBlank c = true) : Closed signs t := by
  have refused : ∀ d ∈ "'\"`/()[]\x7b\x7d".toList ++ signs, Text.isBlank d = false :=
    List.forall_mem_append.mpr ⟨List.all_iff_forall_prop.mp (by decide), visible⟩
  exact closed_of_beginsNoLiteral fun c member => plain_of_test refused (blank c member)

/-- A closed text in brackets is closed, also if signs stand in it. -/
theorem Closed.group {signs' : Text} (closed : Closed signs' t) (kind : Bracket) :
    Closed signs (kind.opener :: (t ++ [kind.closer])) := by
  have whole : lexemes (kind.opener :: (t ++ [kind.closer])) =
      .mark kind.opener :: (lexemes t ++ .mark kind.closer :: []) := by
    have apart : Apart t [kind.closer] := by
      cases kind <;> exact apart_cons (by decide) (by decide) t []
    have last : lexemes [kind.closer] = [.mark kind.closer] := by
      cases kind <;> rfl
    rw [lexemes_opener, closed.lexemes_append apart, last]
  constructor
  · rw [whole]
    exact .group kind closed.nested.nested .nil
  · intro literal last
    rw [whole, ← List.cons_append, List.getLast?_append] at last
    exact absurd (Option.some.inj last) nofun

/-! ## Closed texts in a list -/

section

variable {depth : Nat}

theorem splitLexemes_pass (plain : lexeme.isBracket = false)
    (inside : depth ≠ 0 ∨ lexeme ≠ .mark ',') (later : List Lexeme) :
    splitLexemes depth (lexeme :: later) = prepend [lexeme] (splitLexemes depth later) := by
  cases lexeme with
  | literal t => rfl
  | mark c =>
    rw [Lexeme.isBracket, Bool.or_eq_false_iff] at plain
    rw [splitLexemes, if_neg (by simp [plain.1]), if_neg (by simp [plain.2]), if_neg]
    rintro ⟨outermost, rfl⟩
    exact inside.elim (fun deeper => deeper outermost) fun other => other rfl

theorem splitLexemes_opener (kind : Bracket) (depth : Nat) (later : List Lexeme) :
    splitLexemes depth (.mark kind.opener :: later) =
      prepend [.mark kind.opener] (splitLexemes (depth + 1) later) := by
  simp [splitLexemes]

theorem splitLexemes_closer (kind : Bracket) (depth : Nat) (later : List Lexeme) :
    splitLexemes (depth + 1) (.mark kind.closer :: later) =
      prepend [.mark kind.closer] (splitLexemes depth later) := by
  simp [splitLexemes]

/-- Within a bracket no comma separates, and nested lexemes keep the depth. -/
theorem Nested.splitLexemes_append (nested : Nested front) (depth : Nat) (later : List Lexeme) :
    splitLexemes (depth + 1) (front ++ later) = prepend front (splitLexemes (depth + 1) later) := by
  induction nested generalizing depth later with
  | nil => exact (prepend_nil (splitLexemes_ne_nil _ _)).symm
  | pass plain _ ih =>
    rw [List.cons_append, splitLexemes_pass plain (.inl depth.succ_ne_zero), ih, ← prepend_append]
    rfl
  | group kind _ _ ihInner ihLater =>
    rw [List.cons_append, List.append_assoc, List.cons_append, splitLexemes_opener, ihInner,
      splitLexemes_closer, ihLater, ← prepend_append, ← prepend_append, ← prepend_append]
    simp

/-- Lexemes among which no comma stands outside brackets are not split. -/
theorem NestedWithout.splitLexemes_append (nested : NestedWithout [','] front)
    (later : List Lexeme) :
    splitLexemes 0 (front ++ later) = prepend front (splitLexemes 0 later) := by
  induction nested with
  | nil => exact (prepend_nil (splitLexemes_ne_nil _ _)).symm
  | pass plain other _ ih =>
    rw [List.cons_append, splitLexemes_pass plain (.inr (other _ List.mem_cons_self)), ih,
      ← prepend_append]
    rfl
  | group kind inner _ ih =>
    rw [List.cons_append, List.append_assoc, List.cons_append, splitLexemes_opener,
      inner.splitLexemes_append, splitLexemes_closer, ih, ← prepend_append, ← prepend_append,
      ← prepend_append]
    simp

end

theorem splitLexemes_of_closed (closed : Closed [','] t) (later : List Lexeme) :
    splitLexemes 0 (lexemes t ++ .mark ',' :: later) = lexemes t :: splitLexemes 0 later := by
  have comma : splitLexemes 0 (.mark ',' :: later) = [] :: splitLexemes 0 later := rfl
  rw [closed.nested.splitLexemes_append, comma, prepend, List.append_nil]

theorem stretches_blank (t : Text) :
    stretches [','] (' ' :: t) = prepend [' '] (stretches [','] t) := by
  have blank : lexemes (' ' :: t) = .mark ' ' :: lexemes t := lexemes_of_mark rfl
  rw [stretches_eq, stretches_eq, blank, splitLexemes_pass (by decide) (.inr (by decide)),
    map_textOf_prepend]
  rfl

/-- **Closed texts in a list are its stretches**, with the blanks behind the commas. -/
theorem stretches_join {first : Text} {others : List Text}
    (closed : ∀ t ∈ first :: others, Closed [','] t) :
    stretches [','] (Text.join ", " (first :: others)) = first :: others.map (' ' :: ·) := by
  induction others generalizing first with
  | nil =>
    have alone := (closed first List.mem_cons_self).nested.splitLexemes_append []
    rw [List.append_nil] at alone
    rw [Text.join_singleton, stretches_eq, alone]
    simp [splitLexemes, prepend, textOf_lexemes]
  | cons next others ih =>
    rw [List.forall_mem_cons] at closed
    have comma (t : Text) : lexemes (',' :: t) = .mark ',' :: lexemes t := lexemes_of_mark rfl
    have apart (t : Text) : Apart first (',' :: t) := apart_cons (by decide) (by decide) _ _
    have separator (t : Text) : ", ".toList ++ t = ',' :: ' ' :: t := rfl
    rw [Text.join_cons_cons, separator, stretches_eq, closed.1.lexemes_append (apart _), comma,
      splitLexemes_of_closed closed.1, List.map_cons, ← stretches_eq, stretches_blank,
      ih closed.2, textOf_lexemes]
    rfl

/-- The texts one behind the other from an offset on, with a comma and a space between them. -/
def piecesAt : Nat → List Text → List Piece
  | _, [] => []
  | offset, t :: others => ⟨offset, t⟩ :: piecesAt (offset + t.length + 2) others

/-- A text without blanks around it is one piece, and the blank before it only moves it. -/
theorem piecesFrom_trimmed (trimmed : Text.Trimmed t) (offset : Nat) (others : List Text) :
    piecesFrom 1 offset (t :: others) = ⟨offset, t⟩ :: piecesFrom 1 (offset + t.length + 1) others ∧
      piecesFrom 1 offset ((' ' :: t) :: others) =
        ⟨offset + 1, t⟩ :: piecesFrom 1 (offset + 1 + t.length + 1) others := by
  obtain ⟨whole, width⟩ := trimmed.strip_eq
  have blank : ∀ c ∈ [' '], Text.isBlank c = true := Text.isBlank_space
  have behind : Text.strip (' ' :: t) = t := by
    rw [Text.strip, ← List.singleton_append, Text.stripStart_blanks blank]
    exact whole
  have moved : Text.blankWidth (' ' :: t) = Text.blankWidth t + 1 := rfl
  have place : offset + (t.length + 1) + 1 = offset + 1 + t.length + 1 := by omega
  constructor
  · rw [piecesFrom_cons, whole, width, if_neg trimmed.nonempty]
    rfl
  · rw [piecesFrom_cons, behind, moved, width, if_neg trimmed.nonempty, List.length_cons, place]

/-- **A list of closed texts is split into these texts**, each where it stands. -/
theorem splitSpans_join {texts : List Text} (closed : ∀ t ∈ texts, Closed [','] t)
    (trimmed : ∀ t ∈ texts, Text.Trimmed t) :
    splitSpans (Text.join ", " texts) [','] = piecesAt 0 texts := by
  have behind (others : List Text) (trimmed : ∀ t ∈ others, Text.Trimmed t) (offset : Nat) :
      piecesFrom 1 offset (others.map (' ' :: ·)) = piecesAt (offset + 1) others := by
    induction others generalizing offset with
    | nil => rfl
    | cons t others ih =>
      rw [List.forall_mem_cons] at trimmed
      rw [List.map_cons, (piecesFrom_trimmed trimmed.1 offset _).2, ih trimmed.2, piecesAt]
  cases texts with
  | nil => rfl
  | cons first others =>
    rw [List.forall_mem_cons] at trimmed
    rw [splitSpans, stretches_join closed]
    exact ((piecesFrom_trimmed trimmed.1 0 _).1).trans
      (congrArg (_ :: ·) (behind others trimmed.2 _))

end SfcLint.Script
