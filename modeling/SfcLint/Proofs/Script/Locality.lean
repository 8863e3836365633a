/-
# Literals and what follows them

A literal is known by what it takes. Of what follows it only this matters: whether the text ends
there, and whether a line breaks there. So a literal stays one when something else follows it, and
the lexemes of a text stay its lexemes when others are blanked or cut off behind them.
-/

import SfcLint.Proofs.Script.Reading

namespace SfcLint.Script

/-- The second text may follow a lexeme where the first one does: it ends and breaks the line where
that does, and does not begin a comment sign that the first does not begin. -/
structure MayFollow (after after' : Text) : Prop where
  ends : after = [] → after' = []
  breaks : after.head? = some '\n' → after'.head? = some '\n'
  slash : after'.head? = some '/' → after.head? = some '/'
  star : after'.head? = some '*' → after.head? = some '*'

theorem mayFollow_of_head_eq {after after' : Text} (same : after'.head? = after.head?) :
    MayFollow after after' where
  ends := by
    rintro rfl
    simpa using same
  breaks here := same.trans here
  slash here := same.symm.trans here
  star here := same.symm.trans here

theorem QuotedTail.follow {quote : Char} {taken after after' : Text}
    (tail : QuotedTail quote taken after) (follows : MayFollow after after') :
    QuotedTail quote taken after' := by
  induction tail with
  | closed => exact .closed after'
  | beforeBreak =>
    obtain ⟨rest, rfl⟩ := List.head?_eq_some_iff.mp (follows.breaks rfl)
    exact .beforeBreak rest
  | textEnds =>
    obtain rfl := follows.ends rfl
    exact .textEnds
  | escape c _ ih => exact .escape c (ih follows)
  | escapeEnds =>
    obtain rfl := follows.ends rfl
    exact .escapeEnds
  | other plain notQuote inLine _ ih => exact .other plain notQuote inLine (ih follows)

theorem LineTail.follow {taken after after' : Text} (tail : LineTail taken after)
    (follows : MayFollow after after') : LineTail taken after' :=
  ⟨tail.1, tail.2.imp follows.ends follows.breaks⟩

theorem BlockTail.follow {taken after after' : Text} (tail : BlockTail taken after)
    (follows : MayFollow after after') : BlockTail taken after' := by
  cases tail with
  | closed _ unclosed => exact .closed after' unclosed
  | textEnds unclosed =>
    obtain rfl := follows.ends rfl
    exact .textEnds unclosed

/-- A character that starts no literal does not start one before something else either. -/
theorem startsLiteral_follow {c : Char} {after after' : Text}
    (plain : startsLiteral (c :: after) = false) (follows : MayFollow after after') :
    startsLiteral (c :: after') = false := by
  rw [← Bool.not_eq_true] at plain ⊢
  refine mt ?_ plain
  intro starts
  unfold startsLiteral at starts ⊢
  split at starts
  next same =>
    obtain ⟨rfl, -⟩ := List.cons.inj same
    rfl
  next same =>
    obtain ⟨rfl, -⟩ := List.cons.inj same
    rfl
  next same =>
    obtain ⟨rfl, -⟩ := List.cons.inj same
    rfl
  next same =>
    obtain ⟨rfl, rfl⟩ := List.cons.inj same
    obtain ⟨rest, rfl⟩ := List.head?_eq_some_iff.mp (follows.slash rfl)
    rfl
  next same =>
    obtain ⟨rfl, rfl⟩ := List.cons.inj same
    obtain ⟨rest, rfl⟩ := List.head?_eq_some_iff.mp (follows.star rfl)
    rfl
  next => contradiction

/-! ## Template strings -/

/-- Lexemes before a lexeme stay the same when the text behind that lexeme changes, if the literals
among them do. -/
theorem Lexing.replace {front : List Lexeme} {c : Char} {t : Text} {later : List Lexeme}
    (lexing : Lexing t (front ++ .mark c :: later))
    (shorter : ∀ taken after after', .literal taken ∈ front → Literal taken after →
      MayFollow after after' → Literal taken after')
    {after' : Text} {later' : List Lexeme} (rest : Lexing (c :: after') (.mark c :: later')) :
    Lexing (textOf front ++ c :: after') (front ++ .mark c :: later') := by
  induction front generalizing t with
  | nil => exact rest
  | cons lexeme front ih =>
    have inner (taken after after' : Text) (member : .literal taken ∈ front) :=
      shorter taken after after' (List.mem_cons_of_mem _ member)
    -- What follows the lexeme begins as before.
    have follows {after : Text} (behind : Lexing after (front ++ .mark c :: later)) :
        MayFollow after (textOf front ++ c :: after') := by
      refine mayFollow_of_head_eq ?_
      rw [← behind.text_eq, textOf_append, textOf_cons, Lexeme.text]
      cases textOf front <;> rfl
    cases lexing with
    | mark plain behind =>
      exact .mark (startsLiteral_follow plain (follows behind)) (ih behind inner)
    | literal literal behind =>
      rw [textOf_cons, Lexeme.text, List.append_assoc]
      exact .literal (shorter _ _ _ List.mem_cons_self literal (follows behind)) (ih behind inner)

theorem length_le_of_literal_mem {taken : Text} {lexemes : List Lexeme}
    (member : .literal taken ∈ lexemes) : taken.length ≤ (textOf lexemes).length := by
  have part : taken <:+: textOf lexemes := by
    obtain ⟨front, back, rfl⟩ := List.append_of_mem member
    refine ⟨textOf front, textOf back, ?_⟩
    simp [Lexeme.text]
  exact part.length_le

/-- A template string stays one when something else follows it, if shorter literals do. -/
theorem TemplateTail.follow {taken after after' : Text} (tail : TemplateTail taken after)
    (follows : MayFollow after after')
    (shorter : ∀ inner behind behind' : Text, inner.length < taken.length + 1 →
      Literal inner behind → MayFollow behind behind' → Literal inner behind') :
    TemplateTail taken after' := by
  cases tail with
  | closed => exact .closed after'
  | textEnds =>
    obtain rfl := follows.ends rfl
    exact .textEnds
  | @escape c taken _ later =>
    exact .escape c (later.follow follows fun inner _ _ less => shorter inner _ _ (by
      simp only [List.length_cons]
      omega))
  | escapeEnds =>
    obtain rfl := follows.ends rfl
    exact .escapeEnds
  | @group taken _ found inner code closes later =>
    have behind := later.follow follows fun inner _ _ less => shorter inner _ _ (by
      simp only [List.length_cons, List.length_append]
      omega)
    obtain ⟨nested, rest, rfl⟩ := closes
    rw [List.append_assoc, List.singleton_append] at code
    have plain : startsLiteral ('}' :: (taken ++ after')) = false := rfl
    have changed := code.replace
      (fun part _ _ member => shorter part _ _ (by
        have within := length_le_of_literal_mem member
        simp only [List.length_cons, List.length_append]
        omega))
      (.mark plain (lexing_lexemes (taken ++ after')))
    refine .group changed ⟨nested, lexemes (taken ++ after'), ?_⟩ behind
    rw [List.append_assoc, List.singleton_append]
  | groupOpen code unclosed =>
    obtain rfl := follows.ends rfl
    exact .groupOpen code unclosed
  | @other c taken _ notEscape notClose noGroup later =>
    have behind := later.follow follows fun inner _ _ less => shorter inner _ _ (by
      simp only [List.length_cons]
      omega)
    refine .other notEscape notClose ?_ behind
    -- What is taken decides whether a group starts here, unless the text ends.
    cases taken with
    | nil =>
      cases later
      obtain rfl := follows.ends rfl
      exact noGroup
    | cons d taken =>
      intro starts
      refine noGroup ?_
      rw [List.cons_append, List.cons_prefix_cons, List.cons_prefix_cons] at starts ⊢
      exact ⟨starts.1, starts.2.1, List.nil_prefix⟩
  termination_by taken.length

/-- A literal stays one when something else follows it. -/
theorem Literal.follow {taken after after' : Text} (literal : Literal taken after)
    (follows : MayFollow after after') : Literal taken after' := by
  cases literal with
  | single tail => exact .single (tail.follow follows)
  | double tail => exact .double (tail.follow follows)
  | line tail => exact .line (tail.follow follows)
  | block tail => exact .block (tail.follow follows)
  | template tail =>
    exact .template (tail.follow follows fun inner _ _ less found => found.follow)
  termination_by taken.length

theorem Lexing.tail {lexeme : Lexeme} {t : Text} {later : List Lexeme}
    (lexing : Lexing t (lexeme :: later)) : Lexing (textOf later) later := by
  cases lexing with
  | mark _ behind => rwa [behind.text_eq]
  | literal _ behind => rwa [behind.text_eq]

/-- A lexeme stays the first one when something else follows it. -/
theorem lexing_cons_follow {lexeme : Lexeme} {t : Text} {later : List Lexeme}
    (lexing : Lexing t (lexeme :: later)) {after' : Text} {later' : List Lexeme}
    (follows : MayFollow (textOf later) after') (rest : Lexing after' later') :
    Lexing (lexeme.text ++ after') (lexeme :: later') := by
  cases lexing with
  | mark plain behind =>
    rw [behind.text_eq] at follows
    exact .mark (startsLiteral_follow plain follows) rest
  | literal literal behind =>
    rw [behind.text_eq] at follows
    exact .literal (literal.follow follows) rest

end SfcLint.Script
