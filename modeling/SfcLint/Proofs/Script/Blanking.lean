/-
# Lexemes of a text without its comments

When the comments of a text are blanked, its other lexemes stay, and blanks stand where the
comments stood.
-/

import SfcLint.Proofs.Script.Locality
import SfcLint.Proofs.Text.Blank
import SfcLint.Script.Blanking

namespace SfcLint.Script

/-- The lexeme is a comment. -/
def Lexeme.isComment : Lexeme → Bool
  | mark _ => false
  | literal t => Script.isComment t

/-- The lexemes that are read in place of a lexeme when comments are blanked. -/
def Lexeme.relexed : Lexeme → List Lexeme
  | mark c => [mark c]
  | literal t => if Script.isComment t then (blanked t).map mark else [literal t]

theorem Lexeme.relexed_of_not_isComment {lexeme : Lexeme} (code : lexeme.isComment = false) :
    lexeme.relexed = [lexeme] := by
  cases lexeme with
  | mark c => rfl
  | literal t => rw [relexed, if_neg (by rw [← Bool.not_eq_true] at code; exact code)]

theorem Lexeme.uncommented_of_not_isComment {lexeme : Lexeme} (code : lexeme.isComment = false) :
    lexeme.uncommented = lexeme.text := by
  cases lexeme with
  | mark c => rfl
  | literal t => rw [uncommented, if_neg (by rw [← Bool.not_eq_true] at code; exact code), text]

/-- A comment is a literal, and blanks are read in its place. -/
theorem Lexeme.exists_of_isComment {lexeme : Lexeme} (comment : lexeme.isComment = true) :
    ∃ t, lexeme = .literal t ∧ t.head? = some '/' ∧ lexeme.uncommented = blanked t ∧
      lexeme.relexed = (blanked t).map .mark := by
  cases lexeme with
  | mark c => contradiction
  | literal t =>
    refine ⟨t, rfl, ?_, if_pos comment, if_pos comment⟩
    have signs := comment
    rw [isComment, Script.isComment, Bool.or_eq_true, List.isPrefixOf_iff_prefix,
      List.isPrefixOf_iff_prefix] at signs
    rcases signs with ⟨rest, rfl⟩ | ⟨rest, rfl⟩
    · rfl
    · rfl

theorem textOf_relexed (lexeme : Lexeme) : textOf lexeme.relexed = lexeme.uncommented := by
  have marks (t : Text) : textOf (t.map .mark) = t := by
    induction t with
    | nil => rfl
    | cons c t ih => rw [List.map_cons, textOf_cons, ih, Lexeme.text, List.singleton_append]
  cases comment : lexeme.isComment with
  | true =>
    obtain ⟨t, -, -, uncommented, relexed⟩ := lexeme.exists_of_isComment comment
    rw [uncommented, relexed, marks]
  | false =>
    rw [Lexeme.relexed_of_not_isComment comment, Lexeme.uncommented_of_not_isComment comment,
      textOf_cons, textOf_nil, List.append_nil]

theorem mem_blanked {t : Text} {c : Char} (member : c ∈ blanked t) : c = '\n' ∨ c = ' ' := by
  rw [blanked, List.mem_map] at member
  obtain ⟨d, -, rfl⟩ := member
  split
  next same => exact .inl same
  next => exact .inr rfl

/-- Blanks are single characters of code. -/
theorem lexing_blanks {blanks after : Text} {later : List Lexeme}
    (blank : ∀ c ∈ blanks, c = '\n' ∨ c = ' ') (rest : Lexing after later) :
    Lexing (blanks ++ after) (blanks.map .mark ++ later) := by
  induction blanks with
  | nil => exact rest
  | cons c blanks ih =>
    rw [List.forall_mem_cons] at blank
    refine .mark ?_ (ih blank.2)
    rcases blank.1 with rfl | rfl
    · rfl
    · rfl

/-- The text without its comments begins like the text, or with a blank in place of a comment. -/
theorem mayFollow_uncommented {t : Text} {lexemes : List Lexeme} (lexing : Lexing t lexemes) :
    MayFollow t (lexemes.flatMap Lexeme.uncommented) := by
  have literal {taken after : Text} {later : List Lexeme} (literal : Literal taken after) :
      MayFollow (taken ++ after)
        ((Lexeme.literal taken :: later).flatMap Lexeme.uncommented) := by
    obtain ⟨c, rest, rfl⟩ := List.exists_cons_of_ne_nil literal.ne_nil
    cases comment : (Lexeme.literal (c :: rest)).isComment with
    | false =>
      refine mayFollow_of_head_eq ?_
      rw [List.flatMap_cons, Lexeme.uncommented_of_not_isComment comment]
      rfl
    | true =>
      obtain ⟨t, same, starts, uncommented, -⟩ := Lexeme.exists_of_isComment comment
      obtain rfl := Lexeme.literal.inj same
      obtain rfl := Option.some.inj starts
      have blank : blanked ('/' :: rest) = ' ' :: blanked rest := rfl
      rw [List.flatMap_cons, uncommented, blank]
      exact ⟨by simp, by simp, by simp, by simp⟩
  cases lexing with
  | nil => exact mayFollow_of_head_eq rfl
  | mark => exact mayFollow_of_head_eq rfl
  | literal taken => exact literal taken

/-- Where comments are blanked the other lexemes stay. -/
theorem lexing_uncommented {t : Text} {lexemes : List Lexeme} (lexing : Lexing t lexemes) :
    Lexing (lexemes.flatMap Lexeme.uncommented) (lexemes.flatMap Lexeme.relexed) := by
  induction lexemes generalizing t with
  | nil => exact .nil
  | cons lexeme later ih =>
    have behind : Lexing (textOf later) later := lexing.tail
    have rest := ih behind
    rw [List.flatMap_cons, List.flatMap_cons]
    cases comment : lexeme.isComment with
    | false =>
      rw [Lexeme.relexed_of_not_isComment comment, Lexeme.uncommented_of_not_isComment comment]
      exact lexing_cons_follow lexing (mayFollow_uncommented behind) rest
    | true =>
      obtain ⟨taken, -, -, uncommented, relexed⟩ := Lexeme.exists_of_isComment comment
      rw [uncommented, relexed]
      exact lexing_blanks (fun c => mem_blanked) rest

theorem lexemes_blankComments (t : Text) :
    lexemes (blankComments t) = (lexemes t).flatMap Lexeme.relexed :=
  (lexing_uncommented (lexing_lexemes t)).eq_lexemes.symm

/-! ## From the first comment on -/

theorem Lexing.drop {front back : List Lexeme} {t : Text} (lexing : Lexing t (front ++ back)) :
    Lexing (textOf back) back := by
  induction front generalizing t with
  | nil =>
    rw [List.nil_append] at lexing
    rw [lexing.text_eq]
    exact lexing
  | cons lexeme front ih => exact ih lexing.tail

theorem not_isComment_of_mem_relexed {lexeme inner : Lexeme} (member : inner ∈ lexeme.relexed) :
    inner.isComment = false := by
  cases comment : lexeme.isComment with
  | false =>
    rw [Lexeme.relexed_of_not_isComment comment, List.mem_singleton] at member
    rw [member, comment]
  | true =>
    obtain ⟨t, -, -, -, relexed⟩ := lexeme.exists_of_isComment comment
    rw [relexed, List.mem_map] at member
    obtain ⟨c, -, rfl⟩ := member
    rfl

/-- In a text without comments none starts behind its first blanks. -/
theorem no_comment_after_blanks {blanks rest : Text} {c : Char} {lexemes : List Lexeme}
    (lexing : Lexing (blanks ++ '/' :: c :: rest) lexemes)
    (blank : ∀ d ∈ blanks, Text.isBlank d = true)
    (code : ∀ lexeme ∈ lexemes, lexeme.isComment = false) : c ≠ '/' ∧ c ≠ '*' := by
  induction blanks generalizing lexemes with
  | nil =>
    rw [List.nil_append] at lexing
    generalize split : '/' :: c :: rest = t at lexing
    have plain {taken after : Text} (starts : taken.head? ≠ some '/')
        (split : '/' :: c :: rest = taken ++ after) (some : taken ≠ []) : False := by
      obtain ⟨d, later, rfl⟩ := List.exists_cons_of_ne_nil some
      exact starts (congrArg List.head? split).symm
    cases lexing with
    | nil => exact absurd split (by simp)
    | mark opens =>
      rw [← split] at opens
      constructor
      · rintro rfl
        simp [startsLiteral] at opens
      · rintro rfl
        simp [startsLiteral] at opens
    | literal literal =>
      have noComment := code _ List.mem_cons_self
      cases literal with
      | line => simp [Lexeme.isComment, isComment] at noComment
      | block => simp [Lexeme.isComment, isComment] at noComment
      | single => exact (plain (by simp) split (by simp)).elim
      | double => exact (plain (by simp) split (by simp)).elim
      | template => exact (plain (by simp) split (by simp)).elim
  | cons d blanks ih =>
    rw [List.forall_mem_cons] at blank
    rw [List.cons_append] at lexing
    generalize split : d :: (blanks ++ '/' :: c :: rest) = t at lexing
    cases lexing with
    | nil => contradiction
    | mark _ later =>
      obtain ⟨rfl, rfl⟩ := List.cons.inj split
      exact ih later blank.2 fun lexeme member => code lexeme (List.mem_cons_of_mem _ member)
    | literal literal =>
      -- No literal starts with a blank.
      have visible := blank.1
      cases literal <;> obtain ⟨rfl, -⟩ := List.cons.inj split <;> contradiction

/-- The code of a text before its first comment. -/
def codeBefore (t : Text) : Text := textOf ((lexemes t).takeWhile fun lexeme => !lexeme.isComment)

/-- What a text and the text without its comments have in place of each other from the first
comment on. -/
structure Parting (commented uncommented : Text) : Prop where
  sign : ∃ c rest, (c = '/' ∨ c = '*') ∧ commented = '/' :: c :: rest
  blank : ∃ rest, uncommented = ' ' :: ' ' :: rest
  code : ∀ blanks c rest, (∀ d ∈ blanks, Text.isBlank d = true) →
    uncommented = blanks ++ '/' :: c :: rest → c ≠ '/' ∧ c ≠ '*'

theorem exists_sign_of_isComment {t : Text} (comment : isComment t = true) :
    ∃ c rest, (c = '/' ∨ c = '*') ∧ t = '/' :: c :: rest := by
  rw [isComment, Bool.or_eq_true, List.isPrefixOf_iff_prefix, List.isPrefixOf_iff_prefix] at comment
  rcases comment with ⟨rest, rfl⟩ | ⟨rest, rfl⟩
  · exact ⟨'/', rest, .inl rfl, rfl⟩
  · exact ⟨'*', rest, .inr rfl, rfl⟩

/-- Where lexemes begin with a comment, what is left of them without comments begins with blanks. -/
theorem parting_of_isComment {lexeme : Lexeme} {later : List Lexeme}
    (lexing : Lexing (textOf (lexeme :: later)) (lexeme :: later))
    (comment : lexeme.isComment = true) :
    Parting (textOf (lexeme :: later)) ((lexeme :: later).flatMap Lexeme.uncommented) := by
  obtain ⟨taken, rfl, -, uncommented, -⟩ := lexeme.exists_of_isComment comment
  obtain ⟨c, rest, known, rfl⟩ := exists_sign_of_isComment comment
  have bare := lexing_uncommented lexing
  refine ⟨⟨c, rest ++ textOf later, known, rfl⟩, ?_, ?_⟩
  · refine ⟨blanked rest ++ later.flatMap Lexeme.uncommented, ?_⟩
    rw [List.flatMap_cons, uncommented]
    rcases known with rfl | rfl
    · rfl
    · rfl
  · intro blanks d behind blank same
    rw [same] at bare
    refine no_comment_after_blanks bare blank ?_
    intro inner member
    obtain ⟨lexeme, -, member⟩ := List.mem_flatMap.mp member
    exact not_isComment_of_mem_relexed member

/-- A text without comments stays as it is, and another one changes from the first comment on. -/
theorem codeBefore_or_parting (t : Text) :
    (codeBefore t = t ∧ blankComments t = t) ∨ ∃ commented uncommented,
      Parting commented uncommented ∧ t = codeBefore t ++ commented ∧
        blankComments t = codeBefore t ++ uncommented := by
  have lexing := lexing_lexemes t
  have front : ((lexemes t).takeWhile fun lexeme => !lexeme.isComment).flatMap
      Lexeme.uncommented = codeBefore t := by
    rw [codeBefore, textOf, List.flatMap_def, List.flatMap_def]
    refine congrArg List.flatten (List.map_congr_left ?_)
    intro lexeme member
    have plain := List.all_eq_true.mp List.all_takeWhile lexeme member
    exact Lexeme.uncommented_of_not_isComment (by simpa using plain)
  have split := List.takeWhile_append_dropWhile (p := fun lexeme : Lexeme => !lexeme.isComment)
    (l := lexemes t)
  have first := List.head?_dropWhile_not (fun lexeme : Lexeme => !lexeme.isComment) (lexemes t)
  cases back : (lexemes t).dropWhile fun lexeme => !lexeme.isComment with
  | nil =>
    rw [back, List.append_nil] at split
    refine .inl ⟨?_, ?_⟩
    · rw [codeBefore, split, textOf_lexemes]
    · rw [blankComments, ← split, front, codeBefore, split, textOf_lexemes]
  | cons lexeme later =>
    rw [back] at split first
    have comment : lexeme.isComment = true := by simpa using first
    rw [← split] at lexing
    refine .inr ⟨textOf (lexeme :: later), (lexeme :: later).flatMap Lexeme.uncommented,
      parting_of_isComment lexing.drop comment, ?_, ?_⟩
    · rw [codeBefore, ← textOf_append, split, textOf_lexemes]
    · rw [blankComments, ← split, List.flatMap_append, front]

end SfcLint.Script
