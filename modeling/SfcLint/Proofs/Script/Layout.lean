/-
# What blanking comments keeps

Where a comment stands, blanks stand when comments are blanked, as many as it has characters and
with its line breaks. So everything else keeps its place, and it is read as before: no literal comes
about or is lost, no bracket is closed elsewhere, and nothing is left to be blanked.
-/

import SfcLint.Proofs.Script.Blanking
import SfcLint.Proofs.Script.Matching

namespace SfcLint.Script

variable {t : Text} {place : Nat} {lexeme : Lexeme}

/-! ## Character by character -/

/-- The lexeme is one of those of the text and takes the character at a place. -/
def Lexeme.Covers (lexeme : Lexeme) (t : Text) (place : Nat) : Prop :=
  ∃ front back, Lexing t (front ++ lexeme :: back) ∧ (textOf front).length ≤ place ∧
    place < (textOf front).length + lexeme.text.length

/-- The character at a place belongs to a comment that starts outside quoted strings and template
strings. -/
def InComment (t : Text) (place : Nat) : Prop :=
  ∃ comment : Lexeme, comment.isComment = true ∧ comment.Covers t place

/-- The character at a place is no part of a literal. -/
def InCode (t : Text) (place : Nat) : Prop := ∃ c, (Lexeme.mark c).Covers t place

@[simp]
theorem length_blanked (t : Text) : (blanked t).length = t.length := List.length_map _

@[simp]
theorem length_uncommented (lexeme : Lexeme) : lexeme.uncommented.length = lexeme.text.length := by
  cases lexeme with
  | mark c => rfl
  | literal t =>
    rw [Lexeme.uncommented, apply_ite List.length, length_blanked, ite_self]
    rfl

theorem length_flatMap_uncommented (lexemes : List Lexeme) :
    (lexemes.flatMap Lexeme.uncommented).length = (textOf lexemes).length := by
  simp [textOf, List.length_flatMap]

theorem length_blankComments (t : Text) : (blankComments t).length = t.length := by
  rw [blankComments, length_flatMap_uncommented, textOf_lexemes]

theorem exists_lexeme_at {lexemes : List Lexeme} (within : place < (textOf lexemes).length) :
    ∃ front lexeme back, lexemes = front ++ lexeme :: back ∧ (textOf front).length ≤ place ∧
      place < (textOf front).length + lexeme.text.length := by
  induction lexemes generalizing place with
  | nil => exact absurd within (Nat.not_lt_zero _)
  | cons lexeme later ih =>
    rw [textOf_cons, List.length_append] at within
    by_cases here : place < lexeme.text.length
    · exact ⟨[], lexeme, later, rfl, Nat.zero_le _, by simpa using here⟩
    · obtain ⟨front, found, back, rfl, after, before⟩ :=
        ih (show place - lexeme.text.length < _ by omega)
      refine ⟨lexeme :: front, found, back, rfl, ?_⟩
      rw [textOf_cons, List.length_append]
      omega

theorem exists_covers (within : place < t.length) : ∃ lexeme : Lexeme, lexeme.Covers t place := by
  rw [← textOf_lexemes t] at within
  obtain ⟨front, lexeme, back, split, covers⟩ := exists_lexeme_at within
  exact ⟨lexeme, front, back, split ▸ lexing_lexemes t, covers⟩

/-- A character belongs to one lexeme only. -/
theorem Lexeme.Covers.unique {lexeme' : Lexeme} (covers : lexeme.Covers t place)
    (covers' : lexeme'.Covers t place) : lexeme = lexeme' := by
  obtain ⟨front, back, lexing, after, before⟩ := covers
  obtain ⟨front', back', lexing', after', before'⟩ := covers'
  have split := lexing.eq_lexemes.trans lexing'.eq_lexemes.symm
  -- Were more lexemes before the one than before the other, the other would end before the place.
  rcases List.append_eq_append_iff.mp split with ⟨middle, rfl, same⟩ | ⟨middle, rfl, same⟩
  · cases middle with
    | nil => exact (List.cons.inj same).1
    | cons first middle =>
      obtain ⟨rfl, -⟩ := List.cons.inj same
      rw [textOf_append, textOf_cons, List.length_append, List.length_append] at after'
      omega
  · cases middle with
    | nil => exact (List.cons.inj same).1.symm
    | cons first middle =>
      obtain ⟨rfl, -⟩ := List.cons.inj same
      rw [textOf_append, textOf_cons, List.length_append, List.length_append] at after
      omega

/-- Within a lexeme the text without comments has what stands in place of the lexeme. -/
theorem Lexeme.Covers.exists_getElem? (covers : lexeme.Covers t place) :
    ∃ n : Nat, t[place]? = lexeme.text[n]? ∧
      (blankComments t)[place]? = lexeme.uncommented[n]? := by
  obtain ⟨front, back, lexing, after, before⟩ := covers
  refine ⟨place - (textOf front).length, ?_, ?_⟩
  · rw [← lexing.text_eq, textOf_append, textOf_cons, List.getElem?_append_right after,
      List.getElem?_append_left (by omega)]
  · have length := length_flatMap_uncommented front
    rw [blankComments, ← lexing.eq_lexemes, List.flatMap_append, List.flatMap_cons,
      List.getElem?_append_right (by omega), length,
      List.getElem?_append_left (by rw [length_uncommented]; omega)]

theorem getElem?_blankComments_of_inComment (inside : InComment t place) :
    (blankComments t)[place]? = (blanked t)[place]? := by
  obtain ⟨lexeme, comment, covers⟩ := inside
  obtain ⟨taken, rfl, -, uncommented, -⟩ := lexeme.exists_of_isComment comment
  obtain ⟨n, here, blank⟩ := covers.exists_getElem?
  rw [blank, uncommented, blanked, blanked, List.getElem?_map, List.getElem?_map, here, Lexeme.text]

theorem getElem?_blankComments_of_not_inComment (outside : ¬ InComment t place) :
    (blankComments t)[place]? = t[place]? := by
  by_cases within : place < t.length
  · obtain ⟨lexeme, covers⟩ := exists_covers within
    have code : lexeme.isComment = false := by
      rw [← Bool.not_eq_true]
      exact fun comment => outside ⟨lexeme, comment, covers⟩
    obtain ⟨n, here, kept⟩ := covers.exists_getElem?
    rw [kept, Lexeme.uncommented_of_not_isComment code, here]
  · rw [List.getElem?_eq_none (by rw [length_blankComments]; omega),
      List.getElem?_eq_none (by omega)]

theorem blankComments_break_iff :
    (blankComments t)[place]? = some '\n' ↔ t[place]? = some '\n' := by
  by_cases inside : InComment t place
  · -- Blanking keeps a break, and a space is none.
    have same (c : Char) : (if c = '\n' then c else ' ') = '\n' ↔ c = '\n' := by
      split <;> simp_all
    rw [getElem?_blankComments_of_inComment inside, blanked, List.getElem?_map,
      Option.map_eq_some_iff]
    simp only [same, exists_eq_right]
  · rw [getElem?_blankComments_of_not_inComment inside]

/-! ## Lexemes and brackets -/

theorem blankComments_of_no_comment (code : ∀ lexeme ∈ lexemes t, lexeme.isComment = false) :
    blankComments t = t := by
  have texts : (lexemes t).flatMap Lexeme.uncommented = textOf (lexemes t) := by
    rw [textOf, List.flatMap_def, List.flatMap_def]
    refine congrArg List.flatten (List.map_congr_left ?_)
    exact fun lexeme member => Lexeme.uncommented_of_not_isComment (code lexeme member)
  rw [blankComments, texts, textOf_lexemes]

theorem not_isComment_of_mem_lexemes_blankComments {lexeme : Lexeme}
    (member : lexeme ∈ lexemes (blankComments t)) : lexeme.isComment = false := by
  rw [lexemes_blankComments] at member
  obtain ⟨_, -, inside⟩ := List.mem_flatMap.mp member
  exact not_isComment_of_mem_relexed inside

/-- The walk over blanks leaves the stack of brackets alone. -/
theorem lexemeClosing_blanks {blanks : Text} (blank : ∀ c ∈ blanks, c = '\n' ∨ c = ' ')
    (kind : Bracket) (below : List Bracket) (later : List Lexeme) :
    lexemeClosing (kind :: below) (blanks.map .mark ++ later) =
      (lexemeClosing (kind :: below) later).map (· + blanks.length) := by
  induction blanks with
  | nil => simp
  | cons c blanks ih =>
    rw [List.forall_mem_cons] at blank
    have plain : (Lexeme.mark c).isBracket = false := by
      rcases blank.1 with rfl | rfl <;> rfl
    rw [List.map_cons, List.cons_append, lexemeClosing_pass kind below plain, ih blank.2,
      Option.map_map]
    rfl

/-- Brackets are closed where they were, for blanks are as long as the comment they stand for. -/
theorem lexemeClosing_relexed (kinds : List Bracket) (lexemes : List Lexeme) :
    lexemeClosing kinds (lexemes.flatMap Lexeme.relexed) = lexemeClosing kinds lexemes := by
  fun_induction lexemeClosing kinds lexemes with
  | case1 => rw [lexemeClosing]
  | case2 => rfl
  | case3 kind below t later ih =>
    rw [List.flatMap_cons]
    cases comment : (Lexeme.literal t).isComment with
    | false =>
      rw [Lexeme.relexed_of_not_isComment comment, List.singleton_append, lexemeClosing, ih]
    | true =>
      obtain ⟨_, same, -, -, relexed⟩ := Lexeme.exists_of_isComment comment
      obtain rfl := Lexeme.literal.inj same
      -- The blanks move what follows as far as the comment does.
      rw [relexed, lexemeClosing_blanks (fun c => mem_blanked), ih, length_blanked]
  | _ => simp_all [lexemeClosing, Lexeme.relexed]

/-- From a bracket among the lexemes the matching bracket is found among those behind it. -/
theorem matching?_of_lexing {front back : List Lexeme} {kind : Bracket}
    (lexing : Lexing t (front ++ .mark kind.opener :: back)) :
    matching? t ↑(textOf front).length =
      .ok ((lexemeClosing [kind] back).map ((textOf front).length + ·)) := by
  have opens : t[(textOf front).length]? = some kind.opener := by
    rw [← lexing.text_eq, textOf_append, textOf_cons,
      List.getElem?_append_right (Nat.le_refl _), Nat.sub_self]
    rfl
  have behind : lexemes (t.drop ((textOf front).length + 1)) = back := by
    rw [← List.drop_drop, ← lexing.text_eq, textOf_append, List.drop_left]
    exact lexing.drop.tail.eq_lexemes.symm
  rw [matching?_opener opens, spanAt?_opener opens, behind, Option.map_map]
  rfl

theorem length_textOf_relexed (lexemes : List Lexeme) :
    (textOf (lexemes.flatMap Lexeme.relexed)).length = (textOf lexemes).length := by
  induction lexemes with
  | nil => rfl
  | cons lexeme later ih =>
    rw [List.flatMap_cons, textOf_append, textOf_relexed, List.length_append, ih,
      length_uncommented, textOf_cons, List.length_append]

theorem blankComments_of_lexing {lexemes : List Lexeme} (lexing : Lexing t lexemes) :
    blankComments t = lexemes.flatMap Lexeme.uncommented := by
  rw [blankComments, lexing.eq_lexemes]

theorem matching?_blankComments {kind : Bracket} (code : InCode t place)
    (opens : t[place]? = some kind.opener) :
    matching? (blankComments t) place = matching? t place := by
  obtain ⟨c, front, back, lexing, after, before⟩ := code
  obtain rfl : place = (textOf front).length := by
    rw [Lexeme.text, List.length_singleton] at before
    omega
  obtain rfl : kind.opener = c := by
    rw [← lexing.text_eq, textOf_append, textOf_cons,
      List.getElem?_append_right (Nat.le_refl _), Nat.sub_self] at opens
    exact (Option.some.inj opens).symm
  -- The bracket stays a lexeme, and it stays where it was.
  have bare := lexing_uncommented lexing
  rw [← blankComments_of_lexing lexing, List.flatMap_append, List.flatMap_cons,
    Lexeme.relexed_of_not_isComment rfl, List.singleton_append] at bare
  have moved := matching?_of_lexing bare
  rw [length_textOf_relexed, lexemeClosing_relexed] at moved
  rw [moved, matching?_of_lexing lexing]

/-- **Blanking comments keeps the layout and the structure.** The length and the line breaks stay.
In a comment that starts outside quoted strings and template strings every other character becomes a
space, and elsewhere nothing changes. Blanking again changes nothing, and a bracket in code is
matched by the same bracket as before. -/
theorem blankComments_layout (t : Text) :
    (blankComments t).length = t.length ∧
      (∀ place : Nat, (blankComments t)[place]? = some '\n' ↔ t[place]? = some '\n') ∧
        (∀ place : Nat,
          (InComment t place → (blankComments t)[place]? =
            t[place]?.map fun c => if c = '\n' then c else ' ') ∧
          (¬ InComment t place → (blankComments t)[place]? = t[place]?)) ∧
        blankComments (blankComments t) = blankComments t ∧
          ∀ (place : Nat) (kind : Bracket), InCode t place → t[place]? = some kind.opener →
            matching? (blankComments t) place = matching? t place := by
  refine ⟨length_blankComments t, fun _ => blankComments_break_iff, fun place => ⟨?_, ?_⟩, ?_, ?_⟩
  · intro inside
    rw [getElem?_blankComments_of_inComment inside, blanked, List.getElem?_map]
  · exact getElem?_blankComments_of_not_inComment
  · exact blankComments_of_no_comment fun _ => not_isComment_of_mem_lexemes_blankComments
  · exact fun place kind => matching?_blankComments

/-- A call with a comment that holds a bracket, and a template string with a comment in a group. -/
def commentedCall : Text := "f(/* ) */ `$\x7b/* x */ 1\x7d`) // end"

/-- The comment in the call is blanked and the one in the template string is not, and the bracket
of the call is closed where it was. -/
theorem blankComments_layout_call :
    InComment commentedCall 5 ∧ (blankComments commentedCall)[5]? = some ' ' ∧
      ¬ InComment commentedCall 16 ∧ (blankComments commentedCall)[16]? = some 'x' ∧
        InCode commentedCall 1 ∧ commentedCall[1]? = some Bracket.round.opener ∧
          matching? (blankComments commentedCall) 1 = matching? commentedCall 1 := by
  have split : lexemes commentedCall = [.mark 'f', .mark '(', .literal "/* ) */".toList, .mark ' ',
      .literal "`$\x7b/* x */ 1\x7d`".toList, .mark ')', .mark ' ', .literal "// end".toList] := by
    cbv
  have lexing := lexing_lexemes commentedCall
  rw [split] at lexing
  have inside : InComment commentedCall 5 :=
    ⟨.literal "/* ) */".toList, by decide, [.mark 'f', .mark '('], _, lexing, by decide, by decide⟩
  have outside : ¬ InComment commentedCall 16 := by
    rintro ⟨lexeme, comment, covers⟩
    have template : (Lexeme.literal "`$\x7b/* x */ 1\x7d`".toList).Covers commentedCall 16 :=
      ⟨[.mark 'f', .mark '(', .literal "/* ) */".toList, .mark ' '], _, lexing, by decide,
        by decide⟩
    obtain rfl := covers.unique template
    exact absurd comment (by decide)
  have code : InCode commentedCall 1 := ⟨'(', [.mark 'f'], _, lexing, by decide, by decide⟩
  have opens : commentedCall[1]? = some Bracket.round.opener := by decide
  obtain ⟨-, -, layout, -, brackets⟩ := blankComments_layout commentedCall
  exact ⟨inside, ((layout 5).1 inside).trans (by decide), outside,
    ((layout 16).2 outside).trans (by decide), code, opens, brackets 1 .round code opens⟩

end SfcLint.Script
