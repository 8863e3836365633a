/-
# Lexemes and the grammar

The lexemes that a text is cut into are the ones that the grammar gives it, and the grammar gives
it no others. Quoted strings and comments are compared by their lengths. Template strings and
lexemes need each other, so both directions are inductions on the length of the text in which the
code of a group is shorter than the template around it.
-/

import SfcLint.Proofs.Script.Walk

namespace SfcLint.Script

/-! ## Quoted strings and comments -/

theorem quotedLength_cons {quote c : Char} (notEscape : c ≠ '\\') (t : Text) :
    quotedLength quote (c :: t) =
      if c = quote then 1 else if c = '\n' then 0 else quotedLength quote t + 1 := by
  rw [quotedLength.eq_def]
  simp [notEscape]

theorem quotedLength_escape (quote c : Char) (t : Text) :
    quotedLength quote ('\\' :: c :: t) = quotedLength quote t + 2 := by
  rw [quotedLength.eq_def]
  simp

theorem QuotedTail.length_eq {quote : Char} (notEscape : quote ≠ '\\') (notBreak : quote ≠ '\n')
    {taken after : Text} (tail : QuotedTail quote taken after) :
    quotedLength quote (taken ++ after) = taken.length := by
  induction tail with
  | closed after => simp [quotedLength_cons notEscape]
  | beforeBreak after =>
    simp [quotedLength_cons (show '\n' ≠ '\\' by decide), notBreak.symm]
  | textEnds => rfl
  | escape c _ ih =>
    simp only [List.cons_append, quotedLength_escape, ih, List.length_cons]
  | escapeEnds => rfl
  | other plain notQuote inLine _ ih =>
    simp [quotedLength_cons plain, notQuote, inLine, ih]

theorem quotedTail_take (quote : Char) (t : Text) :
    QuotedTail quote (t.take (quotedLength quote t)) (t.drop (quotedLength quote t)) := by
  fun_induction quotedLength quote t with
  | case1 => exact .textEnds
  | case2 => exact .escapeEnds
  | case3 c t ih => exact .escape c ih
  | case4 t => exact .closed t
  | case5 t => exact .beforeBreak t
  | case6 c t notEscape notQuote notBreak ih => exact .other notEscape notQuote notBreak ih

theorem LineTail.length_eq {taken after : Text} (tail : LineTail taken after) :
    lineLength (taken ++ after) = taken.length := by
  obtain ⟨inLine, ends⟩ := tail
  have within : ∀ c ∈ taken, (c != '\n') = true := by
    intro c member
    simpa using fun same : c = '\n' => inLine (same ▸ member)
  rw [lineLength, List.takeWhile_append_of_pos within]
  rcases ends with rfl | break_
  · simp
  · obtain ⟨c, after⟩ := after
    · simp at break_
    · simp_all

theorem lineTail_take (t : Text) : LineTail (t.take (lineLength t)) (t.drop (lineLength t)) := by
  induction t with
  | nil => exact ⟨by simp, .inl rfl⟩
  | cons c t ih =>
    by_cases isBreak : c = '\n'
    · subst isBreak
      exact ⟨by simp [lineLength], .inr (by simp [lineLength])⟩
    · have length : lineLength (c :: t) = lineLength t + 1 := by simp [lineLength, isBreak]
      rw [length, List.take_succ_cons, List.drop_succ_cons]
      exact ⟨by simpa [Ne.symm isBreak] using ih.1, ih.2⟩

theorem blockCommentLength_cons (c : Char) (t : Text) :
    blockCommentLength (c :: t) =
      if ['*', '/'] <+: c :: t then 2 else blockCommentLength t + 1 := by
  rw [blockCommentLength.eq_def]
  split
  · contradiction
  next same => simp_all
  next other same =>
    obtain ⟨rfl, rfl⟩ := List.cons.inj same
    rw [if_neg]
    rintro ⟨after, closes⟩
    obtain ⟨rfl, rfl⟩ := List.cons.inj closes
    exact other after rfl rfl

theorem BlockTail.length_eq {taken after : Text} (tail : BlockTail taken after) :
    blockCommentLength (taken ++ after) = taken.length := by
  rcases tail with @⟨body, _, unclosed⟩ | unclosed
  · induction body with
    | nil => rfl
    | cons c body ih =>
      have here : ¬ ['*', '/'] <+: c :: (body ++ ['*', '/'] ++ after) := by
        intro found
        refine unclosed (List.IsPrefix.isInfix ?_)
        cases body with
        | nil => simp at found
        | cons d body => simpa using found
      have later : ¬ ['*', '/'] <:+: body ++ ['*'] :=
        fun found => unclosed (found.trans (List.suffix_cons c _).isInfix)
      simp only [List.cons_append, blockCommentLength_cons, here, if_false, ih later]
      simp
  · induction taken with
    | nil => rfl
    | cons c body ih =>
      have here : ¬ ['*', '/'] <+: c :: body := fun found => unclosed found.isInfix
      have later : ¬ ['*', '/'] <:+: body :=
        fun found => unclosed (found.trans (List.suffix_cons c _).isInfix)
      simp only [List.append_nil, blockCommentLength_cons, here, if_false]
      simpa using ih later

theorem blockTail_take (t : Text) :
    BlockTail (t.take (blockCommentLength t)) (t.drop (blockCommentLength t)) := by
  induction t with
  | nil => exact .textEnds (by simp)
  | cons c t ih =>
    rw [blockCommentLength_cons]
    split
    next here =>
      obtain ⟨after, same⟩ := here
      rw [← same]
      exact @BlockTail.closed [] after (by decide)
    next here =>
      rw [List.take_succ_cons, List.drop_succ_cons]
      have whole := List.take_append_drop (blockCommentLength t) t
      generalize t.take (blockCommentLength t) = taken at ih whole ⊢
      generalize t.drop (blockCommentLength t) = after at ih whole ⊢
      rcases ih with @⟨body, _, unclosed⟩ | unclosed
      · refine @BlockTail.closed (c :: body) after fun found => ?_
        rcases List.infix_cons_iff.mp found with atStart | later
        · refine here (atStart.trans ?_)
          simp [← whole]
        · exact unclosed later
      · refine .textEnds fun found => ?_
        rcases List.infix_cons_iff.mp found with atStart | later
        · exact here (atStart.trans (by simp [← whole]))
        · exact unclosed later


/-! ## Template strings -/

@[simp]
theorem templateLength_nil : templateLength [] = 0 := rfl

@[simp]
theorem templateLength_close (t : Text) : templateLength ('\x60' :: t) = 1 := by
  simp [templateLength, closing]

@[simp]
theorem templateLength_escape_end : templateLength ['\\'] = 1 := rfl

theorem getD_map_add (found : Option Nat) (m n : Nat) :
    (found.map (· + n)).getD (m + n) = found.getD m + n := by
  cases found <;> rfl

@[simp]
theorem templateLength_escape (c : Char) (t : Text) :
    templateLength ('\\' :: c :: t) = templateLength t + 2 := by
  have walk : closing 0 [.template] ('\\' :: c :: t) =
      (closing 0 [.template] t).map (· + 2) := by
    simp [closing, Function.comp_def]
  rw [templateLength, walk]
  exact getD_map_add _ _ 2

theorem templateLength_other {c : Char} {t : Text} (notEscape : c ≠ '\\') (notClose : c ≠ '\x60')
    (noGroup : ¬ ['$', '{'] <+: c :: t) : templateLength (c :: t) = templateLength t + 1 := by
  have notOpening : ¬ (c = '$' ∧ t.head? = some '{') := by
    rintro ⟨rfl, opens⟩
    obtain ⟨t, rfl⟩ : ∃ rest, t = '{' :: rest := by cases t <;> simp_all
    exact noGroup ⟨t, rfl⟩
  have walk : closing 0 [.template] (c :: t) = (closing 0 [.template] t).map (· + 1) := by
    simp only [closing, notEscape, notClose, notOpening, if_false]
  rw [templateLength, walk]
  exact getD_map_add _ _ 1

/-- A group is passed over where it closes. When it does not, the template takes the rest. -/
theorem templateLength_group (t : Text) :
    templateLength ('$' :: '{' :: t) =
      match lexemeClosing [.curly] (lexemes t) with
      | some n => templateLength (t.drop n) + n + 2
      | none => t.length + 2 := by
  have walk : closing 0 [.template] ('$' :: '{' :: t) =
      (closing 0 ([Bracket.curly].map .bracket ++ [.template]) t).map (· + 2) := by
    simp [closing, Function.comp_def]
  rw [templateLength, walk, closing_append, closing_brackets]
  cases found : lexemeClosing [.curly] (lexemes t) with
  | none => rfl
  | some n =>
    have within : n ≤ t.length := by
      rw [← closing_brackets] at found
      exact (closing_bounds found).2
    simp only [templateLength, Option.bind_some]
    cases closing 0 [.template] (t.drop n) with
    | none => simp [Nat.sub_add_cancel within]
    | some m => simp

/-! ## The grammar gives the lexemes -/

theorem textOf_lexemes (t : Text) : textOf (lexemes t) = t := by
  match t with
  | [] => rfl
  | c :: t =>
    by_cases starts : 0 < literalLength (c :: t)
    · have ih := textOf_lexemes ((c :: t).drop (literalLength (c :: t)))
      rw [lexemes_of_literal starts, textOf_cons, ih]
      exact List.take_append_drop _ _
    · have plain : literalLength (c :: t) = 0 := by omega
      rw [lexemes_of_mark plain, textOf_cons, textOf_lexemes t]
      rfl
  termination_by t.length
  decreasing_by all_goals (simp_all; try omega)

/-- A group in a template string takes what the grammar says, if what follows it does. -/
theorem templateTail_group {t : Text} (code : Lexing t (lexemes t))
    (later : ∀ u : Text, u.length ≤ t.length →
      TemplateTail (u.take (templateLength u)) (u.drop (templateLength u))) :
    TemplateTail (('$' :: '{' :: t).take (templateLength ('$' :: '{' :: t)))
      (('$' :: '{' :: t).drop (templateLength ('$' :: '{' :: t))) := by
  rw [templateLength_group]
  cases found : lexemeClosing [.curly] (lexemes t) with
  | none =>
    have unclosed := lexemeClosing_eq_none_iff.mp found
    simpa using TemplateTail.groupOpen code unclosed
  | some n =>
    obtain ⟨inner, closes, rfl⟩ := lexemeClosing_eq_some_iff.mp found
    simp only [List.take_succ_cons, List.drop_succ_cons]
    have behind := later (t.drop ((textOf inner).length + 1)) (by simp)
    have whole : textOf inner ++ '}' :: t.drop ((textOf inner).length + 1) = t := by
      obtain ⟨-, rest, split⟩ := closes
      rw [← textOf_lexemes t, ← split]
      simp [Lexeme.text, Bracket.closer]
    generalize t.drop ((textOf inner).length + 1) = after at behind whole ⊢
    have lexing : Lexing (textOf inner ++ '}' :: (after.take (templateLength after) ++
        after.drop (templateLength after))) (lexemes t) := by
      rwa [List.take_append_drop, whole]
    have group := TemplateTail.group lexing closes behind
    have place : templateLength after + ((textOf inner).length + 1) =
        (textOf inner ++ ['}']).length + templateLength after := by
      simp; omega
    have split : t = (textOf inner ++ ['}']) ++ after := by simp [← whole]
    rw [place, split, List.take_length_add_append, List.drop_length_add_append]
    simpa using group

/-- A template string takes what the grammar says, if the grammar gives shorter texts their
lexemes. -/
theorem templateTail_take (t : Text)
    (shorter : ∀ u : Text, u.length < t.length → Lexing u (lexemes u)) :
    TemplateTail (t.take (templateLength t)) (t.drop (templateLength t)) := by
  have later (u : Text) (less : u.length < t.length) :
      TemplateTail (u.take (templateLength u)) (u.drop (templateLength u)) :=
    templateTail_take u fun v isLess => shorter v (Nat.lt_trans isLess less)
  match t with
  | [] => exact .textEnds
  | c :: t =>
    by_cases isEscape : c = '\\'
    · subst isEscape
      match t with
      | [] => exact .escapeEnds
      | c :: t =>
        rw [templateLength_escape]
        exact .escape c (later t (by simp only [List.length_cons]; omega))
    by_cases isClose : c = '\x60'
    · subst isClose
      rw [templateLength_close]
      exact .closed t
    by_cases isGroup : ['$', '{'] <+: c :: t
    · obtain ⟨t, rfl, rfl⟩ : ∃ rest, c = '$' ∧ t = '{' :: rest := by
        obtain ⟨rest, same⟩ := isGroup
        simp only [List.cons_append, List.nil_append, List.cons.injEq] at same
        exact ⟨rest, same.1.symm, same.2.symm⟩
      refine templateTail_group (shorter t (by simp only [List.length_cons]; omega))
        fun u within => later u ?_
      simp only [List.length_cons]
      omega
    · rw [templateLength_other isEscape isClose isGroup, List.take_succ_cons, List.drop_succ_cons]
      refine .other isEscape isClose ?_ (later t (by simp))
      rwa [List.take_append_drop]
  termination_by t.length


/-- A literal takes what the grammar says, if the grammar gives shorter texts their lexemes. -/
theorem literal_take {t : Text} (starts : 0 < literalLength t)
    (shorter : ∀ u : Text, u.length < t.length → Lexing u (lexemes u)) :
    Literal (t.take (literalLength t)) (t.drop (literalLength t)) := by
  rw [literalLength_pos_iff] at starts
  unfold startsLiteral at starts
  split at starts
  next t =>
    rw [literalLength_flat (by simp)]
    exact .single (quotedTail_take '\'' t)
  next t =>
    rw [literalLength_flat (by simp)]
    exact .double (quotedTail_take '"' t)
  next t =>
    rw [literalLength_template]
    exact .template (templateTail_take t fun u less => shorter u (by simp; omega))
  next t =>
    rw [literalLength_flat (by simp)]
    exact .line (lineTail_take t)
  next t =>
    rw [literalLength_flat (by simp)]
    exact .block (blockTail_take t)
  next => contradiction

/-- The grammar gives every text the lexemes that it is cut into. -/
theorem lexing_lexemes (t : Text) : Lexing t (lexemes t) := by
  match t with
  | [] => exact .nil
  | c :: t =>
    have shorter (u : Text) (less : u.length < (c :: t).length) : Lexing u (lexemes u) :=
      lexing_lexemes u
    by_cases starts : 0 < literalLength (c :: t)
    · have later := shorter ((c :: t).drop (literalLength (c :: t))) (by
        rw [List.length_drop, List.length_cons]
        omega)
      have whole := Lexing.literal (literal_take starts shorter) later
      rwa [List.take_append_drop, ← lexemes_of_literal starts] at whole
    · have plain : literalLength (c :: t) = 0 := by omega
      rw [literalLength_pos_iff, Bool.not_eq_true] at starts
      rw [lexemes_of_mark plain]
      exact .mark starts (shorter t (by simp))
  termination_by t.length
  decreasing_by exact less

/-! ## It gives no others -/

/-- What the grammar lets a template string take has the length of the template string, if the
grammar gives shorter texts no other lexemes. -/
theorem TemplateTail.length_eq {taken after : Text} (tail : TemplateTail taken after)
    (shorter : ∀ (u : Text) (found : List Lexeme), u.length < (taken ++ after).length →
      Lexing u found → found = lexemes u) :
    templateLength (taken ++ after) = taken.length := by
  cases tail with
  | closed => simp
  | textEnds => rfl
  | escape c later =>
    have ih := later.length_eq fun u found less => shorter u found (by simp at less ⊢; omega)
    simpa using ih
  | escapeEnds => rfl
  | @group taken after found inner code closes later =>
    have ih := later.length_eq fun u found less => shorter u found (by simp at less ⊢; omega)
    obtain rfl := shorter _ found
      (by simp only [List.cons_append, List.append_assoc, List.length_cons]; omega) code
    have ends := lexemeClosing_eq_some_iff.mpr ⟨inner, closes, rfl⟩
    have split : textOf inner ++ '}' :: (taken ++ after) =
        (textOf inner ++ ['}']) ++ (taken ++ after) := by simp
    have place : (textOf inner).length + 1 = (textOf inner ++ ['}']).length := by simp
    simp only [List.cons_append, List.append_assoc, templateLength_group, ends]
    rw [split, place, List.drop_left, ih]
    simp
    omega
  | @groupOpen t found code unclosed =>
    obtain rfl := shorter _ found
      (by simp only [List.append_nil, List.length_cons]; omega) code
    have ends := lexemeClosing_eq_none_iff.mpr unclosed
    simp [templateLength_group, ends]
  | @other c taken after notEscape notClose noGroup later =>
    have ih := later.length_eq fun u found less => shorter u found (by simp at less ⊢; omega)
    rw [List.cons_append, templateLength_other notEscape notClose noGroup, ih, List.length_cons]
  termination_by taken.length

theorem Literal.length_eq {taken after : Text} (literal : Literal taken after)
    (shorter : ∀ (u : Text) (found : List Lexeme), u.length < (taken ++ after).length →
      Lexing u found → found = lexemes u) :
    literalLength (taken ++ after) = taken.length := by
  cases literal with
  | single tail =>
    rw [List.cons_append, literalLength_flat (by simp)]
    exact congrArg (· + 1) (tail.length_eq (by decide) (by decide))
  | double tail =>
    rw [List.cons_append, literalLength_flat (by simp)]
    exact congrArg (· + 1) (tail.length_eq (by decide) (by decide))
  | line tail =>
    rw [List.cons_append, List.cons_append, literalLength_flat (by simp)]
    exact congrArg (· + 2) tail.length_eq
  | block tail =>
    rw [List.cons_append, List.cons_append, literalLength_flat (by simp)]
    exact congrArg (· + 2) tail.length_eq
  | template tail =>
    have length := tail.length_eq fun u found less => shorter u found (by simp at less ⊢; omega)
    rw [List.cons_append, literalLength_template, length, List.length_cons]

theorem Literal.ne_nil {taken after : Text} (literal : Literal taken after) : taken ≠ [] := by
  cases literal <;> simp

/-- The lexemes that the grammar gives a text are the ones that it is cut into. -/
theorem Lexing.eq_lexemes {t : Text} {found : List Lexeme} (lexing : Lexing t found) :
    found = lexemes t := by
  cases lexing with
  | nil => rfl
  | @mark c after later plain lexing =>
    have ih := lexing.eq_lexemes
    have length : literalLength (c :: after) = 0 := by
      have := literalLength_pos_iff (c :: after)
      simp_all
    rw [lexemes_of_mark length, ih]
  | @literal taken after later literal lexing =>
    have nonempty := List.length_pos_iff.mpr literal.ne_nil
    have ih := lexing.eq_lexemes
    have length := literal.length_eq fun u found less lexing => lexing.eq_lexemes
    rw [lexemes_of_literal (by omega), length, List.take_left, List.drop_left, ih]
  termination_by t.length
  decreasing_by all_goals (simp_all; try omega)

theorem Lexing.text_eq {t : Text} {found : List Lexeme} (lexing : Lexing t found) :
    textOf found = t := by
  rw [lexing.eq_lexemes, textOf_lexemes]

theorem lexing_iff {t : Text} {found : List Lexeme} : Lexing t found ↔ found = lexemes t :=
  ⟨Lexing.eq_lexemes, fun same => same ▸ lexing_lexemes t⟩

end SfcLint.Script
