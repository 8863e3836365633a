/-
# Literals of a text that is cut off

A literal is read from the left. Behind it a text may be cut off without changing it, and a text
that is cut off within it is a literal from its first character on, for the sign that would end it
is gone. Only the two characters that begin a comment must not be cut apart: a slash alone begins
nothing.
-/

import SfcLint.Proofs.Script.Reading

namespace SfcLint.Script

/-! ## Quoted strings and comments -/

theorem quotedLength_front (quote : Char) (front back : Text) :
    quotedLength quote front = min front.length (quotedLength quote (front ++ back)) := by
  fun_induction quotedLength quote front with
  | case1 => simp
  | case2 =>
    -- The character that the backslash takes with it may be cut off.
    cases back with
    | nil => rfl
    | cons c back => simp [quotedLength_escape]
  | case3 c t ih =>
    rw [List.cons_append, List.cons_append, quotedLength_escape, List.length_cons, List.length_cons]
    omega
  | case4 t notEscape => simp [quotedLength_cons notEscape]
  | case5 t notEscape notQuote => simp [quotedLength_cons notEscape, notQuote]
  | case6 c t notEscape notQuote notBreak ih =>
    rw [List.cons_append, quotedLength_cons notEscape, if_neg notQuote, if_neg notBreak,
      List.length_cons]
    omega

theorem blockCommentLength_front (front back : Text) :
    blockCommentLength front = min front.length (blockCommentLength (front ++ back)) := by
  induction front with
  | nil => simp [blockCommentLength]
  | cons c front ih =>
    rw [List.cons_append, blockCommentLength_cons, blockCommentLength_cons, List.length_cons]
    by_cases closes : ['*', '/'] <+: c :: front
    · have behind : ['*', '/'] <+: c :: (front ++ back) :=
        closes.trans (List.prefix_append (c :: front) back)
      have within := closes.length_le
      rw [if_pos closes, if_pos behind]
      simp only [List.length_cons, List.length_nil] at within
      omega
    · rw [if_neg closes]
      split
      next behind =>
        -- The closing sign is cut apart, so that the star is the last character left.
        cases front with
        | nil => simp [blockCommentLength]
        | cons d front => exact absurd (by simpa using behind) closes
      next => omega

theorem lineLength_front (front back : Text) :
    lineLength front = min front.length (lineLength (front ++ back)) := by
  induction front with
  | nil => simp [lineLength]
  | cons c front ih =>
    unfold lineLength at ih ⊢
    rw [List.cons_append, List.takeWhile_cons, List.takeWhile_cons]
    split
    · rw [List.length_cons, List.length_cons, List.length_cons, ih]
      omega
    · simp

/-- A quoted string or a comment that is cut off takes all that is left of it. A slash of which the
second character of the comment sign is cut off takes nothing. -/
theorem flatLength_front {front : Text} (uncut : front ≠ ['/']) (back : Text) :
    flatLength front = min front.length (flatLength (front ++ back)) := by
  fun_cases flatLength front with
  | case1 t =>
    have tail := quotedLength_front '\'' t back
    change _ = min (t.length + 1) (quotedLength '\'' (t ++ back) + 1)
    omega
  | case2 t =>
    have tail := quotedLength_front '"' t back
    change _ = min (t.length + 1) (quotedLength '"' (t ++ back) + 1)
    omega
  | case3 t =>
    have tail := lineLength_front t back
    change _ = min (t.length + 2) (lineLength (t ++ back) + 2)
    omega
  | case4 t =>
    have tail := blockCommentLength_front t back
    change _ = min (t.length + 2) (blockCommentLength (t ++ back) + 2)
    omega
  | case5 front notSingle notDouble notLine notBlock =>
    -- Nothing begins in the whole text either, for both characters of a comment sign are left.
    match front with
    | [] => rfl
    | [c] =>
      have plain : flatLength (c :: back) = 0 := by
        unfold flatLength
        split <;> simp_all
      rw [List.cons_append, List.nil_append, plain, Nat.min_zero]
    | c :: d :: front =>
      have plain : flatLength (c :: d :: (front ++ back)) = 0 := by
        unfold flatLength
        split <;> simp_all
      rw [List.cons_append, List.cons_append, plain, Nat.min_zero]

theorem flatLength_whole {c : Char} {front : Text} (uncut : c :: front ≠ ['/'])
    (plain : flatLength (c :: front) = 0) (back : Text) :
    flatLength (c :: (front ++ back)) = 0 := by
  have cut := flatLength_front uncut back
  rw [plain, List.length_cons, List.cons_append] at cut
  omega

theorem uncut_of_bracket {c : Char}
    (bracket : Bracket.opened? c ≠ none ∨ Bracket.closed? c ≠ none) (front : Text) :
    c :: front ≠ ['/'] := by
  intro same
  obtain ⟨rfl, -⟩ := List.cons.inj same
  revert bracket
  decide

/-! ## Template strings -/

theorem closing_pos {passing found : Nat} {frames : List Frame} {t : Text}
    (waiting : passing ≠ 0 ∨ frames ≠ []) (finds : closing passing frames t = some found) :
    0 < found := by
  fun_induction closing passing frames t generalizing found <;> grind [Option.map_eq_some_iff]

/-- While something is passed over or open, no end is found at once. -/
theorem closing_filter_zero {passing : Nat} {frames : List Frame}
    (waiting : passing ≠ 0 ∨ frames ≠ []) (t : Text) :
    (closing passing frames t).filter (· ≤ 0) = none := by
  rw [Option.filter_eq_none_iff]
  intro found finds
  have positive := closing_pos waiting finds
  simp only [decide_eq_true_eq]
  omega

/-- No end is found before the characters that are to be passed over. -/
theorem closing_filter_of_lt {n passing : Nat} (before : n < passing) (frames : List Frame)
    (t : Text) : (closing passing frames t).filter (· ≤ n) = none := by
  rw [Option.filter_eq_none_iff]
  intro found finds
  have bounds := closing_bounds finds
  simp only [decide_eq_true_eq]
  omega

theorem filter_map_succ (found : Option Nat) (n : Nat) :
    (found.map (· + 1)).filter (· ≤ n + 1) = (found.filter (· ≤ n)).map (· + 1) := by
  cases found with
  | none => rfl
  | some m => simp [Option.filter_some, apply_ite (Option.map (· + 1))]

/-- At the last character of a text no template string ends unless by its own sign: the brace that
opens a group may be cut off from its dollar sign, but behind it more is open. -/
theorem closing_filter_cutDollar {c : Char} {frames : List Frame} (notEscape : c ≠ '\\')
    (notClose : c ≠ '\x60') (back : Text) :
    (closing 0 (.template :: frames) (c :: back)).filter (· ≤ 1) = none := by
  simp only [closing, notEscape, notClose, if_false]
  split
  · rw [filter_map_succ, closing_filter_zero (.inl (by decide)), Option.map_none]
  · rw [filter_map_succ, closing_filter_zero (.inr (by simp)), Option.map_none]

/-- A slash that is cut off from a comment is passed over, and nothing ends with it. -/
theorem closing_filter_cutSlash {kind : Bracket} {frames : List Frame} (back : Text) :
    (closing 0 (.bracket kind :: frames) ('/' :: back)).filter (· ≤ 1) = none := by
  rw [closing]
  split
  · rw [filter_map_succ, closing_filter_zero (.inr (by simp)), Option.map_none]
  · change ((closing 0 (.bracket kind :: frames) back).map (· + 1)).filter (· ≤ 0 + 1) = none
    rw [filter_map_succ, closing_filter_zero (.inr (by simp)), Option.map_none]

/-- The walk passes over as much of a literal in the whole text as in the text that is cut off, or
the literal goes on behind the cut and neither walk ends before it. -/
theorem closing_front_literal {kind : Bracket} {frames : List Frame} {c : Char} {t back : Text}
    {m : Nat} (flat : flatLength (c :: t) = m + 1)
    (later : closing m (.bracket kind :: frames) t =
      (closing m (.bracket kind :: frames) (t ++ back)).filter (· ≤ t.length)) :
    (closing m (.bracket kind :: frames) t).map (· + 1) =
      (closing 0 (.bracket kind :: frames) (c :: (t ++ back))).filter (· ≤ t.length + 1) := by
  have uncut : c :: t ≠ ['/'] := by
    intro same
    rw [same] at flat
    contradiction
  have whole := flatLength_front uncut back
  rw [flat, List.length_cons, List.cons_append] at whole
  obtain ⟨n, flatToo⟩ : ∃ n, flatLength (c :: (t ++ back)) = n + 1 :=
    Nat.exists_eq_succ_of_ne_zero (by omega)
  rw [closing, flatToo]
  rw [flatToo] at whole
  dsimp only
  rw [filter_map_succ]
  by_cases within : n ≤ t.length
  · obtain rfl : m = n := by omega
    rw [later]
  · have reached : m = t.length := by omega
    rw [closing_filter_of_lt (by omega), reached, closing_passing (Nat.le_refl _),
      List.drop_length, closing_nil (.inr (by simp))]
    rfl

/-- The walk comes to an end in a text that is cut off where it does in the whole, if it does not
come to its end behind the cut. -/
theorem closing_front (passing : Nat) (frames : List Frame) (front back : Text) :
    closing passing frames front =
      (closing passing frames (front ++ back)).filter (· ≤ front.length) := by
  -- The cases are those of the walk. All but three read one character alike in both texts; the cut
  -- is seen at a dollar sign, in a literal and at a slash.
  fun_induction closing passing frames front with
  | case1 => simp [closing, Option.filter_some]
  | case2 passing frames waiting =>
    refine (closing_filter_zero ?_ _).symm
    by_cases none : passing = 0
    · exact .inr fun empty => waiting none empty
    · exact .inl none
  | case3 passing frames c t ih =>
    rw [ih, List.length_cons, ← filter_map_succ]
    rfl
  | case4 frames t ih =>
    rw [ih, List.length_cons, ← filter_map_succ]
    rfl
  | case5 frames t _ ih =>
    rw [ih, List.length_cons, ← filter_map_succ]
    rfl
  | case6 frames c t notEscape notClose opens ih =>
    have opensToo : c = '$' ∧ (t ++ back).head? = some '{' := by simp [opens]
    rw [ih, List.length_cons, ← filter_map_succ, List.cons_append, closing, if_neg notEscape,
      if_neg notClose, if_pos opensToo]
  | case7 frames c t notEscape notClose notOpens ih =>
    cases t with
    | nil =>
      rw [closing_nil (.inr (by simp))]
      exact (closing_filter_cutDollar notEscape notClose back).symm
    | cons d t =>
      have notOpensToo : ¬ (c = '$' ∧ (d :: t ++ back).head? = some '{') := notOpens
      rw [ih, List.length_cons (a := c), ← filter_map_succ, List.cons_append (a := c), closing,
        if_neg notEscape, if_neg notClose, if_neg notOpensToo]
  | case8 kind frames c t m flat ih => exact closing_front_literal flat ih
  | case9 kind frames t flat ih =>
    rw [ih, List.length_cons, ← filter_map_succ]
    rfl
  | case10 kind frames c t flat notBack inner opens ih =>
    have uncut := uncut_of_bracket (.inl (opens ▸ Option.some_ne_none inner)) t
    rw [ih, List.length_cons, ← filter_map_succ, List.cons_append, closing,
      flatLength_whole uncut flat]
    simp only [notBack, opens, if_false]
  | case11 frames c t flat notBack closed closes opens ih =>
    have uncut := uncut_of_bracket (.inr (closes ▸ Option.some_ne_none closed)) t
    rw [ih, List.length_cons, ← filter_map_succ, List.cons_append, closing,
      flatLength_whole uncut flat]
    simp only [notBack, opens, closes, if_true, if_false]
  | case12 kind frames c t flat notBack closed closes opens wrong =>
    have uncut := uncut_of_bracket (.inr (closes ▸ Option.some_ne_none closed)) t
    rw [List.cons_append, closing, flatLength_whole uncut flat]
    simp only [notBack, opens, closes, wrong, if_false, Option.filter_none]
  | case13 kind frames c t flat notBack closes opens ih =>
    by_cases uncut : c :: t = ['/']
    · obtain ⟨rfl, rfl⟩ := List.cons.inj uncut
      rw [closing_nil (.inr (by simp))]
      exact (closing_filter_cutSlash back).symm
    · rw [ih, List.length_cons, ← filter_map_succ, List.cons_append, closing,
        flatLength_whole uncut flat]
      simp only [notBack, opens, closes, if_false]

theorem templateLength_front (front back : Text) :
    templateLength front = min front.length (templateLength (front ++ back)) := by
  rw [templateLength, closing_front 0 [.template] front back, templateLength]
  cases found : closing 0 [.template] (front ++ back) with
  | none => simp
  | some m =>
    rw [Option.filter_some, Option.getD_some]
    split
    next within =>
      rw [decide_eq_true_eq] at within
      exact (Nat.min_eq_right within).symm
    next behind =>
      rw [decide_eq_true_eq] at behind
      exact (Nat.min_eq_left (Nat.le_of_not_le behind)).symm

/-! ## Literals -/

/-- **A literal that is cut off takes all that is left of it.** -/
theorem literalLength_front {front : Text} (uncut : front ≠ ['/']) (back : Text) :
    literalLength front = min front.length (literalLength (front ++ back)) := by
  cases front with
  | nil => simp [literalLength, flatLength]
  | cons c front =>
    by_cases template : c = '\x60'
    · subst template
      have tail := templateLength_front front back
      rw [List.cons_append, literalLength_template, literalLength_template, List.length_cons]
      omega
    · have flat (rest : Text) : literalLength (c :: rest) = flatLength (c :: rest) :=
        literalLength_flat (by simpa using template)
      rw [List.cons_append, flat, flat]
      exact flatLength_front uncut back

/-- What begins with a slash is a comment, and its sign has two characters. -/
theorem literalLength_slash (t : Text) : literalLength ('/' :: t) ≠ 1 := by
  rw [literalLength_flat (by simp), flatLength.eq_def]
  split <;> simp_all

/-- Cutting a text off makes no literal. -/
theorem literalLength_front_of_plain {front back : Text}
    (plain : literalLength (front ++ back) = 0) : literalLength front = 0 := by
  by_cases cut : front = ['/']
  · rw [cut]
    rfl
  · rw [literalLength_front cut back, plain, Nat.min_zero]

end SfcLint.Script
