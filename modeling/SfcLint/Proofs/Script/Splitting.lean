/-
# Splitting and comments

A list is split at commas among its lexemes, so its comments neither make nor hide a comma: the
stretches of a text without its comments are the stretches of the text without theirs.
-/

import SfcLint.Proofs.Script.Blanking
import SfcLint.Script.Split

namespace SfcLint.Script

/-- Puts something before the first of some lists. -/
def prepend {α : Type} (front : List α) : List (List α) → List (List α)
  | [] => [front]
  | part :: parts => (front ++ part) :: parts

theorem prepend_nil {α : Type} {parts : List (List α)} (some : parts ≠ []) :
    prepend [] parts = parts := by
  cases parts with
  | nil => exact absurd rfl some
  | cons part parts => rfl

theorem prepend_append {α : Type} (front middle : List α) (parts : List (List α)) :
    prepend (front ++ middle) parts = prepend front (prepend middle parts) := by
  cases parts with
  | nil => rfl
  | cons part parts => rw [prepend, prepend, prepend, List.append_assoc]

theorem prepend_ne_nil {α : Type} (front : List α) (parts : List (List α)) :
    prepend front parts ≠ [] := by
  cases parts <;> simp [prepend]

theorem consFirst_eq (c : Char) (ts : List Text) : consFirst c ts = prepend [c] ts := by
  cases ts <;> rfl

/-- The lexemes between the commas at depth zero. -/
def splitLexemes : Nat → List Lexeme → List (List Lexeme)
  | _, [] => [[]]
  | depth, .literal t :: later => prepend [.literal t] (splitLexemes depth later)
  | depth, .mark c :: later =>
      if (Bracket.opened? c).isSome then prepend [.mark c] (splitLexemes (depth + 1) later)
      else if (Bracket.closed? c).isSome then prepend [.mark c] (splitLexemes (depth - 1) later)
      else if depth = 0 ∧ c = ',' then [] :: splitLexemes depth later
      else prepend [.mark c] (splitLexemes depth later)

theorem splitLexemes_ne_nil (depth : Nat) (lexemes : List Lexeme) :
    splitLexemes depth lexemes ≠ [] := by
  fun_induction splitLexemes depth lexemes <;> simp [prepend_ne_nil]

theorem map_textOf_prepend (lexeme : Lexeme) (parts : List (List Lexeme)) :
    (prepend [lexeme] parts).map textOf = prepend lexeme.text (parts.map textOf) := by
  cases parts with
  | nil => simp [prepend]
  | cons part parts => rfl

/-! ## The stretches of a text -/

theorem stretchesFrom_ne_nil {separator : Text} (passed : Bool) (n depth : Nat) (t : Text) :
    stretchesFrom separator passed n depth t ≠ [] := by
  fun_induction stretchesFrom separator passed n depth t <;>
    simp_all [consFirst_eq, prepend_ne_nil]

theorem stretchesFrom_passing {separator : Text} {n depth : Nat} {t : Text}
    (within : n ≤ t.length) :
    stretchesFrom separator true n depth t =
      prepend (t.take n) (stretchesFrom separator true 0 depth (t.drop n)) := by
  induction n generalizing t with
  | zero =>
    rw [List.take_zero, List.drop_zero, prepend_nil (stretchesFrom_ne_nil _ _ _ _)]
  | succ n ih =>
    cases t with
    | nil => simp at within
    | cons c t =>
      rw [stretchesFrom, ih (by simpa using within), consFirst_eq, ← prepend_append]
      rfl

/-- The stretches of a text hold its lexemes between the commas. -/
theorem stretches_eq (t : Text) : stretches [','] t = (splitLexemes 0 (lexemes t)).map textOf := by
  have general (depth : Nat) (t : Text) : stretchesFrom [','] true 0 depth t =
      (splitLexemes depth (lexemes t)).map textOf := by
    -- A literal is taken at once, so the induction is on the length of the text.
    induction size : t.length using Nat.strongRecOn generalizing depth t with
    | ind n ih =>
    subst size
    cases t with
    | nil => rfl
    | cons c t =>
      by_cases starts : 0 < literalLength (c :: t)
      · obtain ⟨n, length⟩ : ∃ n, literalLength (c :: t) = n + 1 :=
          ⟨_, (Nat.sub_add_cancel starts).symm⟩
        have within := literalLength_le (c :: t)
        have shorter : n ≤ t.length := by simpa [length] using within
        rw [lexemes_of_literal starts, splitLexemes, map_textOf_prepend, stretchesFrom, length,
          List.drop_succ_cons, List.take_succ_cons]
        dsimp only
        have less : (t.drop n).length < (c :: t).length := by
          rw [List.length_drop, List.length_cons]
          omega
        rw [stretchesFrom_passing shorter, ih _ less depth (t.drop n) rfl, consFirst_eq,
          ← prepend_append]
        rfl
      · have plain : literalLength (c :: t) = 0 := by omega
        have later (depth : Nat) := ih t.length (by simp) depth t rfl
        have comma : [','].isPrefixOf (c :: t) = true ↔ c = ',' := by
          rw [List.isPrefixOf_iff_prefix, List.cons_prefix_cons]
          exact ⟨fun here => here.1.symm, fun here => ⟨here.symm, List.nil_prefix⟩⟩
        have behind : stretchesFrom [','] false ([','].length - 1) depth t =
            stretchesFrom [','] true 0 depth t := by
          cases t <;> rfl
        rw [lexemes_of_mark plain, splitLexemes, stretchesFrom, plain]
        dsimp only
        simp only [comma, consFirst_eq, behind, later]
        split
        · rw [map_textOf_prepend]
          rfl
        · split
          · rw [map_textOf_prepend]
            rfl
          · split
            · rfl
            · rw [map_textOf_prepend]
              rfl
  exact general 0 t

/-! ## Parts -/

/-- The first part begins like the whole, unless it is empty. -/
theorem mayFollow_first {depth : Nat} {t : Text} {lexemes part : List Lexeme}
    {parts : List (List Lexeme)} (lexing : Lexing t lexemes)
    (split : splitLexemes depth lexemes = part :: parts) : MayFollow t (textOf part) := by
  -- A part that a lexeme begins starts with the same character as the text.
  have begins (lexeme : Lexeme) (later : List Lexeme) (lexing : Lexing t (lexeme :: later))
      (others : List (List Lexeme)) (split : prepend [lexeme] others = part :: parts) :
      MayFollow t (textOf part) := by
    have first : ∃ rest, part = lexeme :: rest := by
      cases others with
      | nil => exact ⟨[], (List.cons.inj split).1.symm⟩
      | cons other others => exact ⟨other, (List.cons.inj split).1.symm⟩
    obtain ⟨rest, rfl⟩ := first
    refine mayFollow_of_head_eq ?_
    rw [textOf_cons]
    cases lexing with
    | mark => rfl
    | literal literal =>
      obtain ⟨c, taken, rfl⟩ := List.exists_cons_of_ne_nil literal.ne_nil
      rfl
  rw [splitLexemes.eq_def] at split
  split at split
  · obtain ⟨rfl, -⟩ := List.cons.inj split
    cases lexing
    exact mayFollow_of_head_eq rfl
  · exact begins _ _ lexing _ split
  · split at split
    · exact begins _ _ lexing _ split
    · split at split
      · exact begins _ _ lexing _ split
      · split at split
        next comma =>
          obtain ⟨rfl, -⟩ := List.cons.inj split
          obtain ⟨-, rfl⟩ := comma
          cases lexing
          exact ⟨by simp, by simp, by simp, by simp⟩
        next => exact begins _ _ lexing _ split

/-- A part between commas has its lexemes when it stands alone, too. -/
theorem lexing_of_mem_splitLexemes {depth : Nat} {t : Text} {lexemes part : List Lexeme}
    (lexing : Lexing t lexemes) (member : part ∈ splitLexemes depth lexemes) :
    Lexing (textOf part) part := by
  induction lexemes generalizing depth t part with
  | nil =>
    obtain rfl := List.mem_singleton.mp member
    exact .nil
  | cons lexeme later ih =>
    have behind : Lexing (textOf later) later := lexing.tail
    -- A lexeme that is no comma at the top begins the part that the later ones give first.
    have longer (depth : Nat) (member : part ∈ prepend [lexeme] (splitLexemes depth later)) :
        Lexing (textOf part) part := by
      cases split : splitLexemes depth later with
      | nil => exact absurd split (splitLexemes_ne_nil depth later)
      | cons first others =>
        rw [split, prepend] at member
        rcases List.mem_cons.mp member with rfl | member
        · rw [List.singleton_append, textOf_cons]
          have here : first ∈ splitLexemes depth later := by
            rw [split]
            exact List.mem_cons_self
          exact lexing_cons_follow lexing (mayFollow_first behind split) (ih behind here)
        · have here : part ∈ splitLexemes depth later := by
            rw [split]
            exact List.mem_cons_of_mem _ member
          exact ih behind here
    rw [splitLexemes.eq_def] at member
    split at member
    · contradiction
    next same =>
      obtain ⟨rfl, rfl⟩ := List.cons.inj same
      exact longer _ member
    next same =>
      obtain ⟨rfl, rfl⟩ := List.cons.inj same
      split at member
      · exact longer _ member
      · split at member
        · exact longer _ member
        · split at member
          · rcases List.mem_cons.mp member with rfl | member
            · exact .nil
            · exact ih behind member
          · exact longer _ member

/-! ## Comments -/

theorem splitLexemes_blanks {blanks : Text} (blank : ∀ c ∈ blanks, c = '\n' ∨ c = ' ')
    (depth : Nat) (lexemes : List Lexeme) :
    splitLexemes depth (blanks.map .mark ++ lexemes) =
      prepend (blanks.map .mark) (splitLexemes depth lexemes) := by
  induction blanks with
  | nil =>
    rw [List.map_nil, List.nil_append, prepend_nil (splitLexemes_ne_nil depth lexemes)]
  | cons c blanks ih =>
    rw [List.forall_mem_cons] at blank
    have plain : (Bracket.opened? c).isSome = false ∧ (Bracket.closed? c).isSome = false ∧
        c ≠ ',' := by
      rcases blank.1 with rfl | rfl
      · decide
      · decide
    rw [List.map_cons, List.cons_append, splitLexemes, ih blank.2]
    simp only [plain, and_false, if_false, Bool.false_eq_true]
    rw [← prepend_append]
    rfl

theorem map_relexed_prepend (lexeme : Lexeme) (parts : List (List Lexeme)) :
    (prepend [lexeme] parts).map (·.flatMap Lexeme.relexed) =
      prepend lexeme.relexed (parts.map (·.flatMap Lexeme.relexed)) := by
  cases parts with
  | nil => simp [prepend]
  | cons part parts => simp [prepend]

/-- Commas and brackets are no comments. -/
theorem splitLexemes_relexed (depth : Nat) (lexemes : List Lexeme) :
    splitLexemes depth (lexemes.flatMap Lexeme.relexed) =
      (splitLexemes depth lexemes).map (·.flatMap Lexeme.relexed) := by
  fun_induction splitLexemes depth lexemes with
  | case1 => rfl
  | case2 depth t later ih =>
    rw [List.flatMap_cons, map_relexed_prepend, ← ih]
    cases comment : (Lexeme.literal t).isComment with
    | false => rw [Lexeme.relexed_of_not_isComment comment, List.singleton_append, splitLexemes]
    | true =>
      obtain ⟨_, -, -, -, relexed⟩ := Lexeme.exists_of_isComment comment
      rw [relexed, splitLexemes_blanks (fun c => mem_blanked)]
  | _ => simp_all [splitLexemes, Lexeme.relexed, map_relexed_prepend]

theorem blankComments_textOf {part : List Lexeme} (lexing : Lexing (textOf part) part) :
    blankComments (textOf part) = textOf (part.flatMap Lexeme.relexed) := by
  have texts (lexemes : List Lexeme) : textOf (lexemes.flatMap Lexeme.relexed) =
      lexemes.flatMap Lexeme.uncommented := by
    induction lexemes with
    | nil => rfl
    | cons lexeme later ih =>
      rw [List.flatMap_cons, textOf_append, textOf_relexed, ih, List.flatMap_cons]
  rw [texts, blankComments, ← lexing.eq_lexemes]

/-- Without its comments a text has the stretches that it has, without theirs. -/
theorem stretches_blankComments (t : Text) :
    stretches [','] (blankComments t) = (stretches [','] t).map blankComments := by
  rw [stretches_eq, stretches_eq, lexemes_blankComments, splitLexemes_relexed, List.map_map,
    List.map_map]
  refine List.map_congr_left ?_
  intro part member
  exact (blankComments_textOf (lexing_of_mem_splitLexemes (lexing_lexemes t) member)).symm

end SfcLint.Script
