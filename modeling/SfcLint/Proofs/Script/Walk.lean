/-
# The walk that finds where things close

The walk keeps a stack of brackets and template strings. Here it is taken apart: what lies below a
stack is walked once the part above is empty, characters to be passed over are dropped, and a
stack of brackets only is walked lexeme by lexeme. On lexemes the walk with one bracket finds
exactly where nested lexemes and the closing bracket end.
-/

import SfcLint.Proofs.Script.Grammar

namespace SfcLint.Script

/-! ## Lengths of literals -/

theorem quotedLength_le (quote : Char) (t : Text) : quotedLength quote t ≤ t.length := by
  fun_induction quotedLength quote t <;> simp_all

theorem blockCommentLength_le (t : Text) : blockCommentLength t ≤ t.length := by
  fun_induction blockCommentLength t <;> simp_all

theorem lineLength_le (t : Text) : lineLength t ≤ t.length :=
  (List.takeWhile_sublist _).length_le

theorem flatLength_le (t : Text) : flatLength t ≤ t.length := by
  unfold flatLength
  split
  · simpa using quotedLength_le _ _
  · simpa using quotedLength_le _ _
  · simpa using lineLength_le _
  · simpa using blockCommentLength_le _
  · exact Nat.zero_le _

/-- The walk ends in the text, after the characters that are to be passed over. -/
theorem closing_bounds {n found : Nat} {frames : List Frame} {t : Text}
    (finds : closing n frames t = some found) : n ≤ found ∧ found ≤ t.length := by
  fun_induction closing n frames t generalizing found <;> grind [Option.map_eq_some_iff]

/-- The length of a template string after its opening sign. -/
def templateLength (t : Text) : Nat := (closing 0 [.template] t).getD t.length

theorem templateLength_le (t : Text) : templateLength t ≤ t.length := by
  unfold templateLength
  cases found : closing 0 [.template] t with
  | none => simp
  | some n => simpa using (closing_bounds found).2

theorem literalLength_template (t : Text) :
    literalLength ('\x60' :: t) = templateLength t + 1 := rfl

theorem literalLength_flat {t : Text} (flat : t.head? ≠ some '\x60') :
    literalLength t = flatLength t := by
  unfold literalLength
  split
  · simp at flat
  · rfl

theorem literalLength_le (t : Text) : literalLength t ≤ t.length := by
  rcases t with _ | ⟨c, t⟩
  · exact Nat.le_refl _
  by_cases back : c = '\x60'
  · subst back
    simpa [literalLength_template] using templateLength_le t
  · rw [literalLength_flat (by simpa using back)]
    exact flatLength_le _


/-- A literal has a length exactly where one starts. -/
theorem literalLength_pos_iff (t : Text) : 0 < literalLength t ↔ startsLiteral t = true := by
  unfold literalLength flatLength startsLiteral
  split
  · simp
  · split <;> simp_all

theorem closing_nil {n : Nat} {frames : List Frame} (waiting : n ≠ 0 ∨ frames ≠ []) :
    closing n frames [] = none := by
  unfold closing
  split <;> simp_all

/-- What lies below is walked once the part above is empty. -/
theorem closing_append (n : Nat) (above below : List Frame) (t : Text) :
    closing n (above ++ below) t =
      (closing n above t).bind fun taken =>
        (closing 0 below (t.drop taken)).map (· + taken) := by
  -- Both sides count the characters that are passed, and passing one more adds one to each.
  have step (found : Option Nat) (c : Char) (t : Text) :
      (found.bind fun taken => (closing 0 below (t.drop taken)).map (· + taken)).map (· + 1) =
        (found.map (· + 1)).bind fun taken =>
          (closing 0 below ((c :: t).drop taken)).map (· + taken) := by
    cases found <;> simp [Function.comp_def, Nat.add_assoc]
  fun_induction closing n above t with
  | case1 t => simp
  | case2 n above waiting =>
    have waits : n ≠ 0 ∨ above ++ below ≠ [] := by
      rcases n with _ | n
      · exact .inr fun empty => waiting rfl (List.append_eq_nil_iff.mp empty).1
      · exact .inl n.succ_ne_zero
    rw [closing_nil waits]
    rfl
  | case3 passing above c t ih => rw [← step, ← ih]; rfl
  | case4 above t ih => rw [← step, ← ih]; rfl
  | case5 above t _ ih => rw [← step, ← ih]; rfl
  | case6 above c t _ _ opens ih =>
    rw [← step, ← ih]
    simp_all [closing]
  | case7 above c t _ _ opens ih =>
    rw [← step, ← ih]
    simp_all [closing]
  | case8 kind above c t n flat ih =>
    rw [← step, ← ih]
    simp only [List.cons_append, closing, flat]
  | case9 kind above t flat ih =>
    rw [← step, ← ih]
    simp [List.cons_append, closing, flat]
  | case10 kind above c t flat notBack inner opens ih =>
    rw [← step, ← ih]
    simp [List.cons_append, closing, flat, notBack, opens]
  | case11 above c t flat notBack closed closes opens ih =>
    rw [← step, ← ih]
    simp [closing, flat, notBack, opens, closes]
  | case12 kind above c t flat notBack closed closes opens wrong =>
    simp [closing, flat, notBack, opens, closes, wrong]
  | case13 kind above c t flat notBack closes opens ih =>
    rw [← step, ← ih]
    simp [closing, flat, notBack, opens, closes]

/-- Characters to be passed over are dropped. -/
theorem closing_passing {n : Nat} {frames : List Frame} {t : Text} (within : n ≤ t.length) :
    closing n frames t = (closing 0 frames (t.drop n)).map (· + n) := by
  induction n generalizing t with
  | zero => simp
  | succ n ih =>
    cases t with
    | nil => simp at within
    | cons c t =>
      have rest := ih (t := t) (by simpa using within)
      simp only [closing, rest, List.drop_succ_cons, Option.map_map]
      rfl

/-! ## The lexemes of a text -/

theorem lexemesFrom_eq (n : Nat) (t : Text) : lexemesFrom n t = lexemes (t.drop n) := by
  induction t generalizing n with
  | nil => simp [lexemesFrom, lexemes]
  | cons c t ih =>
    cases n with
    | zero => rfl
    | succ n => simpa [lexemesFrom] using ih n

@[simp]
theorem lexemes_nil : lexemes [] = [] := rfl

theorem lexemes_of_mark {c : Char} {t : Text} (plain : literalLength (c :: t) = 0) :
    lexemes (c :: t) = .mark c :: lexemes t := by
  rw [lexemes, lexemesFrom, plain]
  rfl

theorem lexemes_of_literal {t : Text} (starts : 0 < literalLength t) :
    lexemes t =
      .literal (t.take (literalLength t)) :: lexemes (t.drop (literalLength t)) := by
  cases t with
  | nil => simp [literalLength, flatLength] at starts
  | cons c t =>
    obtain ⟨n, length⟩ : ∃ n, literalLength (c :: t) = n + 1 := ⟨_, (Nat.sub_add_cancel starts).symm⟩
    rw [lexemes, lexemesFrom, length]
    simp [lexemesFrom_eq]

/-- How far it is through some lexemes to where a stack of brackets becomes empty. -/
def lexemeClosing : List Bracket → List Lexeme → Option Nat
  | [], _ => some 0
  | _ :: _, [] => none
  | kind :: below, .literal t :: later =>
      (lexemeClosing (kind :: below) later).map (· + t.length)
  | kind :: below, .mark c :: later =>
      match Bracket.opened? c, Bracket.closed? c with
      | some inner, _ => (lexemeClosing (inner :: kind :: below) later).map (· + 1)
      | none, some closed =>
          if closed = kind then (lexemeClosing below later).map (· + 1) else none
      | none, none => (lexemeClosing (kind :: below) later).map (· + 1)


theorem literalLength_eq_zero {c : Char} {t : Text} (plain : literalLength (c :: t) = 0) :
    c ≠ '\x60' ∧ flatLength (c :: t) = 0 := by
  have notBack : c ≠ '\x60' := by
    rintro rfl
    simp [literalLength_template] at plain
  rw [literalLength_flat (by simpa using notBack)] at plain
  exact ⟨notBack, plain⟩

/-- Between brackets a literal is passed over as a whole. -/
theorem closing_literal (kind : Bracket) (below : List Frame) {t : Text}
    (starts : 0 < literalLength t) :
    closing 0 (.bracket kind :: below) t =
      (closing 0 (.bracket kind :: below) (t.drop (literalLength t))).map
        (· + literalLength t) := by
  match t with
  | [] => simp [literalLength, flatLength] at starts
  | c :: t =>
    by_cases back : c = '\x60'
    · subst back
      have walk : closing 0 (.bracket kind :: below) ('\x60' :: t) =
          (closing 0 ([.template] ++ .bracket kind :: below) t).map (· + 1) := by
        simp [closing, flatLength]
      rw [walk, closing_append, literalLength_template, templateLength, List.drop_succ_cons]
      cases found : closing 0 [.template] t with
      | none => simp [closing_nil]
      | some n => simp [Function.comp_def, Nat.add_assoc]
    · have flat : literalLength (c :: t) = flatLength (c :: t) :=
        literalLength_flat (by simpa using back)
      have within := flatLength_le (c :: t)
      rw [flat] at starts ⊢
      obtain ⟨n, length⟩ : ∃ n, flatLength (c :: t) = n + 1 :=
        ⟨_, (Nat.sub_add_cancel starts).symm⟩
      have passed : closing n (.bracket kind :: below) t =
          (closing 0 (.bracket kind :: below) (t.drop n)).map (· + n) :=
        closing_passing (by simpa [length] using within)
      rw [length, List.drop_succ_cons, closing, length]
      simp [passed, Function.comp_def, Nat.add_assoc]

/-- A stack of brackets is walked lexeme by lexeme. -/
theorem closing_brackets (kinds : List Bracket) (t : Text) :
    closing 0 (kinds.map .bracket) t = lexemeClosing kinds (lexemes t) := by
  match kinds, t with
  | [], t => simp [closing, lexemeClosing]
  | kind :: below, [] => rfl
  | kind :: below, c :: t =>
    by_cases starts : 0 < literalLength (c :: t)
    · have within := literalLength_le (c :: t)
      have shorter : ((c :: t).drop (literalLength (c :: t))).length < (c :: t).length := by
        rw [List.length_drop]
        omega
      have ih := closing_brackets (kind :: below) ((c :: t).drop (literalLength (c :: t)))
      rw [lexemes_of_literal starts, lexemeClosing, ← ih, List.length_take,
        Nat.min_eq_left within]
      exact closing_literal kind _ starts
    · have plain : literalLength (c :: t) = 0 := by omega
      have ih (kinds : List Bracket) := closing_brackets kinds t
      obtain ⟨notBack, flat⟩ := literalLength_eq_zero plain
      rw [lexemes_of_mark plain, lexemeClosing, List.map_cons, closing, flat]
      simp only [notBack, if_false]
      split <;> simp_all [← ih]
  termination_by t.length


/-! ## Nested lexemes -/

theorem lexemeClosing_pass (kind : Bracket) (below : List Bracket) {lexeme : Lexeme}
    (plain : lexeme.isBracket = false) (later : List Lexeme) :
    lexemeClosing (kind :: below) (lexeme :: later) =
      (lexemeClosing (kind :: below) later).map (· + lexeme.text.length) := by
  cases lexeme with
  | literal t => rfl
  | mark c =>
    simp only [Lexeme.isBracket, Bool.or_eq_false_iff, Option.isSome_eq_false_iff,
      Option.isNone_iff_eq_none] at plain
    simp [lexemeClosing, plain, Lexeme.text]

@[simp]
theorem lexemeClosing_opener (inner kind : Bracket) (below : List Bracket)
    (later : List Lexeme) :
    lexemeClosing (kind :: below) (.mark inner.opener :: later) =
      (lexemeClosing (inner :: kind :: below) later).map (· + 1) := by
  simp [lexemeClosing]

@[simp]
theorem lexemeClosing_closer (kind : Bracket) (below : List Bracket) (later : List Lexeme) :
    lexemeClosing (kind :: below) (.mark kind.closer :: later) =
      (lexemeClosing below later).map (· + 1) := by
  simp [lexemeClosing]

/-- Nested lexemes leave the stack as they found it. -/
theorem lexemeClosing_nested (kind : Bracket) (below : List Bracket) {inner : List Lexeme}
    (nested : Nested inner) (later : List Lexeme) :
    lexemeClosing (kind :: below) (inner ++ later) =
      (lexemeClosing (kind :: below) later).map (· + (textOf inner).length) := by
  induction nested generalizing kind below later with
  | nil => simp
  | pass plain _ ih =>
    rw [List.cons_append, lexemeClosing_pass kind below plain, ih]
    simp [Function.comp_def, Nat.add_assoc, Nat.add_comm]
  | group opened _ _ ihInner ihLater =>
    rw [List.cons_append, List.append_assoc, List.cons_append, lexemeClosing_opener, ihInner,
      lexemeClosing_closer, ihLater]
    simp [Function.comp_def, Lexeme.text]
    congr 1
    funext n
    omega

/-- Where the walk finds the latest bracket closed, nested lexemes and the closing bracket stand
before. -/
theorem exists_nested_of_lexemeClosing {kind : Bracket} {below : List Bracket} {n : Nat}
    {lexemes : List Lexeme} (finds : lexemeClosing (kind :: below) lexemes = some n) :
    ∃ inner later m, Nested inner ∧ lexemes = inner ++ .mark kind.closer :: later ∧
      lexemeClosing below later = some m ∧ n = (textOf inner).length + 1 + m := by
  match lexemes with
  | [] => simp [lexemeClosing] at finds
  | .literal t :: rest =>
    rw [lexemeClosing, Option.map_eq_some_iff] at finds
    obtain ⟨m, finds, rfl⟩ := finds
    obtain ⟨inner, later, k, nested, rfl, ends, rfl⟩ := exists_nested_of_lexemeClosing finds
    refine ⟨.literal t :: inner, later, k, .pass rfl nested, rfl, ends, ?_⟩
    simp [Lexeme.text]
    omega
  | .mark c :: rest =>
    rw [lexemeClosing] at finds
    split at finds
    next _ _ innerKind opens =>
      -- The inner bracket is closed first, and then the search goes on behind it.
      rw [Option.map_eq_some_iff] at finds
      obtain ⟨m, findsInner, rfl⟩ := finds
      obtain ⟨first, behind, k, nestedFirst, rfl, findsBehind, rfl⟩ :=
        exists_nested_of_lexemeClosing findsInner
      obtain ⟨second, later, k, nestedSecond, rfl, ends, rfl⟩ :=
        exists_nested_of_lexemeClosing findsBehind
      obtain rfl := Bracket.opened?_eq_some_iff.mp opens
      refine ⟨_, later, k, .group innerKind nestedFirst nestedSecond, by simp, ends, ?_⟩
      simp [Lexeme.text]
      omega
    next _ _ closed opens closes =>
      rw [Option.ite_none_right_eq_some, Option.map_eq_some_iff] at finds
      obtain ⟨rfl, m, finds, rfl⟩ := finds
      obtain rfl := Bracket.closed?_eq_some_iff.mp closes
      exact ⟨[], rest, m, .nil, rfl, finds, by simp [Nat.add_comm]⟩
    next _ _ opens closes =>
      rw [Option.map_eq_some_iff] at finds
      obtain ⟨m, finds, rfl⟩ := finds
      obtain ⟨inner, later, k, nested, rfl, ends, rfl⟩ := exists_nested_of_lexemeClosing finds
      have plain : (Lexeme.mark c).isBracket = false := by simp [Lexeme.isBracket, opens, closes]
      refine ⟨.mark c :: inner, later, k, .pass plain nested, rfl, ends, ?_⟩
      simp [Lexeme.text]
      omega
  termination_by lexemes.length

/-- The walk with one bracket finds where nested lexemes and the closing bracket end. -/
theorem lexemeClosing_eq_some_iff {kind : Bracket} {lexemes : List Lexeme} {n : Nat} :
    lexemeClosing [kind] lexemes = some n ↔
      ∃ inner, Closes kind lexemes inner ∧ n = (textOf inner).length + 1 := by
  constructor
  · intro finds
    obtain ⟨inner, later, m, nested, rfl, ends, rfl⟩ := exists_nested_of_lexemeClosing finds
    obtain rfl : 0 = m := by simpa [lexemeClosing] using ends
    exact ⟨inner, ⟨nested, later, by simp⟩, rfl⟩
  · rintro ⟨inner, ⟨nested, later, rfl⟩, rfl⟩
    rw [List.append_assoc, lexemeClosing_nested kind [] nested, List.singleton_append,
      lexemeClosing_closer]
    simp [lexemeClosing, Nat.add_comm]

theorem lexemeClosing_eq_none_iff {kind : Bracket} {lexemes : List Lexeme} :
    lexemeClosing [kind] lexemes = none ↔ ∀ inner, ¬ Closes kind lexemes inner := by
  rw [Option.eq_none_iff_forall_ne_some]
  constructor
  · intro misses inner closes
    exact misses _ (lexemeClosing_eq_some_iff.mpr ⟨inner, closes, rfl⟩)
  · intro open_ n finds
    obtain ⟨inner, closes, -⟩ := lexemeClosing_eq_some_iff.mp finds
    exact open_ inner closes

end SfcLint.Script
