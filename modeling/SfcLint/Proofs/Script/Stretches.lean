/-
# Reading a text for its separators

A text is split while it is read from the left: a literal at once, any other character alone, with
a count of the brackets that are open, and at depth zero a separator ends the stretch. So the
stretches joined by separators are the text again, and from an opening bracket to the one that
closes it all characters stay in one stretch, for the count comes back to what it was only there.
-/

import SfcLint.Proofs.Script.Matching
import SfcLint.Proofs.Script.Splitting
import SfcLint.Proofs.Text.Join

namespace SfcLint.Script

variable {separator t : Text} {depth : Nat}

/-! ## One step -/

/-- How many characters are read at once. -/
def readLength (t : Text) : Nat := max 1 (literalLength t)

/-- The depth behind what is read at a depth: a bracket is one character, and no literal begins
with one. -/
def depthAfter (depth : Nat) : Text → Nat
  | [] => depth
  | c :: _ =>
      if (Bracket.opened? c).isSome then depth + 1
      else if (Bracket.closed? c).isSome then depth - 1
      else depth

/-- A separator is taken here: at depth zero, where no literal starts and no bracket stands. -/
structure Separates (separator : Text) (depth : Nat) (t : Text) : Prop where
  outermost : depth = 0
  code : literalLength t = 0
  noBracket : ∀ c, t.head? = some c → (Lexeme.mark c).isBracket = false
  here : separator <+: t

/-- The characters that may begin a literal. -/
theorem eq_of_literal {c : Char} {t : Text} (starts : 0 < literalLength (c :: t)) :
    c = '\'' ∨ c = '"' ∨ c = '\x60' ∨ c = '/' := by
  rw [literalLength_pos_iff] at starts
  unfold startsLiteral at starts
  split at starts <;> simp_all

theorem isBracket_eq_false_of_literal {c : Char} {t : Text} (starts : 0 < literalLength (c :: t)) :
    (Lexeme.mark c).isBracket = false := by
  rcases eq_of_literal starts with rfl | rfl | rfl | rfl <;> rfl

theorem depthAfter_of_plain {c : Char} (plain : (Lexeme.mark c).isBracket = false) (t : Text) :
    depthAfter depth (c :: t) = depth := by
  rw [Lexeme.isBracket, Bool.or_eq_false_iff] at plain
  rw [depthAfter, if_neg (by simp [plain.1]), if_neg (by simp [plain.2])]

theorem readLength_le (some : t ≠ []) : readLength t ≤ t.length := by
  have nonempty := List.length_pos_iff.mpr some
  have within := literalLength_le t
  rw [readLength]
  omega

theorem readLength_pos (t : Text) : 0 < readLength t :=
  Nat.lt_of_lt_of_le Nat.one_pos (Nat.le_max_left ..)

theorem exists_first (separator : Text) (depth : Nat) (t : Text) :
    ∃ raw later, stretchesFrom separator true 0 depth t = raw :: later :=
  List.exists_cons_of_ne_nil (stretchesFrom_ne_nil true 0 depth t)

theorem stretchesFrom_false (n : Nat) (t : Text) :
    stretchesFrom separator false n depth t = stretchesFrom separator true 0 depth (t.drop n) := by
  induction t generalizing n with
  | nil => cases n <;> rfl
  | cons c t ih =>
    cases n with
    | zero => rfl
    | succ n => exact ih n

/-- What is read at once belongs to the stretch. -/
theorem stretchesFrom_read (some : t ≠ []) (inside : ¬ Separates separator depth t) :
    stretchesFrom separator true 0 depth t =
      prepend (t.take (readLength t))
        (stretchesFrom separator true 0 (depthAfter depth t) (t.drop (readLength t))) := by
  obtain ⟨c, t, rfl⟩ := List.exists_cons_of_ne_nil some
  by_cases starts : 0 < literalLength (c :: t)
  · -- The characters of a literal behind its first one are counted, and the depth waits for them.
    obtain ⟨n, length⟩ : ∃ n, literalLength (c :: t) = n + 1 :=
      ⟨_, (Nat.sub_add_cancel starts).symm⟩
    have within := literalLength_le (c :: t)
    have shorter : n ≤ t.length := by simpa [length] using within
    have read : readLength (c :: t) = n + 1 := by rw [readLength, length]; omega
    rw [depthAfter_of_plain (isBracket_eq_false_of_literal starts), read, List.take_succ_cons,
      List.drop_succ_cons, stretchesFrom, length]
    dsimp only
    rw [consFirst_eq, stretchesFrom_passing shorter, ← prepend_append]
    rfl
  · have plain : literalLength (c :: t) = 0 := by omega
    have read : readLength (c :: t) = 1 := by rw [readLength, plain]; rfl
    rw [read, stretchesFrom, plain, depthAfter]
    dsimp only
    split
    · exact consFirst_eq c _
    next notOpening =>
      split
      · exact consFirst_eq c _
      next notClosing =>
        rw [if_neg, consFirst_eq]
        · rfl
        · rintro ⟨outermost, here⟩
          refine inside ⟨outermost, plain, ?_, List.isPrefixOf_iff_prefix.mp here⟩
          intro d first
          obtain rfl := Option.some.inj first
          rw [Lexeme.isBracket, Bool.or_eq_false_iff]
          exact ⟨by simpa using notOpening, by simpa using notClosing⟩

/-- A separator ends the stretch, and the next one starts behind it. -/
theorem stretchesFrom_separates (some : separator ≠ []) (here : Separates separator depth t) :
    stretchesFrom separator true 0 depth t =
      [] :: stretchesFrom separator true 0 depth (t.drop separator.length) := by
  obtain ⟨outermost, plain, noBracket, front⟩ := here
  have width := List.length_pos_iff.mpr some
  cases t with
  | nil => exact absurd (List.prefix_nil.mp front) some
  | cons c t =>
    have plainMark := noBracket c rfl
    rw [Lexeme.isBracket, Bool.or_eq_false_iff] at plainMark
    rw [stretchesFrom, plain]
    dsimp only
    rw [if_neg (by simp [plainMark.1]), if_neg (by simp [plainMark.2]),
      if_pos ⟨outermost, List.isPrefixOf_iff_prefix.mpr front⟩, stretchesFrom_false]
    obtain ⟨n, length⟩ : ∃ n, separator.length = n + 1 := ⟨_, (Nat.sub_add_cancel width).symm⟩
    rw [length]
    rfl

/-- Reading a text to its end, be it on from what is read at once or on from a separator. -/
@[elab_as_elim]
theorem reading_induction (some : separator ≠ []) {motive : Nat → Text → Prop}
    (ends : ∀ depth, motive depth [])
    (read : ∀ depth t, t ≠ [] → ¬ Separates separator depth t →
      motive (depthAfter depth t) (t.drop (readLength t)) → motive depth t)
    (separates : ∀ depth t, Separates separator depth t →
      motive depth (t.drop separator.length) → motive depth t)
    (depth : Nat) (t : Text) : motive depth t := by
  -- Either step takes at least one character, so that the text gets shorter.
  by_cases empty : t = []
  · exact empty ▸ ends depth
  · have nonempty := List.length_pos_iff.mpr empty
    by_cases here : Separates separator depth t
    · have width := List.length_pos_iff.mpr some
      exact separates depth t here (reading_induction some ends read separates _ _)
    · have taken := readLength_pos t
      exact read depth t empty here (reading_induction some ends read separates _ _)
  termination_by t.length
  decreasing_by all_goals (rw [List.length_drop]; omega)

theorem join_prepend (front : Text) {parts : List Text} (some : parts ≠ []) :
    Text.join separator (prepend front parts) = front ++ Text.join separator parts := by
  match parts with
  | [] => contradiction
  | [part] => simp [prepend, Text.join]
  | part :: next :: later =>
    rw [prepend, Text.join_cons_cons, Text.join_cons_cons, List.append_assoc]

/-- The stretches with separators between them are the text. -/
theorem join_stretchesFrom (some : separator ≠ []) (depth : Nat) (t : Text) :
    Text.join separator (stretchesFrom separator true 0 depth t) = t := by
  induction depth, t using reading_induction some with
  | ends depth => rfl
  | read depth t nonempty inside ih =>
    rw [stretchesFrom_read nonempty inside, join_prepend _ (stretchesFrom_ne_nil _ _ _ _), ih]
    exact List.take_append_drop _ _
  | separates depth t here ih =>
    obtain ⟨rest, rfl⟩ := here.here
    rw [List.drop_left] at ih
    rw [stretchesFrom_separates some here, List.drop_left]
    obtain ⟨next, later, split⟩ := exists_first separator depth rest
    rw [split] at ih ⊢
    rw [Text.join_cons_cons, ih, List.nil_append]

theorem prefix_of_stretchesFrom {raw : Text} {later : List Text} (some : separator ≠ [])
    (split : stretchesFrom separator true 0 depth t = raw :: later) : raw <+: t := by
  have joined := join_stretchesFrom some depth t
  rw [split] at joined
  rw [← joined]
  exact Text.prefix_join separator raw later

/-! ## Groups -/

/-- The depth behind a lexeme. -/
def Lexeme.depthAfter (depth : Nat) : Lexeme → Nat
  | .mark c => Script.depthAfter depth [c]
  | .literal _ => depth

/-- What is read at once is the first lexeme of the text. -/
theorem exists_lexeme (some : t ≠ []) :
    ∃ lexeme, lexemes t = lexeme :: lexemes (t.drop (readLength t)) ∧
      lexeme.text = t.take (readLength t) ∧
      ∀ depth, lexeme.depthAfter depth = depthAfter depth t := by
  obtain ⟨c, t, rfl⟩ := List.exists_cons_of_ne_nil some
  by_cases starts : 0 < literalLength (c :: t)
  · have read : readLength (c :: t) = literalLength (c :: t) := by rw [readLength]; omega
    refine ⟨_, read ▸ lexemes_of_literal starts, rfl, fun depth => ?_⟩
    exact (depthAfter_of_plain (isBracket_eq_false_of_literal starts) t).symm
  · have plain : literalLength (c :: t) = 0 := by omega
    have read : readLength (c :: t) = 1 := by rw [readLength, plain]; rfl
    rw [read]
    exact ⟨_, lexemes_of_mark plain, rfl, fun _ => rfl⟩

/-- Read from the first depth on, the lexemes stay in the stretch and lead to the second depth. -/
def StaysOver (separator : Text) (front : List Lexeme) (depth depth' : Nat) : Prop :=
  ∀ (t : Text) (later : List Lexeme), lexemes t = front ++ later →
    stretchesFrom separator true 0 depth t =
        prepend (textOf front)
          (stretchesFrom separator true 0 depth' (t.drop (textOf front).length)) ∧
      lexemes (t.drop (textOf front).length) = later

theorem StaysOver.nil : StaysOver separator [] depth depth :=
  fun _ _ lexed => ⟨(prepend_nil (stretchesFrom_ne_nil _ _ _ _)).symm, lexed⟩

theorem StaysOver.append {front front' : List Lexeme} {depth' depth'' : Nat}
    (first : StaysOver separator front depth depth')
    (second : StaysOver separator front' depth' depth'') :
    StaysOver separator (front ++ front') depth depth'' := by
  intro t later lexed
  rw [List.append_assoc] at lexed
  -- The second part is read where the first one ends, at the depth to which it led.
  obtain ⟨read, behind⟩ := first t _ lexed
  obtain ⟨readOn, ends⟩ := second _ later behind
  rw [List.drop_drop, ← List.length_append] at readOn ends
  rw [read, readOn, ← prepend_append, textOf_append]
  exact ⟨rfl, ends⟩

/-- A lexeme that is no separator stays in the stretch. -/
theorem StaysOver.single {lexeme : Lexeme}
    (inside : ∀ t later, lexemes t = lexeme :: later → ¬ Separates separator depth t) :
    StaysOver separator [lexeme] depth (lexeme.depthAfter depth) := by
  intro t later lexed
  have some : t ≠ [] := by
    rintro rfl
    contradiction
  obtain ⟨first, split, text, same⟩ := exists_lexeme some
  obtain ⟨rfl, rfl⟩ := List.cons.inj (lexed.symm.trans split)
  have length : lexeme.text.length = readLength t := by
    rw [text, List.length_take, Nat.min_eq_left (readLength_le some)]
  rw [textOf_cons, textOf_nil, List.append_nil, same, length, text]
  exact ⟨stretchesFrom_read some (inside t _ lexed), rfl⟩

theorem StaysOver.inside {lexeme : Lexeme} (inside : 0 < depth) :
    StaysOver separator [lexeme] depth (lexeme.depthAfter depth) :=
  .single fun _ _ _ here => Nat.ne_of_gt inside here.outermost

theorem Lexeme.depthAfter_of_not_isBracket {lexeme : Lexeme} (plain : lexeme.isBracket = false) :
    lexeme.depthAfter depth = depth := by
  cases lexeme with
  | mark c => exact depthAfter_of_plain plain []
  | literal => rfl

theorem Lexeme.depthAfter_opener (kind : Bracket) :
    (Lexeme.mark kind.opener).depthAfter depth = depth + 1 := by
  simp [Lexeme.depthAfter, Script.depthAfter]

theorem Lexeme.depthAfter_closer (kind : Bracket) :
    (Lexeme.mark kind.closer).depthAfter (depth + 1) = depth := by
  simp [Lexeme.depthAfter, Script.depthAfter]

/-- Brackets are no separators, and between them there are none: a group stays in the stretch if
what it holds does. -/
theorem StaysOver.group (kind : Bracket) {inner : List Lexeme}
    (between : StaysOver separator inner (depth + 1) (depth + 1)) :
    StaysOver separator (.mark kind.opener :: (inner ++ [.mark kind.closer])) depth depth := by
  -- The opening bracket may stand at depth zero, but it is no separator.
  have opening : StaysOver separator [.mark kind.opener] depth (depth + 1) := by
    rw [← Lexeme.depthAfter_opener kind]
    refine .single fun t later lexed here => ?_
    have starts : t.head? = some kind.opener := by
      rw [← textOf_lexemes t, lexed]
      rfl
    have noBracket := here.noBracket kind.opener starts
    simp [Lexeme.isBracket] at noBracket
  have closing : StaysOver separator [.mark kind.closer] (depth + 1) depth := by
    have read : StaysOver separator [.mark kind.closer] (depth + 1)
        ((Lexeme.mark kind.closer).depthAfter (depth + 1)) := .inside (Nat.succ_pos depth)
    rwa [Lexeme.depthAfter_closer] at read
  exact opening.append (between.append closing)

/-- Within a bracket nested lexemes stay in the stretch and keep the depth. -/
theorem staysOver_of_nested {inner : List Lexeme} (nested : Nested inner) (inside : 0 < depth) :
    StaysOver separator inner depth depth := by
  induction nested generalizing depth with
  | nil => exact .nil
  | @pass lexeme _ plain _ ih =>
    have first : StaysOver separator [lexeme] depth (lexeme.depthAfter depth) := .inside inside
    rw [Lexeme.depthAfter_of_not_isBracket plain] at first
    exact first.append (ih inside)
  | group kind _ _ ihInner ihLater =>
    have first := (ihInner (Nat.succ_pos depth)).group kind
    simpa using first.append (ihLater inside)

/-- From an opening bracket to the one that closes it all characters belong to one stretch. -/
theorem stretchesFrom_encloses {start stop : Nat} (encloses : Encloses t start stop) :
    stretchesFrom separator true 0 depth (t.drop start) =
      prepend (t.slice start (stop + 1))
        (stretchesFrom separator true 0 depth (t.drop (stop + 1))) := by
  obtain ⟨kind, later, inner, lexing, ⟨nested, behind, rfl⟩, rfl⟩ := encloses
  have between : StaysOver separator inner (depth + 1) (depth + 1) :=
    staysOver_of_nested nested (Nat.succ_pos depth)
  have group := between.group kind
  have lexed : lexemes (t.drop start) =
      .mark kind.opener :: (inner ++ [.mark kind.closer]) ++ behind := by
    rw [← lexing.eq_lexemes]
    simp
  obtain ⟨read, -⟩ := group _ _ lexed
  -- The group is what the slice holds, for it has the length of the slice.
  have length : (textOf (.mark kind.opener :: (inner ++ [.mark kind.closer]))).length =
      start + (textOf inner).length + 1 + 1 - start := by
    simp only [textOf_cons, textOf_append, textOf_nil, Lexeme.text, List.length_append,
      List.length_cons, List.length_nil]
    omega
  have front : textOf (.mark kind.opener :: (inner ++ [.mark kind.closer])) <+: t.drop start := by
    rw [← textOf_lexemes (t.drop start), lexed, textOf_append]
    exact List.prefix_append _ _
  have slice := List.prefix_iff_eq_take.mp front
  have behind : start + (start + (textOf inner).length + 1 + 1 - start) =
      start + (textOf inner).length + 1 + 1 := by omega
  rw [length] at slice
  rw [read, slice, List.drop_drop, ← slice, length, behind, Text.slice, slice]

/-! ## Places that are come to -/

/-- Reading the text for its separators from the start on, a place is come to at a depth: behind
what is read at once, or behind a separator that is taken. -/
inductive Meets (separator t : Text) : Nat → Nat → Prop
  | start : Meets separator t 0 0
  | read {place depth : Nat} : Meets separator t place depth → place < t.length →
      ¬ Separates separator depth (t.drop place) →
        Meets separator t (place + readLength (t.drop place)) (depthAfter depth (t.drop place))
  | separator {place depth : Nat} : Meets separator t place depth →
      Separates separator depth (t.drop place) →
        Meets separator t (place + separator.length) depth

/-- A character is taken together with the one at a place before it: both are read at once, or both
belong to a separator. -/
def TakenWith (separator t : Text) (start depth place : Nat) : Prop :=
  start ≤ place ∧
    (¬ Separates separator depth (t.drop start) ∧ place < start + readLength (t.drop start) ∨
      Separates separator depth (t.drop start) ∧ place < start + separator.length)

/-- Every character is taken together with one that is come to. -/
theorem exists_meets (some : separator ≠ []) {place : Nat} (within : place < t.length) :
    ∃ start depth, Meets separator t start depth ∧ TakenWith separator t start depth place := by
  have width := List.length_pos_iff.mpr some
  have itself {place depth : Nat} (meets : Meets separator t place depth) :
      ∃ start depth, Meets separator t start depth ∧ TakenWith separator t start depth place := by
    have taken := readLength_pos (t.drop place)
    refine ⟨place, depth, meets, Nat.le_refl _, ?_⟩
    by_cases here : Separates separator depth (t.drop place)
    · exact .inr ⟨here, by omega⟩
    · exact .inl ⟨here, by omega⟩
  induction place with
  | zero => exact itself .start
  | succ place ih =>
    obtain ⟨start, depth, meets, before, ⟨inside, covers⟩ | ⟨here, covers⟩⟩ :=
      ih (Nat.lt_of_succ_lt within)
    -- The next character is taken with the same one, or it is the one that is come to next.
    · by_cases longer : place + 1 < start + readLength (t.drop start)
      · exact ⟨start, depth, meets, by omega, .inl ⟨inside, longer⟩⟩
      · have next := meets.read (by omega) inside
        have ends : start + readLength (t.drop start) = place + 1 := by omega
        rw [ends] at next
        exact itself next
    · by_cases longer : place + 1 < start + separator.length
      · exact ⟨start, depth, meets, by omega, .inr ⟨here, longer⟩⟩
      · have next := meets.separator here
        have ends : start + separator.length = place + 1 := by omega
        rw [ends] at next
        exact itself next

/-- The stretches are those that end before the place, and then the one that is read there, on from
what has been read of it. -/
theorem Meets.exists_split (some : separator ≠ []) {place : Nat}
    (meets : Meets separator t place depth) :
    ∃ done current, stretches separator t =
        done ++ prepend current (stretchesFrom separator true 0 depth (t.drop place)) ∧
      place = Text.joinWidth separator.length done + current.length := by
  -- Induction on how the place is come to: the stretch that is read there grows until a separator.
  induction meets with
  | start => exact ⟨[], [], (prepend_nil (stretchesFrom_ne_nil _ _ _ _)).symm, rfl⟩
  | @read place depth _ within inside ih =>
    obtain ⟨done, current, split, width⟩ := ih
    have nonempty : t.drop place ≠ [] := by
      rw [Ne, List.drop_eq_nil_iff]
      omega
    refine ⟨done, current ++ (t.drop place).take (readLength (t.drop place)), ?_, ?_⟩
    · rw [split, stretchesFrom_read nonempty inside, ← prepend_append, List.drop_drop]
    · rw [List.length_append, List.length_take, Nat.min_eq_left (readLength_le nonempty), width,
        Nat.add_assoc]
  | @separator place depth _ here ih =>
    obtain ⟨done, current, split, width⟩ := ih
    refine ⟨done ++ [current], [], ?_, ?_⟩
    · rw [split, stretchesFrom_separates some here, List.drop_drop, prepend, List.append_nil,
        prepend_nil (stretchesFrom_ne_nil _ _ _ _), List.append_assoc, List.singleton_append]
    · rw [width, Text.joinWidth_append, Text.joinWidth_cons, Text.joinWidth_nil, List.length_nil]
      omega

end SfcLint.Script
