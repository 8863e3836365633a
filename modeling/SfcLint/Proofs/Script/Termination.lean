/-
# Every scan ends

Read by rounds, a text gives what it gives when it is read as a whole: the same literals, closing
brackets, blocks, pieces, expressions and comments. Each round outside literals passes at least one
character, and a literal or a group ends within the text, so that a round for each character and
one more are enough.
-/

import SfcLint.Proofs.Script.Expressions
import SfcLint.Proofs.Script.Layout
import SfcLint.Proofs.Script.Pieces
import SfcLint.Proofs.Script.Rounds

namespace SfcLint.Script.Rounds

variable {limits : Limits} {t separator : Text} {place start n : Nat} {c opener : Char}

/-! ## Blocks -/

theorem spanFrom_opener (cover : limits.Cover t) {kind : Bracket}
    (opens : t[place]? = some kind.opener) : spanFrom limits t place = .ok (spanAt? t place) := by
  rw [spanFrom, closer_opener cover opens]
  cases found : spanAt? t place with
  | none => rfl
  | some span =>
    obtain ⟨same, -, body⟩ := spanAt?_eq_some_iff.mp found
    obtain ⟨first, stop, inner⟩ := span
    dsimp only at same body
    subst same body
    rfl

theorem spanFrom_other (cover : limits.Cover t) (here : t[place]? = some c)
    (other : Bracket.opened? c = none) :
    spanFrom limits t place = .error (.noOpening ⟨place⟩) := by
  have missing : matching? t place = .error ⟨place⟩ := by
    have found : matching? t (Int.ofNat place) = .error ⟨place⟩ := by simp [matching?, here, other]
    exact found
  rw [spanFrom, closer_eq cover, missing]
  rfl

theorem getElem?_of_markOffset? {lexemes : List Lexeme} (found : markOffset? c lexemes = some n) :
    (textOf lexemes)[n]? = some c := by
  fun_induction markOffset? c lexemes generalizing n with
  | case1 => contradiction
  | case2 =>
    obtain rfl := Option.some.inj found
    rfl
  | case3 d later other ih =>
    obtain ⟨m, foundLater, rfl⟩ := Option.map_eq_some_iff.mp found
    exact ih foundLater
  | case4 u later ih =>
    obtain ⟨m, foundLater, rfl⟩ := Option.map_eq_some_iff.mp found
    rw [textOf_cons, Lexeme.text, List.getElem?_append_right (Nat.le_add_left _ _),
      Nat.add_sub_cancel_right]
    exact ih foundLater

/-- The search for a block comes to the first such character in code and looks for the end of the
span there. -/
theorem blockFrom_eq (cover : limits.Cover t) (start : Nat) (opener : Char) :
    blockFrom limits t start opener =
      match markOffset? opener (lexemes (t.drop start)) with
      | none => .ok none
      | some n => spanFrom limits t (start + n) := by
  refine loop_eq (fun _ => True) (fun place => t.length - place)
    (fun place => match markOffset? opener (lexemes (t.drop place)) with
      | none => .ok none
      | some n => spanFrom limits t (place + n))
    (fun place _ => ?_) trivial (Nat.lt_of_le_of_lt (Nat.sub_le _ _) cover.rounds)
  cases standing t place with
  | ended ended =>
    refine .done none (codeRound_ended ended) ?_
    rw [List.drop_eq_nil_of_le ended]
    rfl
  | literal within starts =>
    have bound := literalLength_le (t.drop place)
    refine .next (place + literalLength (t.drop place))
      (codeRound_literal (literalEnd_eq cover within) within starts) trivial (by omega) ?_
    rw [lexemes_drop_literal starts, markOffset?, List.length_take, Nat.min_eq_left bound]
    cases markOffset? opener (lexemes (t.drop (place + literalLength (t.drop place)))) with
    | none => rfl
    | some n => exact congrArg (spanFrom limits t) (by dsimp only; omega)
  | mark c here plain =>
    have within := lt_of_getElem? here
    have comes : blockRound limits t opener place = _ :=
      codeRound_mark (literalEnd_eq cover within) here plain
    by_cases same : c = opener
    · rw [if_pos same] at comes
      have first : markOffset? opener (lexemes (t.drop place)) = some 0 := by
        rw [lexemes_drop_mark here plain, markOffset?, if_pos same]
      -- The loop ends here, be there a bracket to start from or not.
      cases found : spanFrom limits t place with
      | error cause =>
        rw [found] at comes
        exact .halt cause comes (by rw [first]; exact found)
      | ok span =>
        rw [found] at comes
        exact .done span comes (by rw [first]; exact found)
    · rw [if_neg same] at comes
      refine .next (place + 1) comes trivial (by omega) ?_
      rw [lexemes_drop_mark here plain, markOffset?, if_neg same]
      cases markOffset? opener (lexemes (t.drop (place + 1))) with
      | none => rfl
      | some n => exact congrArg (spanFrom limits t) (by dsimp only; omega)

theorem blockFrom_opener (cover : limits.Cover t) (start : Nat) (kind : Bracket) :
    blockFrom limits t start kind.opener = .ok (blockAfter? t start kind.opener) := by
  rw [blockFrom_eq cover, blockAfter?]
  cases found : markOffset? kind.opener (lexemes (t.drop start)) with
  | none => rfl
  | some n =>
    have opens := getElem?_of_markOffset? found
    rw [textOf_lexemes, List.getElem?_drop] at opens
    exact spanFrom_opener cover opens

/-! ## Pieces -/

theorem slice_append_take (later : start ≤ place) (n : Nat) :
    t.slice start place ++ (t.drop place).take n = t.slice start (place + n) := by
  have split : t.drop place = (t.drop start).drop (place - start) := by
    rw [List.drop_drop, Nat.add_sub_cancel' later]
  have width : place + n - start = (place - start) + n := by omega
  rw [Text.slice, Text.slice, split, width, List.take_add]

theorem length_slice (later : start ≤ place) (within : place ≤ t.length) :
    (t.slice start place).length = place - start := by
  rw [Text.slice, List.length_take, List.length_drop]
  omega

/-- The first stretch gives its piece, and the others give theirs behind a separator. -/
theorem piecesFrom_first (gap offset : Nat) (raw : Text) (later : List Text) :
    piecesFrom gap offset (raw :: later) =
      piecesFrom 0 offset [raw] ++ piecesFrom gap (offset + raw.length + gap) later := by
  rw [piecesFrom_cons, piecesFrom_cons, piecesFrom]
  split
  · rw [List.nil_append]
  · rw [List.singleton_append]

/-- The pieces that splitting comes to from a state: those that it has, the one that its stretch
begins, and those behind. -/
def Splitting.answer (state : Splitting) (t separator : Text) : List Piece :=
  state.pieces ++ piecesFrom separator.length state.start
    (prepend (t.slice state.start state.place)
      (stretchesFrom separator true 0 state.depth (t.drop state.place)))

theorem Splitting.answer_ended (state : Splitting) (ended : t.length ≤ state.place) :
    state.answer t separator = state.upTo t t.length := by
  have whole : t.slice state.start state.place = t.slice state.start t.length := by
    have length : (t.drop state.start).length = t.length - state.start := List.length_drop
    rw [Text.slice, Text.slice, List.take_of_length_le (by omega),
      List.take_of_length_le (by omega)]
  rw [Splitting.answer, Splitting.upTo, List.drop_eq_nil_of_le ended, stretchesFrom, prepend,
    List.append_nil, whole, piecesFrom_first, piecesFrom, List.append_nil]

/-- What is read at once belongs to the stretch. -/
theorem Splitting.answer_read (state : Splitting) (later : state.start ≤ state.place)
    (within : state.place < t.length)
    (inside : ¬ Separates separator state.depth (t.drop state.place)) :
    { state with
        depth := depthAfter state.depth (t.drop state.place)
        place := state.place + readLength (t.drop state.place) : Splitting }.answer t separator =
      state.answer t separator := by
  have some : t.drop state.place ≠ [] := by
    rw [Ne, List.drop_eq_nil_iff]
    omega
  rw [Splitting.answer, Splitting.answer, stretchesFrom_read some inside, ← prepend_append,
    slice_append_take later, List.drop_drop]

/-- A separator ends the stretch. -/
theorem Splitting.answer_separates (state : Splitting) (later : state.start ≤ state.place)
    (within : state.place < t.length) (some : separator ≠ [])
    (here : Separates separator state.depth (t.drop state.place)) :
    Splitting.answer
        ⟨state.depth, state.place + separator.length, state.place + separator.length,
          state.upTo t state.place⟩ t separator =
      state.answer t separator := by
  have nothing (place : Nat) : t.slice place place = [] := by
    rw [Text.slice, Nat.sub_self, List.take_zero]
  have behind : state.start + (state.place - state.start) + separator.length =
      state.place + separator.length := by omega
  rw [Splitting.answer, Splitting.answer, stretchesFrom_separates some here, List.drop_drop,
    nothing, prepend_nil (stretchesFrom_ne_nil _ _ _ _), prepend, List.append_nil,
    piecesFrom_first, length_slice later (Nat.le_of_lt within), behind, Splitting.upTo,
    List.append_assoc]

theorem depthAfter_of_literal {t : Text} (starts : 0 < literalLength t) (depth : Nat) :
    depthAfter depth t = depth := by
  cases t with
  | nil => rfl
  | cons c t => exact depthAfter_of_plain (isBracket_eq_false_of_literal starts) t

theorem splitRound_read (cover : limits.Cover t) (state : Splitting)
    (within : state.place < t.length)
    (inside : ¬ Separates separator state.depth (t.drop state.place)) :
    splitRound limits t separator state =
      .ok (.next { state with
        depth := depthAfter state.depth (t.drop state.place)
        place := state.place + readLength (t.drop state.place) }) := by
  have reads := literalEnd_eq cover within
  cases standing t state.place with
  | ended ended => omega
  | literal _ starts =>
    have read : readLength (t.drop state.place) = literalLength (t.drop state.place) :=
      Nat.max_eq_right starts
    rw [splitRound, codeRound_literal reads within starts, read, depthAfter_of_literal starts]
  | mark c here plain =>
    have split := drop_eq_cons here
    have read : readLength (t.drop state.place) = 1 := by rw [readLength, plain]; rfl
    have depth : depthAfter state.depth (t.drop state.place) = _ := congrArg _ split
    rw [depthAfter] at depth
    -- The round asks for brackets in the order in which the depth is counted.
    rw [splitRound, codeRound_mark reads here plain, read, depth]
    by_cases opens : (Bracket.opened? c).isSome = true
    · rw [if_pos opens, if_pos opens]
    by_cases closes : (Bracket.closed? c).isSome = true
    · rw [if_neg opens, if_neg opens, if_pos closes, if_pos closes]
    · have noSeparator : ¬ (state.depth = 0 ∧ separator.isPrefixOf (t.drop state.place)) := by
        rintro ⟨outermost, stands⟩
        refine inside ⟨outermost, plain, ?_, List.isPrefixOf_iff_prefix.mp stands⟩
        intro d first
        obtain rfl : c = d := by
          rw [split] at first
          exact Option.some.inj first
        rw [Lexeme.isBracket, Bool.or_eq_false_iff]
        exact ⟨by simpa using opens, by simpa using closes⟩
      rw [if_neg opens, if_neg opens, if_neg closes, if_neg closes, if_neg noSeparator]

theorem splitRound_separates (cover : limits.Cover t) (state : Splitting)
    (within : state.place < t.length)
    (here : Separates separator state.depth (t.drop state.place)) :
    splitRound limits t separator state =
      .ok (.next ⟨state.depth, state.place + separator.length, state.place + separator.length,
        state.upTo t state.place⟩) := by
  obtain ⟨outermost, plain, noBracket, stands⟩ := here
  have mark : t[state.place]? = some t[state.place] := List.getElem?_eq_getElem within
  have code := noBracket t[state.place] (by rw [List.head?_drop, mark])
  rw [Lexeme.isBracket, Bool.or_eq_false_iff] at code
  rw [splitRound, codeRound_mark (literalEnd_eq cover within) mark plain,
    if_neg (by simp [code.1]), if_neg (by simp [code.2]),
    if_pos ⟨outermost, List.isPrefixOf_iff_prefix.mpr stands⟩]

theorem pieces_eq (cover : limits.Cover t) (some : separator ≠ []) :
    pieces limits t separator = .ok (splitSpans t separator) := by
  have first : Splitting.answer ⟨0, 0, 0, []⟩ t separator = splitSpans t separator := by
    have nothing : t.slice 0 0 = [] := rfl
    rw [Splitting.answer, nothing, List.drop_zero, prepend_nil (stretchesFrom_ne_nil _ _ _ _)]
    rfl
  rw [← first]
  refine loop_eq (fun state : Splitting => state.start ≤ state.place)
    (fun state => t.length - state.place) (fun state => .ok (state.answer t separator))
    (fun state later => ?_) (Nat.le_refl _) cover.rounds
  -- A separator is not empty and what is read at once is not either, so the place moves on.
  by_cases within : state.place < t.length
  · by_cases here : Separates separator state.depth (t.drop state.place)
    · have width := List.length_pos_iff.mpr some
      exact .next _ (splitRound_separates cover state within here) (Nat.le_refl _)
        (by dsimp only; omega) (congrArg _ (state.answer_separates later within some here))
    · have taken := readLength_pos (t.drop state.place)
      exact .next _ (splitRound_read cover state within here) (Nat.le_add_right_of_le later)
        (by dsimp only; omega) (congrArg _ (state.answer_read later within here))
  · have ended : t.length ≤ state.place := Nat.le_of_not_lt within
    exact .done _ (codeRound_ended ended) (by rw [state.answer_ended ended])

/-- An empty separator is found at a character of code again and again: where the text starts with
one that is no bracket, splitting would never end. -/
theorem pieces_empty_separator (cover : limits.Cover t) (here : t[0]? = some c)
    (code : literalLength t = 0) (plain : (Lexeme.mark c).isBracket = false) :
    pieces limits t [] = .error .tooManyRounds := by
  have separates : Separates [] 0 t := by
    refine ⟨rfl, code, fun d first => ?_, List.nil_prefix⟩
    rw [List.head?_eq_getElem?, here] at first
    exact Option.some.inj first ▸ plain
  have stays : splitRound limits t [] ⟨0, 0, 0, []⟩ = .ok (.next ⟨0, 0, 0, []⟩) :=
    splitRound_separates cover ⟨0, 0, 0, []⟩ (lt_of_getElem? here) separates
  exact loop_of_stays stays

/-! ## Expressions -/

theorem expressionLength_literalLength {t : Text} (starts : 0 < literalLength t) :
    expressionLength 0 t = literalLength t + expressionLength 0 (t.drop (literalLength t)) := by
  have taken : (t.take (literalLength t)).length = literalLength t := by
    rw [List.length_take, Nat.min_eq_left (literalLength_le t)]
  have literal := expressionLength_literal (literal_take starts fun u _ => lexing_lexemes u)
  rwa [List.take_append_drop, taken] at literal

/-- Where a group opens in an expression, the expression goes on behind the closing bracket, or it
takes the rest of the text. -/
theorem min_expression_opener {kind : Bracket} (opens : t[place]? = some kind.opener) :
    min t.length (place + expressionLength 0 (t.drop place)) =
      match (spanAt? t place).map (·.stop) with
      | some close => min t.length (close + 1 + expressionLength 0 (t.drop (close + 1)))
      | none => t.length := by
  have within := lt_of_getElem? opens
  have code : literalLength (kind.opener :: t.drop (place + 1)) = 0 := by
    cases kind <;> rfl
  rw [spanAt?_opener opens, Option.map_map, drop_eq_cons opens, expressionLength, code]
  dsimp only
  rw [Bracket.opened?_opener]
  dsimp only
  -- The expression walks on from the bracket, and the span is found among the lexemes behind it.
  have walk := closing_brackets [kind] (t.drop (place + 1))
  rw [List.map_singleton] at walk
  rw [← walk]
  cases stops : closing 0 [.bracket kind] (t.drop (place + 1)) with
  | none =>
    dsimp only
    rw [List.length_drop, Nat.min_eq_left (by omega)]
    rfl
  | some n =>
    have inside := (closing_bounds stops).2
    have passing := expressionLength_passing ((t.drop (place + 1)).take n)
      ((t.drop (place + 1)).drop n)
    rw [List.take_append_drop, List.length_take, Nat.min_eq_left inside, List.drop_drop] at passing
    have behind : place + n + 1 = place + 1 + n := by omega
    have sum (m : Nat) : place + (n + m + 1) = place + n + 1 + m := by omega
    dsimp only
    rw [passing, sum, ← behind]
    rfl

/-- An expression is read to its end, or to the end of the text. -/
theorem expressionEnd_eq (cover : limits.Cover t) (start : Nat) :
    expressionEnd limits t start =
      .ok (min t.length (start + expressionLength 0 (t.drop start))) := by
  refine loop_eq (fun _ => True) (fun place => t.length - place)
    (fun place => .ok (min t.length (place + expressionLength 0 (t.drop place))))
    (fun place _ => ?_) trivial (Nat.lt_of_le_of_lt (Nat.sub_le _ _) cover.rounds)
  cases standing t place with
  | ended ended =>
    exact .done t.length (codeRound_ended ended) (by rw [Nat.min_eq_left (by omega)])
  | literal within starts =>
    refine .next (place + literalLength (t.drop place))
      (codeRound_literal (literalEnd_eq cover within) within starts) trivial (by omega) ?_
    rw [expressionLength_literalLength starts, List.drop_drop, Nat.add_assoc]
  | mark c here plain =>
    have within := lt_of_getElem? here
    have split := drop_eq_cons here
    have comes : expressionRound limits t place = _ :=
      codeRound_mark (literalEnd_eq cover within) here plain
    -- A group is passed over at once, and other brackets and separators end the expression.
    by_cases opens : (Bracket.opened? c).isSome = true
    · obtain ⟨kind, opens'⟩ := Option.isSome_iff_exists.mp opens
      obtain rfl := Bracket.opened?_eq_some_iff.mp opens'
      have onward := min_expression_opener here
      rw [if_pos opens, closer_opener cover here] at comes
      cases stops : (spanAt? t place).map (·.stop) with
      | none =>
        rw [stops] at comes onward
        exact .done t.length comes (congrArg _ onward)
      | some close =>
        have ordered := (map_stop_spanAt?_eq_some_iff.mp stops).brackets.1
        rw [stops] at comes onward
        exact .next (close + 1) comes trivial (by omega) (congrArg _ onward.symm)
    · have noBracket : Bracket.opened? c = none := by simpa using opens
      rw [if_neg opens] at comes
      rw [split] at plain
      by_cases stops : ((Bracket.closed? c).isSome || c == ',' || c == ';') = true
      · rw [if_pos stops] at comes
        refine .done place comes ?_
        rw [split, expressionLength, plain, noBracket]
        dsimp only
        rw [if_pos stops, Nat.add_zero, Nat.min_eq_right (Nat.le_of_lt within)]
      · rw [if_neg stops] at comes
        refine .next (place + 1) comes trivial (by omega) ?_
        rw [split, expressionLength, plain, noBracket]
        dsimp only
        rw [if_neg stops, Nat.add_assoc, Nat.add_comm 1]

/-! ## Comments -/

/-- The stretches that the comments among some lexemes take. -/
def commentSpans : Nat → List Lexeme → List (Int × Int)
  | _, [] => []
  | place, lexeme :: later =>
      let behind := place + lexeme.text.length
      if lexeme.isComment then (↑place, ↑behind) :: commentSpans behind later
      else commentSpans behind later

/-- The place is in one of the stretches. -/
def inStretch (spans : List (Int × Int)) (place : Nat) : Bool :=
  spans.any fun (start, stop) => start ≤ place && place < stop

theorem inStretch_commentSpans_iff {lexemes : List Lexeme} {i : Nat} :
    inStretch (commentSpans place lexemes) i = true ↔
      ∃ front comment back, lexemes = front ++ comment :: back ∧ comment.isComment = true ∧
        place + (textOf front).length ≤ i ∧
          i < place + (textOf front).length + comment.text.length := by
  induction lexemes generalizing place with
  | nil => simp [commentSpans, inStretch]
  | cons lexeme later ih =>
    -- The first lexeme has the place, or one of those behind it has.
    have parts : inStretch (commentSpans place (lexeme :: later)) i = true ↔
        lexeme.isComment = true ∧ place ≤ i ∧ i < place + lexeme.text.length ∨
          inStretch (commentSpans (place + lexeme.text.length) later) i = true := by
      have bounds (start stop : Nat) :
          (decide ((start : Int) ≤ i) && decide ((i : Int) < stop)) = true ↔
            start ≤ i ∧ i < stop := by
        rw [Bool.and_eq_true, decide_eq_true_iff, decide_eq_true_iff, Int.ofNat_le, Int.ofNat_lt]
      rw [commentSpans]
      cases lexeme.isComment with
      | false => simp
      | true =>
        rw [if_pos rfl, inStretch, List.any_cons, Bool.or_eq_true, bounds]
        exact or_congr (by simp) Iff.rfl
    rw [parts, ih]
    constructor
    · rintro (⟨comment, after, before⟩ | ⟨front, comment, back, rfl, isComment, after, before⟩)
      · exact ⟨[], lexeme, later, rfl, comment, after, before⟩
      · refine ⟨lexeme :: front, comment, back, rfl, isComment, ?_⟩
        rw [textOf_cons, List.length_append]
        omega
    · rintro ⟨front, comment, back, split, isComment, after, before⟩
      cases front with
      | nil =>
        obtain ⟨rfl, rfl⟩ := List.cons.inj split
        exact .inl ⟨isComment, after, before⟩
      | cons first front =>
        obtain ⟨rfl, rfl⟩ := List.cons.inj split
        rw [textOf_cons, List.length_append] at after before
        exact .inr ⟨front, comment, back, rfl, isComment, by omega, by omega⟩

theorem inStretch_commentSpans (t : Text) (i : Nat) :
    inStretch (commentSpans 0 (lexemes t)) i = true ↔ InComment t i := by
  rw [inStretch_commentSpans_iff]
  simp only [Nat.zero_add]
  constructor
  · rintro ⟨front, comment, back, split, isComment, after, before⟩
    exact ⟨comment, isComment, front, back, split ▸ lexing_lexemes t, after, before⟩
  · rintro ⟨comment, isComment, front, back, lexing, after, before⟩
    exact ⟨front, comment, back, lexing.eq_lexemes.symm, isComment, after, before⟩

/-- The comments are what is blanked. -/
theorem blankSpans_commentSpans (t : Text) :
    blankSpans t (commentSpans 0 (lexemes t)) = blankComments t := by
  refine List.ext_getElem? fun i => ?_
  have blank : (blankSpans t (commentSpans 0 (lexemes t)))[i]? = t[i]?.map fun c =>
      if c ≠ '\n' ∧ inStretch (commentSpans 0 (lexemes t)) i then ' ' else c := by
    rw [blankSpans, List.getElem?_map, List.getElem?_zipIdx, Option.map_map, Nat.zero_add]
    rfl
  rw [blank]
  by_cases inside : InComment t i
  · rw [getElem?_blankComments_of_inComment inside, blanked, List.getElem?_map]
    congr 1
    funext c
    by_cases isBreak : c = '\n'
    · rw [if_neg fun both => both.1 isBreak, if_pos isBreak]
    · rw [if_pos ⟨isBreak, (inStretch_commentSpans t i).mpr inside⟩, if_neg isBreak]
  · have outside (c : Char) :
        ¬ (c ≠ '\n' ∧ inStretch (commentSpans 0 (lexemes t)) i = true) :=
      fun both => inside ((inStretch_commentSpans t i).mp both.2)
    rw [getElem?_blankComments_of_not_inComment inside]
    simp only [if_neg (outside _), Option.map_id']

theorem isComment_iff {t : Text} :
    isComment t = true ↔ ['/', '/'] <+: t ∨ ['/', '*'] <+: t := by
  rw [isComment, Bool.or_eq_true, List.isPrefixOf_iff_prefix, List.isPrefixOf_iff_prefix]

/-- Whether a literal is a comment is seen from the text that it starts. -/
theorem isComment_take_literal (t : Text) :
    isComment (t.take (literalLength t)) = isComment t := by
  rw [Bool.eq_iff_iff, isComment_iff, isComment_iff]
  have front := List.take_prefix (literalLength t) t
  constructor
  · exact Or.imp (·.trans front) (·.trans front)
  · rintro (⟨rest, rfl⟩ | ⟨rest, rfl⟩)
    · exact .inl ⟨rest.take (lineLength rest), rfl⟩
    · exact .inr ⟨rest.take (blockCommentLength rest), rfl⟩

theorem withoutComments_eq (cover : limits.Cover t) :
    withoutComments limits t = .ok (blankComments t) := by
  rw [← blankSpans_commentSpans]
  -- A state has the stretches before its place, and those from there on are still to come.
  refine loop_eq (fun _ => True) (fun state : Nat × List (Int × Int) => t.length - state.1)
    (fun state => .ok (blankSpans t (state.2 ++ commentSpans state.1 (lexemes (t.drop state.1)))))
    ?_ trivial cover.rounds
  rintro ⟨place, found⟩ -
  cases standing t place with
  | ended ended =>
    refine .done _ (codeRound_ended ended) ?_
    rw [List.drop_eq_nil_of_le ended]
    simp [commentSpans]
  | literal within starts =>
    have bound := literalLength_le (t.drop place)
    refine .next _ (codeRound_literal (literalEnd_eq cover within) within starts) trivial
      (by dsimp only; omega) ?_
    dsimp only
    rw [lexemes_drop_literal starts, commentSpans, Lexeme.isComment, isComment_take_literal,
      Lexeme.text, List.length_take, Nat.min_eq_left bound]
    split
    · rw [List.append_assoc]
      rfl
    · rfl
  | mark c here plain =>
    have within := lt_of_getElem? here
    refine .next _ (codeRound_mark (literalEnd_eq cover within) here plain) trivial
      (by dsimp only; omega) ?_
    dsimp only
    rw [lexemes_drop_mark here plain]
    rfl

/-! ## All scans -/

/-- The signs that literals start with: the quotes, that of template strings and those of
comments. -/
def literalSigns : List Text := [['\''], ['"'], ['\x60'], ['/', '/'], ['/', '*']]

theorem startsLiteral_iff {t : Text} :
    startsLiteral t = true ↔ ∃ sign ∈ literalSigns, sign <+: t := by
  simp only [literalSigns, List.mem_cons, List.not_mem_nil, or_false, exists_eq_or_imp,
    exists_eq_left]
  constructor
  · intro starts
    unfold startsLiteral at starts
    split at starts
    next rest => exact .inl ⟨rest, rfl⟩
    next rest => exact .inr (.inl ⟨rest, rfl⟩)
    next rest => exact .inr (.inr (.inl ⟨rest, rfl⟩))
    next rest => exact .inr (.inr (.inr (.inl ⟨rest, rfl⟩)))
    next rest => exact .inr (.inr (.inr (.inr ⟨rest, rfl⟩)))
    next => contradiction
  · rintro (⟨rest, rfl⟩ | ⟨rest, rfl⟩ | ⟨rest, rfl⟩ | ⟨rest, rfl⟩ | ⟨rest, rfl⟩) <;> rfl

theorem expressionLength_le (n : Nat) (t : Text) : expressionLength n t ≤ t.length := by
  fun_induction expressionLength n t <;> simp_all

/-- **Every scan comes to an end within its text.** With a round and a level for each character and
one more, all readings come to the answers of the running definitions. The end of a literal lies
behind its place where a sign of one stands and is the place itself elsewhere. It is the same with
any search for the groups of template strings that answers for the braces further on, even if that
search fails everywhere else. -/
theorem scans_end (cover : limits.Cover t) :
    (∀ place < t.length, ∃ past,
      literalEnd limits t place = .ok past ∧ past = place + literalLength (t.drop place) ∧
        past ≤ t.length ∧
        ((∃ sign ∈ literalSigns, sign <+: t.drop place) → place < past) ∧
        ((∀ sign ∈ literalSigns, ¬ sign <+: t.drop place) → past = place) ∧
        ∀ find : Nat → Except Halt (Option Nat),
          (∀ group, place < group → t[group]? = some '{' →
            find group = closer limits t group) →
          literalEndWith find limits.rounds t place = .ok past) ∧
    (∀ place : Nat, closer limits t place = (matching? t place).mapError .noOpening) ∧
    (∀ (place : Nat) (kind : Bracket), t[place]? = some kind.opener →
      ∃ close, closer limits t place = .ok close ∧
        ∀ stop ∈ close, place < stop ∧ stop < t.length) ∧
    (∀ (start : Nat) (kind : Bracket),
      blockFrom limits t start kind.opener = .ok (blockAfter? t start kind.opener) ∧
        ∀ span ∈ blockAfter? t start kind.opener,
          start ≤ span.start ∧ span.start < span.stop ∧ span.stop < t.length) ∧
    (∀ (start : Nat) (opener : Char), Bracket.opened? opener = none →
      blockFrom limits t start opener =
        match markOffset? opener (lexemes (t.drop start)) with
        | none => .ok none
        | some n => .error (.noOpening ⟨(start + n : Nat)⟩)) ∧
    (∀ separator : Text, separator ≠ [] →
      pieces limits t separator = .ok (splitSpans t separator) ∧
        ∀ piece ∈ splitSpans t separator, piece.offset + piece.text.length ≤ t.length) ∧
    (∀ start : Nat,
      expressionEnd limits t start =
        .ok (min t.length (start + expressionLength 0 (t.drop start)))) ∧
    (∀ start ≤ t.length, start + expressionLength 0 (t.drop start) ≤ t.length) ∧
    withoutComments limits t = .ok (blankComments t) ∧
      (blankComments t).length = t.length := by
  refine ⟨fun place within => ?_, closer_eq cover, fun place kind opens => ?_,
    fun start kind => ⟨blockFrom_opener cover start kind, fun span found => ?_⟩,
    fun start opener other => ?_,
    fun separator some => ⟨pieces_eq cover some, fun piece member => ?_⟩,
    expressionEnd_eq cover, fun start within => ?_,
    withoutComments_eq cover, length_blankComments t⟩
  · have bound := literalLength_le (t.drop place)
    rw [List.length_drop] at bound
    have starts := literalLength_pos_iff (t.drop place)
    rw [startsLiteral_iff] at starts
    refine ⟨_, literalEnd_eq cover within, rfl, by omega, fun sign => ?_, fun noSign => ?_,
      fun find same => ?_⟩
    · exact Nat.lt_add_of_pos_right (starts.mpr sign)
    · have plain : ¬ 0 < literalLength (t.drop place) := by
        rw [starts]
        rintro ⟨sign, known, stands⟩
        exact noSign sign known stands
      omega
    · refine literalEndWith_eq (fun group behind opens => ?_) cover.rounds within
      rw [same group behind opens]
      exact findsGroups_closer cover place group behind opens
  · refine ⟨_, closer_opener cover opens, fun stop found => ?_⟩
    have brackets := (map_stop_spanAt?_eq_some_iff.mp found).brackets
    exact ⟨brackets.1, brackets.2.1⟩
  · have same := exists_spanAt?_of_block (.inl found)
    have brackets := (spanAt?_eq_some_iff.mp same).2.1.brackets
    rw [Option.mem_def, blockAfter?, Option.bind_eq_some_iff] at found
    obtain ⟨n, -, found⟩ := found
    have first := (spanAt?_eq_some_iff.mp found).1
    exact ⟨by omega, brackets.1, brackets.2.1⟩
  · rw [blockFrom_eq cover]
    cases found : markOffset? opener (lexemes (t.drop start)) with
    | none => rfl
    | some n =>
      have here := getElem?_of_markOffset? found
      rw [textOf_lexemes, List.getElem?_drop] at here
      exact spanFrom_other cover here other
  · obtain ⟨-, stands⟩ := (tiles_splitSpans some t).prefix_drop member
    have width := stands.length_le
    have long := List.length_pos_iff.mpr (trimmed_of_mem_splitSpans member).nonempty
    rw [List.length_drop] at width
    omega
  · have bound := expressionLength_le 0 (t.drop start)
    rw [List.length_drop] at bound
    omega

/-- A call that is not closed: its first argument is a template string with a group, and its last
character is a backslash in a quoted string. -/
def unclosedCall : Text := "f(\x60$\x7b'\x7d'\x7d\x60, \"x\\"

/-- A search for ends of groups that knows one group only. -/
def oneGroup (place : Nat) : Except Halt (Option Nat) :=
  if place = 4 then .ok (some 8) else .error .tooDeep

/-- The template string is passed over with a search that knows its one group, and the quoted string
ends with the text, though a backslash is the last character. -/
theorem scans_end_unclosedCall :
    Limits.Cover ⟨16, 16⟩ unclosedCall ∧ 2 < unclosedCall.length ∧
      (∀ group, 2 < group → unclosedCall[group]? = some '{' →
        oneGroup group = closer ⟨16, 16⟩ unclosedCall group) ∧
      literalEndWith oneGroup 16 unclosedCall 2 = .ok 10 ∧
      literalEnd ⟨16, 16⟩ unclosedCall 12 = .ok 15 ∧
      unclosedCall[1]? = some Bracket.round.opener ∧
      closer ⟨16, 16⟩ unclosedCall 1 = .ok none ∧
      pieces ⟨16, 16⟩ unclosedCall [','] = .ok [⟨0, unclosedCall⟩] := by
  have cover : Limits.Cover ⟨16, 16⟩ unclosedCall := ⟨by decide, by decide⟩
  obtain ⟨literals, closers, -, -, -, splits, -⟩ := scans_end cover
  have group : closer ⟨16, 16⟩ unclosedCall 4 = .ok (some 8) := (closers 4).trans (by cbv)
  have same : ∀ group, 2 < group → unclosedCall[group]? = some '{' →
      oneGroup group = closer ⟨16, 16⟩ unclosedCall group := by
    intro place _ opens
    obtain rfl : place = 4 := by
      have within := lt_of_getElem? opens
      have single : ∀ place < unclosedCall.length, unclosedCall[place]? = some '{' → place = 4 := by
        decide
      exact single place within opens
    exact group.symm
  obtain ⟨past, -, template, -, -, -, found⟩ := literals 2 (by decide)
  obtain ⟨past', quoted, ends, -⟩ := literals 12 (by decide)
  refine ⟨cover, by decide, same, ?_, ?_, by decide, (closers 1).trans (by cbv), ?_⟩
  · rw [found oneGroup same, template]
    cbv
  · rw [quoted, ends]
    cbv
  · rw [(splits [','] (by decide)).1]
    cbv

end SfcLint.Script.Rounds
