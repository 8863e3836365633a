/-
# Loops that come to an end

A loop comes to an answer when each of its rounds either has it or leads on to a state with the same
answer that is nearer to the end. Quoted strings, template strings and the search for a closing
bracket are such loops. The last two use each other, and what bounds the calls is the text: a group
starts behind its template string, so less of the text is left for it.
-/

import SfcLint.Proofs.Script.Matching
import SfcLint.Script.Rounds

namespace SfcLint.Script.Rounds

variable {State Answer : Type} {t : Text} {rounds depth place start : Nat} {c : Char}

/-! ## Loops -/

/-- A round from a state comes to the answer of the state, or it leads on to one that has the same
answer and less left to do. What is kept holds of that one as well. -/
inductive Advances (round : State → Except Halt (Round State Answer)) (kept : State → Prop)
    (left : State → Nat) (answer : State → Except Halt Answer) (state : State) : Prop
  | done (found : Answer) : round state = .ok (.done found) → answer state = .ok found →
      Advances round kept left answer state
  | halt (cause : Halt) : round state = .error cause → answer state = .error cause →
      Advances round kept left answer state
  | next (later : State) : round state = .ok (.next later) → kept later →
      left later < left state → answer later = answer state →
        Advances round kept left answer state

/-- A loop whose rounds advance comes to the answer of its first state, with a round to spare for
what is left to do there. -/
theorem loop_eq {round : State → Except Halt (Round State Answer)} (kept : State → Prop)
    (left : State → Nat) (answer : State → Except Halt Answer) {state : State}
    (advances : ∀ state, kept state → Advances round kept left answer state)
    (starts : kept state) (enough : left state < rounds) :
    loop round rounds state = answer state := by
  induction rounds generalizing state with
  | zero => exact absurd enough (Nat.not_lt_zero _)
  | succ rounds ih =>
    rw [loop]
    cases advances state starts with
    | done found comes same =>
      rw [comes, same]
      rfl
    | halt cause comes same =>
      rw [comes, same]
      rfl
    | next later comes kept less same =>
      -- A round is spent, but then less is left to do as well.
      rw [comes, ← same]
      exact ih kept (by omega)

theorem loop_succ_of_next {round : State → Except Halt (Round State Answer)} {state later : State}
    (comes : round state = .ok (.next later)) :
    loop round (rounds + 1) state = loop round rounds later := by
  rw [loop, comes]
  rfl

/-- A round that leads back to its state is never the last one. -/
theorem loop_of_stays {round : State → Except Halt (Round State Answer)} {state : State}
    (stays : round state = .ok (.next state)) :
    loop round rounds state = .error .tooManyRounds := by
  induction rounds with
  | zero => rfl
  | succ rounds ih => rw [loop_succ_of_next stays, ih]

/-! ## Literals -/

theorem lt_of_getElem? (here : t[place]? = some c) : place < t.length :=
  (List.getElem?_eq_some_iff.mp here).1

/-- A backslash takes a character with it. When it is the last one of the text, the place moves
behind the end. -/
theorem min_escape {length : Text → Nat} (last : length ['\\'] = 1)
    (pair : ∀ c rest, length ('\\' :: c :: rest) = length rest + 2)
    (here : t[place]? = some '\\') :
    min t.length (place + 2 + length (t.drop (place + 2))) =
      min t.length (place + length (t.drop place)) := by
  rw [drop_eq_cons here]
  cases after : t.drop (place + 1) with
  | nil =>
    have short : t.length ≤ place + 1 := List.drop_eq_nil_iff.mp after
    rw [last, Nat.min_eq_left short, Nat.min_eq_left (by omega)]
  | cons c rest =>
    have behind : t.drop (place + 2) = rest := by
      rw [← List.drop_drop (i := 1), after, List.drop_succ_cons, List.drop_zero]
    rw [pair, behind, Nat.add_assoc, Nat.add_comm 2]

/-- A quoted string is read to its end, or to the end of the text. -/
theorem loop_quotedRound (quote : Char) (enough : t.length - start < rounds) :
    loop (quotedRound t quote) rounds start =
      .ok (min t.length (start + quotedLength quote (t.drop start))) := by
  refine loop_eq (fun _ => True) (fun place => t.length - place)
    (fun place => .ok (min t.length (place + quotedLength quote (t.drop place))))
    (fun place _ => ?_) trivial enough
  cases here : t[place]? with
  | none =>
    have ended := List.getElem?_eq_none_iff.mp here
    refine .done t.length (by rw [quotedRound, here]) ?_
    rw [Nat.min_eq_left (by omega)]
  | some c =>
    have within := lt_of_getElem? here
    have nearer (n : Nat) : t.length - (place + (n + 1)) < t.length - place := by omega
    have split := drop_eq_cons here
    -- A character that a backslash takes along is looked at no more, so it closes nothing.
    by_cases escape : c = '\\'
    · subst escape
      have last : quotedLength quote ['\\'] = 1 := by rw [quotedLength, if_pos rfl]
      exact .next (place + 2) (by simp [quotedRound, here]) trivial (nearer 1)
        (congrArg _ (min_escape last (quotedLength_escape quote) here))
    · have length : quotedLength quote (t.drop place) =
          if c = quote then 1 else if c = '\n' then 0
          else quotedLength quote (t.drop (place + 1)) + 1 := by
        rw [split, quotedLength_cons escape]
      by_cases closes : c = quote
      · refine .done (place + 1) ?_ ?_
        · simp only [quotedRound, here, if_neg escape, if_pos closes]
        · rw [length, if_pos closes, Nat.min_eq_right within]
      by_cases breaks : c = '\n'
      · refine .done place ?_ ?_
        · simp only [quotedRound, here, if_neg escape, if_neg closes, if_pos breaks]
        · rw [length, if_neg closes, if_pos breaks, Nat.add_zero,
            Nat.min_eq_right (Nat.le_of_lt within)]
      · refine .next (place + 1) ?_ trivial (nearer 0) ?_
        · simp only [quotedRound, here, if_neg escape, if_neg closes, if_neg breaks]
        · rw [length, if_neg closes, if_neg breaks, Nat.add_assoc, Nat.add_comm 1]

/-- Behind a place, where a group of a template string opens, the search finds its end. -/
def FindsGroups (find : Nat → Except Halt (Option Nat)) (t : Text) (start : Nat) : Prop :=
  ∀ place, start < place → t[place]? = some '{' →
    find place = .ok ((spanAt? t place).map (·.stop))

theorem FindsGroups.mono {find : Nat → Except Halt (Option Nat)} (finds : FindsGroups find t start)
    (later : start ≤ place) : FindsGroups find t place :=
  fun group behind => finds group (Nat.lt_of_le_of_lt later behind)

/-- Where a group opens in a template string, the string goes on behind the closing brace, or it
takes the rest of the text. -/
theorem min_group (here : t[place]? = some '$') (opens : t[place + 1]? = some '{') :
    min t.length (place + templateLength (t.drop place)) =
      match (spanAt? t (place + 1)).map (·.stop) with
      | some close => min t.length (close + 1 + templateLength (t.drop (close + 1)))
      | none => t.length := by
  have within := lt_of_getElem? opens
  have curly : t[place + 1]? = some Bracket.curly.opener := opens
  have length := templateLength_group (t.drop (place + 2))
  rw [← drop_eq_cons opens, ← drop_eq_cons here] at length
  rw [spanAt?_opener curly, Option.map_map]
  cases stops : lexemeClosing [.curly] (lexemes (t.drop (place + 2))) with
  | none =>
    have whole : templateLength (t.drop place) = t.length - (place + 2) + 2 := by
      rw [length, stops, List.length_drop]
    rw [whole, Nat.min_eq_left (by omega)]
    rfl
  | some n =>
    have behind : place + 2 + n = place + 1 + n + 1 := by omega
    have onward : templateLength (t.drop place) =
        templateLength (t.drop (place + 1 + n + 1)) + (n + 2) := by
      rw [length, stops, ← behind, ← List.drop_drop (i := n)]
      rfl
    have sum : place + (templateLength (t.drop (place + 1 + n + 1)) + (n + 2)) =
        place + 1 + n + 1 + templateLength (t.drop (place + 1 + n + 1)) := by omega
    rw [onward, sum]
    rfl

/-- A template string is read to its end, or to the end of the text. -/
theorem loop_templateRound {find : Nat → Except Halt (Option Nat)}
    (finds : FindsGroups find t start) (enough : t.length - start < rounds) :
    loop (templateRound find t) rounds start =
      .ok (min t.length (start + templateLength (t.drop start))) := by
  refine loop_eq (fun place => start ≤ place) (fun place => t.length - place)
    (fun place => .ok (min t.length (place + templateLength (t.drop place))))
    (fun place later => ?_) (Nat.le_refl _) enough
  cases here : t[place]? with
  | none =>
    have ended := List.getElem?_eq_none_iff.mp here
    refine .done t.length (by rw [templateRound, here]) ?_
    rw [Nat.min_eq_left (by omega)]
  | some c =>
    have within := lt_of_getElem? here
    have nearer (n : Nat) : t.length - (place + (n + 1)) < t.length - place := by omega
    have split := drop_eq_cons here
    -- The order is that of the round: an escape, the closing quote, a group, and any other
    -- character.
    by_cases escape : c = '\\'
    · subst escape
      exact .next (place + 2) (by simp [templateRound, here]) (by omega) (nearer 1)
        (congrArg _ (min_escape templateLength_escape_end templateLength_escape here))
    by_cases closes : c = '\x60'
    · subst closes
      refine .done (place + 1) ?_ ?_
      · simp [templateRound, here]
      · rw [split, templateLength_close, Nat.min_eq_right within]
    by_cases opens : c = '$' ∧ t[place + 1]? = some '{'
    · -- The group opens behind the place, so the search for its end is one that is known.
      obtain ⟨rfl, opens⟩ := opens
      have found := finds (place + 1) (by omega) opens
      have onward := min_group here opens
      cases stops : (spanAt? t (place + 1)).map (·.stop) with
      | none =>
        rw [stops] at found onward
        refine .done t.length ?_ (congrArg _ onward)
        simp only [templateRound, here, opens, found]
        rfl
      | some close =>
        have ordered := (map_stop_spanAt?_eq_some_iff.mp stops).brackets.1
        rw [stops] at found onward
        refine .next (close + 1) ?_ (by omega) (by omega) (congrArg _ onward.symm)
        simp only [templateRound, here, opens, found]
        rfl
    · have noGroup : ¬ ['$', '{'] <+: c :: t.drop (place + 1) := by
        rintro ⟨rest, starts⟩
        obtain ⟨first, second⟩ := List.cons.inj starts
        refine opens ⟨first.symm, ?_⟩
        rw [← List.head?_drop, ← second]
        rfl
      refine .next (place + 1) ?_ (by omega) (nearer 0) ?_
      · simp only [templateRound, here, if_neg escape, if_neg closes, if_neg opens]
      · rw [split, templateLength_other escape closes noGroup, Nat.add_assoc, Nat.add_comm 1]

theorem getD_offsetOf?_break (t : Text) :
    (Text.offsetOf? ['\n'] t).getD t.length = lineLength t := by
  induction t with
  | nil => rfl
  | cons c t ih =>
    rw [Text.offsetOf?]
    by_cases isBreak : c = '\n'
    · simp [isBreak, lineLength]
    · have length : lineLength (c :: t) = lineLength t + 1 := by simp [lineLength, isBreak]
      rw [if_neg (by simpa using Ne.symm isBreak), length, ← ih]
      exact getD_map_add _ _ 1

theorem getD_offsetOf?_blockEnd (t : Text) :
    ((Text.offsetOf? ['*', '/'] t).map (· + 2)).getD t.length = blockCommentLength t := by
  induction t with
  | nil => rfl
  | cons c t ih =>
    rw [Text.offsetOf?, blockCommentLength_cons]
    by_cases stands : ['*', '/'] <+: c :: t
    · rw [if_pos (List.isPrefixOf_iff_prefix.mpr stands), if_pos stands]
      rfl
    · rw [if_neg (mt List.isPrefixOf_iff_prefix.mp stands), if_neg stands, ← ih, ← getD_map_add,
        Option.map_map, Option.map_map]
      rfl

/-- A part is searched for from a place on, to the end of the text. -/
theorem getD_search? (part : Text) (within : start ≤ t.length) (width : Nat) :
    ((search? part t start).map (· + width)).getD t.length =
      start +
        ((Text.offsetOf? part (t.drop start)).map (· + width)).getD (t.drop start).length := by
  rw [search?, List.length_drop]
  cases Text.offsetOf? part (t.drop start) with
  | none => exact (Nat.add_sub_cancel' within).symm
  | some n => exact Nat.add_assoc start n width

/-- No literal starts where none of the signs stands. -/
theorem literalLength_of_no_sign {rest : Text} (quoted : ¬ (c = '\'' ∨ c = '"'))
    (template : c ≠ '\x60') (line : ¬ (c = '/' ∧ rest.head? = some '/'))
    (block : ¬ (c = '/' ∧ rest.head? = some '*')) : literalLength (c :: rest) = 0 := by
  refine Nat.eq_zero_of_not_pos fun starts => ?_
  rw [literalLength_pos_iff] at starts
  unfold startsLiteral at starts
  split at starts <;> simp_all

/-- The place behind a literal is found with any search that finds the groups further on. -/
theorem literalEndWith_eq {find : Nat → Except Halt (Option Nat)} (finds : FindsGroups find t place)
    (enough : t.length < rounds) (within : place < t.length) :
    literalEndWith find rounds t place = .ok (place + literalLength (t.drop place)) := by
  obtain ⟨c, here⟩ : ∃ c, t[place]? = some c := ⟨_, List.getElem?_eq_getElem within⟩
  have split := drop_eq_cons here
  have length : (t.drop (place + 1)).length = t.length - (place + 1) := List.length_drop
  have second : (t.drop (place + 1)).head? = t[place + 1]? := List.head?_drop
  rw [literalEndWith, here]
  dsimp only
  -- The two loops stop at the end of the text, and a literal never goes on behind it.
  split
  next quoted =>
    have known : literalLength (t.drop place) = quotedLength c (t.drop (place + 1)) + 1 := by
      rw [split]
      rcases quoted with rfl | rfl <;> rfl
    have bound := quotedLength_le c (t.drop (place + 1))
    rw [loop_quotedRound c (by omega), known, Nat.min_eq_right (by omega)]
    congr 1
    omega
  next quoted =>
    split
    next template =>
      have known : literalLength (t.drop place) = templateLength (t.drop (place + 1)) + 1 := by
        rw [split, template, literalLength_template]
      have bound := templateLength_le (t.drop (place + 1))
      have later : FindsGroups find t (place + 1) := finds.mono (Nat.le_succ place)
      rw [loop_templateRound later (by omega), known, Nat.min_eq_right (by omega)]
      congr 1
      omega
    next template =>
      split
      next line =>
        obtain ⟨rfl, slash⟩ := line
        have rest := drop_eq_cons slash
        have known : literalLength (t.drop place) = lineLength (t.drop place) := by
          rw [split, rest]
          rfl
        have ends := getD_search? ['\n'] (Nat.le_of_lt within) 0
        simp only [Nat.add_zero, Option.map_id'] at ends
        rw [ends, getD_offsetOf?_break, known]
      next line =>
        split
        next block =>
          obtain ⟨rfl, star⟩ := block
          have rest := drop_eq_cons star
          have inside := lt_of_getElem? star
          have known : literalLength (t.drop place) =
              blockCommentLength (t.drop (place + 2)) + 2 := by
            rw [split, rest]
            rfl
          have bound : place + 2 ≤ t.length := inside
          rw [getD_search? ['*', '/'] bound 2, getD_offsetOf?_blockEnd, known]
          congr 1
          omega
        next block =>
          rw [← second] at line block
          rw [split, literalLength_of_no_sign quoted template line block, Nat.add_zero]

/-! ## Code -/

/-- What stands at a place: the end of the text, a literal, or a character of code. -/
inductive Standing (t : Text) (place : Nat) : Prop
  | ended : t.length ≤ place → Standing t place
  | literal : place < t.length → 0 < literalLength (t.drop place) → Standing t place
  | mark (c : Char) : t[place]? = some c → literalLength (t.drop place) = 0 → Standing t place

theorem standing (t : Text) (place : Nat) : Standing t place := by
  by_cases within : place < t.length
  · by_cases starts : 0 < literalLength (t.drop place)
    · exact .literal within starts
    · exact .mark _ (List.getElem?_eq_getElem within) (by omega)
  · exact .ended (by omega)

section CodeRound

variable {skip : Nat → Except Halt Nat} {atEnd : Answer} {onLiteral : Nat → State}
  {onMark : Char → Except Halt (Round State Answer)}

theorem codeRound_ended (ended : t.length ≤ place) :
    codeRound skip t place atEnd onLiteral onMark = .ok (.done atEnd) := by
  rw [codeRound, List.getElem?_eq_none ended]

theorem codeRound_literal (reads : skip place = .ok (place + literalLength (t.drop place)))
    (within : place < t.length) (starts : 0 < literalLength (t.drop place)) :
    codeRound skip t place atEnd onLiteral onMark =
      .ok (.next (onLiteral (place + literalLength (t.drop place)))) := by
  have moved : place + literalLength (t.drop place) ≠ place := by omega
  rw [codeRound, List.getElem?_eq_getElem within]
  dsimp only
  rw [reads]
  exact if_pos moved

theorem codeRound_mark (reads : skip place = .ok (place + literalLength (t.drop place)))
    (here : t[place]? = some c) (plain : literalLength (t.drop place) = 0) :
    codeRound skip t place atEnd onLiteral onMark = onMark c := by
  rw [plain, Nat.add_zero] at reads
  rw [codeRound, here]
  dsimp only
  rw [reads]
  exact if_neg (not_not_intro rfl)

end CodeRound

theorem lexemes_drop_literal (starts : 0 < literalLength (t.drop place)) :
    lexemes (t.drop place) =
      .literal ((t.drop place).take (literalLength (t.drop place))) ::
        lexemes (t.drop (place + literalLength (t.drop place))) := by
  rw [lexemes_of_literal starts, List.drop_drop]

theorem lexemes_drop_mark (here : t[place]? = some c) (plain : literalLength (t.drop place) = 0) :
    lexemes (t.drop place) = .mark c :: lexemes (t.drop (place + 1)) := by
  rw [drop_eq_cons here] at plain ⊢
  exact lexemes_of_mark plain

/-! ## Brackets -/

/-- From a place on the end of every literal is found. -/
def FindsLiterals (skip : Nat → Except Halt Nat) (t : Text) (start : Nat) : Prop :=
  ∀ place, start ≤ place → place < t.length →
    skip place = .ok (place + literalLength (t.drop place))

variable {latest : Bracket} {below : List Bracket}

/-- The closing bracket as seen from a later place. -/
theorem map_place (found : Option Nat) (place n : Nat) :
    (found.map (· + n)).map (place + · - 1) = found.map (place + n + · - 1) := by
  rw [Option.map_map]
  congr 1
  funext m
  rw [Function.comp_apply, Nat.add_assoc, Nat.add_comm n m]

/-- Where the last of the open brackets is closed, from a place on. -/
def closingFrom (t : Text) (opened : List Bracket) (place : Nat) : Option Nat :=
  (lexemeClosing opened (lexemes (t.drop place))).map (place + · - 1)

theorem closingFrom_nil (t : Text) (place : Nat) : closingFrom t [] (place + 1) = some place := by
  rw [closingFrom, lexemeClosing]
  rfl

theorem closingFrom_ended (ended : t.length ≤ place) :
    closingFrom t (latest :: below) place = none := by
  rw [closingFrom, List.drop_eq_nil_of_le ended]
  rfl

theorem closingFrom_literal (starts : 0 < literalLength (t.drop place)) :
    closingFrom t (latest :: below) (place + literalLength (t.drop place)) =
      closingFrom t (latest :: below) place := by
  have bound := literalLength_le (t.drop place)
  rw [closingFrom, closingFrom, lexemes_drop_literal starts, lexemeClosing, List.length_take,
    Nat.min_eq_left bound, map_place]

theorem closingFrom_opener {kind : Bracket} (here : t[place]? = some kind.opener)
    (plain : literalLength (t.drop place) = 0) :
    closingFrom t (kind :: latest :: below) (place + 1) = closingFrom t (latest :: below) place := by
  rw [closingFrom, closingFrom, lexemes_drop_mark here plain, lexemeClosing_opener, map_place]

theorem closingFrom_closer (here : t[place]? = some latest.closer)
    (plain : literalLength (t.drop place) = 0) :
    closingFrom t below (place + 1) = closingFrom t (latest :: below) place := by
  rw [closingFrom, closingFrom, lexemes_drop_mark here plain, lexemeClosing_closer, map_place]

theorem closingFrom_other (here : t[place]? = some c) (plain : literalLength (t.drop place) = 0)
    (opens : Bracket.opened? c = none) (closes : Bracket.closed? c = none) :
    closingFrom t (latest :: below) (place + 1) = closingFrom t (latest :: below) place := by
  rw [closingFrom, closingFrom, lexemes_drop_mark here plain, lexemeClosing, opens, closes]
  exact (map_place _ place 1).symm

/-- A bracket of another kind than the latest one closes nothing. -/
theorem closingFrom_mismatch {kind : Bracket} (here : t[place]? = some c)
    (plain : literalLength (t.drop place) = 0) (opens : Bracket.opened? c = none)
    (closes : Bracket.closed? c = some kind) (other : latest ≠ kind) :
    closingFrom t (latest :: below) place = none := by
  rw [closingFrom, lexemes_drop_mark here plain, lexemeClosing, opens, closes]
  dsimp only
  rw [if_neg (Ne.symm other)]
  rfl

/-- With brackets open, the search finds where the last of them is closed. -/
theorem loop_matchingRound {skip : Nat → Except Halt Nat} {opened : List Bracket}
    (skips : FindsLiterals skip t start) (some : opened ≠ []) (enough : t.length - start < rounds) :
    loop (matchingRound skip t) rounds (opened, start) = .ok (closingFrom t opened start) := by
  refine loop_eq (fun state : List Bracket × Nat => state.1 ≠ [] ∧ start ≤ state.2)
    (fun state => t.length - state.2) (fun state => .ok (closingFrom t state.1 state.2))
    ?_ ⟨some, Nat.le_refl _⟩ enough
  rintro ⟨opened, place⟩ ⟨some, later⟩
  obtain ⟨latest, below, rfl⟩ := List.exists_cons_of_ne_nil some
  cases standing t place with
  | ended ended =>
    exact .done none (codeRound_ended ended) (congrArg _ (closingFrom_ended ended))
  | literal within starts =>
    exact .next (latest :: below, place + literalLength (t.drop place))
      (codeRound_literal (skips place later within) within starts)
      ⟨some, Nat.le_add_right_of_le later⟩ (by dsimp only; omega)
      (congrArg _ (closingFrom_literal starts))
  | mark c here plain =>
    have within := lt_of_getElem? here
    have shorter : t.length - (place + 1) < t.length - place := by omega
    have after : start ≤ place + 1 := Nat.le_succ_of_le later
    have comes : matchingRound skip t (latest :: below, place) = _ :=
      codeRound_mark (skips place later within) here plain
    -- The round and the walk over the lexemes look at the bracket in the same order.
    cases opens : Bracket.opened? c with
    | some kind =>
      rw [opens] at comes
      obtain rfl := Bracket.opened?_eq_some_iff.mp opens
      exact .next (kind :: latest :: below, place + 1) comes ⟨List.cons_ne_nil _ _, after⟩
        shorter (congrArg _ (closingFrom_opener here plain))
    | none =>
      cases closes : Bracket.closed? c with
      | none =>
        rw [opens, closes] at comes
        exact .next (latest :: below, place + 1) comes ⟨some, after⟩ shorter
          (congrArg _ (closingFrom_other here plain opens closes))
      | some kind =>
        rw [opens, closes] at comes
        dsimp only at comes
        by_cases same : latest = kind
        · subst same
          obtain rfl := Bracket.closed?_eq_some_iff.mp closes
          have onward : closingFrom t below (place + 1) = closingFrom t (latest :: below) place :=
            closingFrom_closer here plain
          rw [if_neg (not_not_intro rfl)] at comes
          by_cases last : below = []
          · rw [if_pos last] at comes
            subst last
            exact .done _ comes (congrArg _ (onward.symm.trans (closingFrom_nil t place)))
          · rw [if_neg last] at comes
            exact .next (below, place + 1) comes ⟨last, after⟩ shorter (congrArg _ onward)
        · rw [if_pos same] at comes
          exact .done _ comes (congrArg _ (closingFrom_mismatch here plain opens closes same))

/-- The closing bracket is found, or the missing opening one is reported, with searches nested at
most as deeply as the text goes on from the place. -/
theorem matching_eq (enough : t.length < rounds) (levels : t.length - place < depth) :
    matching rounds t depth place = (matching? t place).mapError .noOpening := by
  induction depth generalizing place with
  | zero => exact absurd levels (Nat.not_lt_zero _)
  | succ depth ih =>
    rw [matching]
    cases here : t[place]?.bind Bracket.opened? with
    | none =>
      have missing : matching? t (Int.ofNat place) = .error ⟨place⟩ := by simp [matching?, here]
      exact (congrArg (Except.mapError Halt.noOpening) missing).symm
    | some kind =>
      obtain ⟨c, stands, opens⟩ := Option.bind_eq_some_iff.mp here
      obtain rfl := Bracket.opened?_eq_some_iff.mp opens
      have within := lt_of_getElem? stands
      -- A group within starts behind this place, so that there is a level left for it.
      have skips : FindsLiterals (literalEndWith (matching rounds t depth) rounds t) t place := by
        intro place' later within'
        refine literalEndWith_eq (fun group behind opens => ?_) enough within'
        have curly : t[group]? = some Bracket.curly.opener := opens
        rw [ih (by omega), matching?_opener curly]
        rfl
      have plain : literalLength (t.drop place) = 0 := by
        rw [drop_eq_cons stands]
        cases kind <;> rfl
      have first : matchingRound (literalEndWith (matching rounds t depth) rounds t) t ([], place) =
          .ok (.next ([kind], place + 1)) := by
        rw [matchingRound, codeRound_mark (skips place (Nat.le_refl _) within) stands plain, opens]
      have behind : FindsLiterals (literalEndWith (matching rounds t depth) rounds t) t
          (place + 1) := fun place' later => skips place' (Nat.le_of_succ_le later)
      -- The first round only takes note of the bracket itself.
      obtain ⟨rounds, rfl⟩ : ∃ n, rounds = n + 1 := ⟨rounds - 1, by omega⟩
      have found : matching? t place = .ok ((spanAt? t place).map (·.stop)) :=
        matching?_opener stands
      rw [found, spanAt?_opener stands, Option.map_map]
      refine (loop_succ_of_next first).trans ?_
      rw [loop_matchingRound behind (List.cons_ne_nil _ _) (by omega), closingFrom]
      have same : (fun n => place + 1 + n - 1) = fun n => place + n := funext fun n => by omega
      rw [same]
      rfl

/-! ## Within limits -/

variable {limits : Limits}

theorem closer_eq (cover : limits.Cover t) (place : Nat) :
    closer limits t place = (matching? t place).mapError .noOpening :=
  matching_eq cover.rounds (Nat.lt_of_le_of_lt (Nat.sub_le _ _) cover.depth)

theorem closer_opener (cover : limits.Cover t) {kind : Bracket}
    (opens : t[place]? = some kind.opener) :
    closer limits t place = .ok ((spanAt? t place).map (·.stop)) := by
  rw [closer_eq cover, matching?_opener opens]
  rfl

theorem findsGroups_closer (cover : limits.Cover t) (start : Nat) :
    FindsGroups (closer limits t) t start := by
  intro place _ opens
  have curly : t[place]? = some Bracket.curly.opener := opens
  exact closer_opener cover curly

theorem literalEnd_eq (cover : limits.Cover t) (within : place < t.length) :
    literalEnd limits t place = .ok (place + literalLength (t.drop place)) :=
  literalEndWith_eq (findsGroups_closer cover place) cover.rounds within

end SfcLint.Script.Rounds
