/-
# Calls of named functions

A search for calls goes on behind the parenthesis of the call it has found, so it could pass over
one that starts before. It passes over none: between a name and its parenthesis stand only blanks
and type arguments, and a name within type arguments is not followed by a parenthesis until more
angle brackets have been closed behind it than opened. So all calls are found, those in the
arguments of others among them.
-/

import Mathlib
import SfcLint.Proofs.Pattern.Language
import SfcLint.Proofs.Script.MemberHead
import SfcLint.Script.Call

namespace SfcLint.Script

/-! ## Type arguments -/

/-- The angle brackets of the text are paired and no more than so many deep, and it has no
parentheses. -/
inductive Angled : Nat → Text → Prop
  | nil {depth : Nat} : Angled depth []
  | other {depth : Nat} {c : Char} {t : Text} : c ∉ "()<>".toList → Angled depth t →
      Angled depth (c :: t)
  | pair {depth : Nat} {inner t : Text} : Angled depth inner → Angled (depth + 1) t →
      Angled (depth + 1) ('<' :: (inner ++ '>' :: t))

/-- What stands between the name of a function and the parenthesis of a call: blanks and, where
they are allowed, type arguments with angle brackets at most two deep. -/
inductive Gap : Bool → Text → Prop
  | blanks {generic : Bool} {blanks : Text} : (∀ c ∈ blanks, Text.isBlank c = true) →
      Gap generic blanks
  | arguments {blanks inner blanks' : Text} : (∀ c ∈ blanks, Text.isBlank c = true) →
      Angled 1 inner → (∀ c ∈ blanks', Text.isBlank c = true) →
        Gap true (blanks ++ '<' :: (inner ++ '>' :: blanks'))

open Pattern

variable {depth : Nat} {generic : Bool} {t front back gap name : Text} {aside : List Aside}

theorem angled_zero_iff : Angled 0 t ↔ ∀ c ∈ t, c ∉ "()<>".toList := by
  constructor
  · intro angled
    generalize none : 0 = depth at angled
    induction angled with
    | nil => simp
    | other sign _ ih => exact List.forall_mem_cons.mpr ⟨sign, ih none⟩
    | pair => contradiction
  · intro others
    induction t with
    | nil => exact .nil
    | cons c t ih =>
      rw [List.forall_mem_cons] at others
      exact .other others.1 (ih others.2)

theorem Angled.not_mem_open (angled : Angled depth t) : '(' ∉ t := by
  induction angled with
  | nil => exact List.not_mem_nil
  | other sign _ ih =>
    rw [List.mem_cons, not_or]
    refine ⟨?_, ih⟩
    rintro rfl
    exact sign (by decide)
  | pair _ _ ihInner ihLater => simp [ihInner, ihLater]

/-- A place in brackets and what follows them is before, within or behind them. -/
theorem prefix_brackets {opener closer : Char} {inner : Text}
    (starts : front <+: opener :: (inner ++ closer :: t)) :
    front = [] ∨ (∃ rest, front = opener :: rest ∧ rest <+: inner) ∨
      ∃ last, front = opener :: (inner ++ closer :: last) ∧ last <+: t := by
  rcases List.prefix_cons_iff.mp starts with rfl | ⟨rest, rfl, after, split⟩
  · exact .inl rfl
  · rcases List.append_eq_append_iff.mp split with ⟨more, inside, -⟩ | ⟨later, rfl, behind⟩
    · exact .inr (.inl ⟨rest, rfl, more, inside.symm⟩)
    · cases later with
      | nil => exact .inr (.inl ⟨inner, by simp, List.prefix_rfl⟩)
      | cons c last =>
        obtain ⟨rfl, rfl⟩ := List.cons.inj behind
        exact .inr (.inr ⟨last, rfl, List.prefix_append last after⟩)

/-- As many angle brackets are opened as closed, and up to any place no more are closed. -/
theorem Angled.counts (angled : Angled depth t) :
    t.count '>' = t.count '<' ∧ ∀ front, front <+: t → front.count '>' ≤ front.count '<' := by
  induction angled with
  | nil =>
    refine ⟨rfl, fun front starts => ?_⟩
    rw [List.prefix_nil.mp starts]
    exact Nat.le_refl _
  | @other _ c t sign _ ih =>
    have opens : c ≠ '<' := by
      rintro rfl
      exact sign (by decide)
    have closes : c ≠ '>' := by
      rintro rfl
      exact sign (by decide)
    constructor
    · rw [List.count_cons_of_ne closes, List.count_cons_of_ne opens]
      exact ih.1
    · intro front starts
      rcases List.prefix_cons_iff.mp starts with rfl | ⟨rest, rfl, within⟩
      · exact Nat.le_refl _
      · rw [List.count_cons_of_ne closes, List.count_cons_of_ne opens]
        exact ih.2 rest within
  -- Within the pair one more is opened, and behind it as many are open as before it.
  | @pair depth inner t _ _ ihInner ihLater =>
    constructor
    · simp [ihInner.1, ihLater.1]
      omega
    · intro front starts
      rcases prefix_brackets starts with rfl | ⟨rest, rfl, within⟩ | ⟨last, rfl, within⟩
      · exact Nat.le_refl _
      · have counts := ihInner.2 rest within
        simp
        omega
      · have paired := ihInner.1
        have counts := ihLater.2 last within
        simp
        omega

/-! ## Between the name and the parenthesis -/

/-- A place before a sign that is no blank is not among the blanks at the start. -/
theorem exists_past_blanks {blanks rest : Text} {c : Char}
    (blank : ∀ d ∈ blanks, Text.isBlank d = true) (starts : back.head? = some c)
    (visible : Text.isBlank c = false) (split : front ++ back = blanks ++ rest) :
    ∃ later, front = blanks ++ later ∧ rest = later ++ back := by
  rcases List.append_eq_append_iff.mp split with ⟨more, rfl, rfl⟩ | ⟨later, rfl, rfl⟩
  · cases more with
    | nil => exact ⟨[], by simp, rfl⟩
    | cons d more =>
      obtain rfl := Option.some.inj starts
      rw [blank d (by simp)] at visible
      contradiction
  · exact ⟨later, rfl, rfl⟩

namespace Gap

theorem not_mem_open (stands : Gap generic gap) : '(' ∉ gap := by
  cases stands with
  | blanks blank => exact Text.not_mem_of_blanks (by decide) blank
  | arguments blank angled blank' =>
    have visible : Text.isBlank '(' = false := rfl
    have before := Text.not_mem_of_blanks visible blank
    have behind := Text.not_mem_of_blanks visible blank'
    simp [before, angled.not_mem_open, behind]

/-- As many angle brackets are opened as closed. -/
theorem balanced (stands : Gap generic gap) : gap.count '>' = gap.count '<' := by
  cases stands with
  | blanks blank =>
    rw [List.count_eq_zero_of_not_mem (Text.not_mem_of_blanks (by decide) blank),
      List.count_eq_zero_of_not_mem (Text.not_mem_of_blanks (by decide) blank)]
  | @arguments before _ after blank angled blank' =>
    have closed {t : Text} (blank : ∀ c ∈ t, Text.isBlank c = true) : t.count '>' = 0 :=
      List.count_eq_zero_of_not_mem (Text.not_mem_of_blanks (by decide) blank)
    have opened {t : Text} (blank : ∀ c ∈ t, Text.isBlank c = true) : t.count '<' = 0 :=
      List.count_eq_zero_of_not_mem (Text.not_mem_of_blanks (by decide) blank)
    simp [closed blank, opened blank, closed blank', opened blank', angled.counts.1]

/-- A word there stands within angle brackets, so behind its start more of them are closed than
opened. -/
theorem deep (stands : Gap generic (front ++ back)) {c : Char} (starts : back.head? = some c)
    (letter : Text.isWordChar c = true) : back.count '<' < back.count '>' := by
  have visible : Text.isBlank c = false := by
    rw [Bool.eq_false_iff]
    intro blank
    rw [Text.isWordChar_of_isBlank blank] at letter
    contradiction
  have notSign {sign : Char} {t : Text} (other : Text.isWordChar sign = false)
      (same : sign :: t = back) : False := by
    rw [← same] at starts
    obtain rfl := Option.some.inj starts
    rw [other] at letter
    contradiction
  have member : c ∈ back := List.mem_of_head? starts
  have balanced := stands.balanced
  rw [List.count_append, List.count_append] at balanced
  -- In the whole as many are opened as closed, so what counts is how many are open before the word.
  suffices front.count '>' < front.count '<' by omega
  generalize whole : front ++ back = gap at stands
  cases stands with
  | blanks blank =>
    refine (Text.not_mem_of_blanks visible blank ?_).elim
    rw [← whole]
    exact List.mem_append_right front member
  | @arguments before inner after blank angled blank' =>
    -- The word starts neither in blanks nor with a bracket.
    obtain ⟨later, rfl, behind⟩ := exists_past_blanks blank starts visible whole
    cases later with
    | nil => exact (notSign (by decide) behind).elim
    | cons sign later =>
      rw [List.cons_append, List.cons.injEq] at behind
      obtain ⟨rfl, behind⟩ := behind
      rcases List.append_eq_append_iff.mp behind with ⟨more, rfl, last⟩ | ⟨more, rfl, rfl⟩
      · cases more with
        | nil => exact (notSign (by decide) last).elim
        | cons sign more =>
          rw [List.cons_append, List.cons.injEq] at last
          obtain ⟨-, rfl⟩ := last
          exact (Text.not_mem_of_blanks visible blank' (List.mem_append_right more member)).elim
      · have counts := angled.counts.2 later (List.prefix_append later more)
        have visible : Text.isBlank '>' = false := rfl
        have none := List.count_eq_zero_of_not_mem (Text.not_mem_of_blanks visible blank)
        simp [none]
        omega

theorem head_not_letter (stands : Gap generic gap) {c : Char} (starts : gap.head? = some c) :
    Text.isWordChar c = false := by
  rw [Bool.eq_false_iff]
  intro letter
  have deep := @Gap.deep _ [] _ stands _ starts letter
  have balanced := stands.balanced
  omega

end Gap

/-! ## What the start of a call spells -/

/-- One round within type arguments. -/
def IsArgumentPart (t : Text) : Prop :=
  (∃ c, c ∉ "()<>".toList ∧ t = [c]) ∨ ∃ inner, Angled 0 inner ∧ t = '<' :: (inner ++ ['>'])

theorem accepts_argumentPart :
    Accepts (alt (one (outside "()<>")) (all ["<", many (outside "()<>"), ">"]))
      (.silent IsArgumentPart) := by
  have others (c : Char) : outside "()<>" c = true ↔ c ∉ "()<>".toList := by simp [outside]
  refine ((accepts_one _).alt_silent ((accepts_literal ['<']).seq_silent
    ((accepts_many _).seq_silent (accepts_literal ['>'])))).congr fun t aside => ?_
  refine and_congr_left' (or_congr (by simp only [others]) ⟨?_, ?_⟩)
  · rintro ⟨_, _, rfl, ⟨inner, _, passes, rfl, rfl⟩, rfl⟩
    exact ⟨inner, angled_zero_iff.mpr fun c member => (others c).mp (passes c member), rfl⟩
  · rintro ⟨inner, angled, rfl⟩
    have passes (c : Char) (member : c ∈ inner) : outside "()<>" c = true :=
      (others c).mpr (angled_zero_iff.mp angled c member)
    exact ⟨_, _, rfl, ⟨inner, _, passes, rfl, rfl⟩, rfl⟩

theorem rounds_argumentPart_iff :
    (Language.silent IsArgumentPart).Rounds t aside ↔ Angled 1 t ∧ aside = [] := by
  constructor
  · intro rounds
    induction rounds with
    | nil => exact ⟨.nil, rfl⟩
    | cons part _ _ ih =>
      obtain ⟨ih, rfl⟩ := ih
      obtain ⟨⟨c, sign, rfl⟩ | ⟨inner, angled, rfl⟩, rfl⟩ := part
      · exact ⟨.other sign ih, rfl⟩
      · refine ⟨?_, rfl⟩
        rw [List.cons_append, List.append_assoc]
        exact .pair angled ih
  · rintro ⟨angled, rfl⟩
    -- Induction on the nesting needs the depth as a variable.
    generalize deep : 1 = depth at angled
    induction angled with
    | nil => exact .nil
    | @other _ c t sign _ ih =>
      have part : Language.silent IsArgumentPart [c] [] := ⟨.inl ⟨c, sign, rfl⟩, rfl⟩
      exact .cons part (List.cons_ne_nil c []) (ih deep)
    | @pair depth inner t angled _ _ ih =>
      cases deep
      have part : Language.silent IsArgumentPart ('<' :: (inner ++ ['>'])) [] :=
        ⟨.inr ⟨inner, angled, rfl⟩, rfl⟩
      have rounds := Language.Rounds.cons part (List.cons_ne_nil _ _) (ih rfl)
      rwa [List.cons_append, List.append_assoc] at rounds

theorem accepts_typeArguments :
    Accepts typeArguments
      (.silent fun t => ∃ inner, Angled 1 inner ∧ t = '<' :: (inner ++ ['>'])) := by
  have inner : Accepts (star (alt (one (outside "()<>")) (all ["<", many (outside "()<>"), ">"])))
      (.silent (Angled 1)) :=
    accepts_argumentPart.star.congr fun t aside => rounds_argumentPart_iff
  refine ((accepts_literal ['<']).seq_silent (inner.seq_silent
    (accepts_literal ['>']))).congr fun t aside => and_congr_left' ⟨?_, ?_⟩
  · rintro ⟨_, _, rfl, ⟨inner, _, angled, rfl, rfl⟩, rfl⟩
    exact ⟨inner, angled, rfl⟩
  · rintro ⟨inner, angled, rfl⟩
    exact ⟨_, _, rfl, ⟨inner, _, angled, rfl, rfl⟩, rfl⟩

/-- What the pattern takes between the name and the parenthesis, and the parenthesis. -/
theorem accepts_gap (generic : Bool) :
    Accepts (seq blanks (seq (if generic then optional (all [typeArguments, blanks]) else empty)
        "(")) (.silent fun t => ∃ gap, Gap generic gap ∧ t = gap ++ ['(']) := by
  have blank : Accepts blanks (.silent fun t => ∀ c ∈ t, Text.isBlank c = true) :=
    accepts_many Text.isBlank
  cases generic with
  | false =>
    refine (blank.seq_silent (accepts_empty.seq_silent (accepts_literal ['(']))).congr
      fun t aside => and_congr_left' ⟨?_, ?_⟩
    · rintro ⟨gap, _, passes, ⟨_, _, rfl, rfl, rfl⟩, rfl⟩
      exact ⟨gap, .blanks passes, rfl⟩
    · rintro ⟨gap, stands, rfl⟩
      cases stands with
      | blanks passes => exact ⟨gap, _, passes, ⟨[], _, rfl, rfl, rfl⟩, rfl⟩
  | true =>
    refine (blank.seq_silent (((accepts_typeArguments.seq_silent blank).alt_silent
      accepts_empty).seq_silent (accepts_literal ['(']))).congr
        fun t aside => and_congr_left' ⟨?_, ?_⟩
    · rintro ⟨before, _, passes, ⟨_, _, ⟨_, after, ⟨inner, angled, rfl⟩, passes', rfl⟩ | rfl, rfl,
        rfl⟩, rfl⟩
      · refine ⟨_, .arguments passes angled passes', ?_⟩
        simp
      · exact ⟨before, .blanks passes, rfl⟩
    · rintro ⟨gap, stands, rfl⟩
      cases stands with
      | blanks passes => exact ⟨gap, _, passes, ⟨[], _, .inr rfl, rfl, rfl⟩, rfl⟩
      | @arguments before inner after passes angled passes' =>
        refine ⟨before, _, passes, ⟨_, _, .inl ⟨_, after, ⟨inner, angled, rfl⟩, passes', rfl⟩, rfl,
          rfl⟩, ?_⟩
        simp

/-- A name, what follows it and the parenthesis. -/
def callFront (names : List String) (generic : Bool) : Pattern :=
  seq (capture "name" (words names)) (seq blanks
    (seq (if generic then optional (all [typeArguments, blanks]) else empty) "("))

theorem accepts_callFront (names : List String) (generic : Bool) :
    Accepts (callFront names generic) fun t aside =>
      ∃ name gap, (∃ known ∈ names, name = known.toList) ∧ Gap generic gap ∧
        t = name ++ (gap ++ ['(']) ∧ aside = [("name", name)] := by
  refine (((accepts_words names).captured "name").seq (accepts_gap generic)).congr fun t aside =>
    ⟨?_, ?_⟩
  · rintro ⟨name, _, _, _, ⟨_, ⟨listed, rfl⟩, rfl⟩, ⟨⟨gap, stands, rfl⟩, rfl⟩, rfl, rfl⟩
    exact ⟨name, gap, listed, stands, rfl, rfl⟩
  · rintro ⟨name, gap, listed, stands, rfl, rfl⟩
    exact ⟨name, gap ++ ['('], [("name", name)], [], ⟨[], ⟨listed, rfl⟩, rfl⟩,
      ⟨⟨gap, stands, rfl⟩, rfl⟩, rfl, rfl⟩

/-! ## Where calls start -/

/-- Neither an identifier character nor a dot stands before the place. -/
def FreshAt (t : Text) (n : Nat) : Prop :=
  ∀ c, (t.take n).getLast? = some c → Text.isNameChar c = false ∧ c ≠ '.'

/-- At the place stand one of the names, as a whole and not as a member, and the parenthesis. -/
structure StartsCall (names : List String) (generic : Bool) (t : Text) (n : Nat)
    (name gap : Text) : Prop where
  fresh : FreshAt t n
  listed : ∃ known ∈ names, name = known.toList
  between : Gap generic gap
  stands : name ++ (gap ++ ['(']) <+: t.drop n

/-- The names are made of letters, digits and underscores. -/
def ProperNames (names : List String) : Prop :=
  ∀ name ∈ names, name.toList ≠ [] ∧ ∀ c ∈ name.toList, Text.isWordChar c = true

variable {names : List String} {n : Nat} {hit : Hit}

theorem hitAt?_callStart :
    (callStart (words names) generic).hitAt? (.within t n) =
      if ((t.take n).getLast?.any (fun c => Text.isNameChar c || c == '.') == false) = true then
        (callFront names generic).hitAt? (.within t n)
      else none :=
  hitAt?_behind_seq

theorem freshAt_iff :
    ((t.take n).getLast?.any (fun c => Text.isNameChar c || c == '.') == false) = true ↔
      FreshAt t n := by
  unfold FreshAt
  cases (t.take n).getLast? with
  | none => simp
  | some c => simp

/-- What the pattern finds is the start of a call. -/
theorem exists_startsCall_of_hitAt?
    (found : (callStart (words names) generic).hitAt? (.within t n) = some hit) :
    ∃ name gap, StartsCall names generic t n name gap ∧ hit.start = n ∧
      hit.stop = n + (name ++ gap).length + 1 ∧ hit.group "name" = name := by
  rw [hitAt?_callStart] at found
  split at found
  next fresh =>
    obtain ⟨_, _, ⟨name, gap, listed, between, rfl, rfl⟩, split, finds⟩ :=
      (accepts_callFront names generic).exists_of_hitAt? found
    have starts : StartsCall names generic t n name gap :=
      ⟨freshAt_iff.mp fresh, listed, between, ⟨_, split.symm⟩⟩
    refine ⟨name, gap, starts, finds.start, ?_, ?_⟩
    · rw [finds.stop]
      simp only [List.length_append, List.length_singleton, Nat.add_assoc]
    · rw [Hit.group, finds.group?_eq]
      rfl
  next => contradiction

namespace StartsCall

variable {name' gap' : Text}

/-- The pattern is found where a call starts. -/
theorem exists_hitAt? (starts : StartsCall names generic t n name gap) :
    ∃ hit, (callStart (words names) generic).hitAt? (.within t n) = some hit := by
  rw [hitAt?_callStart, if_pos (freshAt_iff.mpr starts.fresh)]
  exact (accepts_callFront names generic).exists_hitAt?
    ⟨name, gap, starts.listed, starts.between, rfl, rfl⟩ starts.stands

theorem inside (starts : StartsCall names generic t n name gap) : n < t.length := by
  have lengths := starts.stands.length_le
  rw [List.length_drop, List.length_append, List.length_append, List.length_singleton] at lengths
  omega

theorem letters (starts : StartsCall names generic t n name gap) (proper : ProperNames names) :
    name ≠ [] ∧ ∀ c ∈ name, Text.isWordChar c = true := by
  obtain ⟨known, member, rfl⟩ := starts.listed
  exact proper known member

theorem not_mem_open (starts : StartsCall names generic t n name gap)
    (proper : ProperNames names) : '(' ∉ name ++ gap := by
  rw [List.mem_append, not_or]
  refine ⟨fun member => ?_, starts.between.not_mem_open⟩
  have letter := (starts.letters proper).2 '(' member
  contradiction

/-- What stands up to the first parenthesis is the name and what follows it. -/
theorem front_eq (starts : StartsCall names generic t n name gap) (proper : ProperNames names)
    (noParenthesis : '(' ∉ front) (stands : front ++ ['('] <+: t.drop n) : front = name ++ gap := by
  obtain ⟨rest, split⟩ := stands
  obtain ⟨rest', split'⟩ := starts.stands
  have passes {t : Text} (none : '(' ∉ t) (c : Char) (member : c ∈ t) : (c != '(') = true := by
    rw [bne_iff_ne]
    rintro rfl
    exact none member
  have stops {rest : Text} (c : Char) (first : ('(' :: rest).head? = some c) :
      (c != '(') = false := by
    obtain rfl := Option.some.inj first
    rfl
  have same : front ++ '(' :: rest = (name ++ gap) ++ '(' :: rest' := by
    simpa using split.trans split'.symm
  -- Both go up to the first parenthesis.
  exact (span_unique (passes noParenthesis) (passes (starts.not_mem_open proper)) stops stops
    same).1

theorem unique (starts : StartsCall names generic t n name gap)
    (starts' : StartsCall names generic t n name' gap') (proper : ProperNames names) :
    name = name' ∧ gap = gap' := by
  have same : name ++ gap = name' ++ gap' := by
    refine starts'.front_eq proper (starts.not_mem_open proper) ?_
    rw [List.append_assoc]
    exact starts.stands
  exact span_unique (starts.letters proper).2 (starts'.letters proper).2
    (fun _ => starts.between.head_not_letter) (fun _ => starts'.between.head_not_letter) same

/-- Behind a letter of the name no call starts. -/
theorem not_within_name {m : Nat} (starts : StartsCall names generic t m name gap)
    (starts' : StartsCall names generic t (m + front.length) name' gap')
    (proper : ProperNames names) (some : front ≠ []) (within : front <+: name) : False := by
  have letter := (starts.letters proper).2 _ (within.subset (List.getLast_mem some))
  obtain ⟨rest, split⟩ := starts.stands
  obtain ⟨more, rfl⟩ := within
  have last : (t.take (m + front.length)).getLast? = .some (front.getLast some) := by
    rw [List.take_add, ← split, List.append_assoc, List.append_assoc, List.take_left,
      List.getLast?_append, List.getLast?_eq_some_getLast some]
    rfl
  have other := (starts'.fresh _ last).1
  rw [Text.isNameChar, letter] at other
  contradiction

/-- Between a name and its parenthesis no call starts: behind its start more angle brackets would
be closed than opened. -/
theorem not_within_gap {m : Nat} (starts : StartsCall names generic t m name gap)
    (proper : ProperNames names) (between : Gap generic (front ++ (name ++ gap))) : False := by
  obtain ⟨some, letters⟩ := starts.letters proper
  obtain ⟨c, word, rfl⟩ := List.exists_cons_of_ne_nil some
  have deep := between.deep (c := c) rfl (letters c List.mem_cons_self)
  have none {sign : Char} (other : Text.isWordChar sign = false) : (c :: word).count sign = 0 := by
    refine List.count_eq_zero_of_not_mem fun member => ?_
    rw [letters sign member] at other
    contradiction
  rw [List.count_append, List.count_append, none rfl, none rfl, starts.between.balanced] at deep
  exact Nat.lt_irrefl _ deep

/-- No call starts between the start of another and its parenthesis. -/
theorem not_within {m : Nat} (starts : StartsCall names generic t m name gap)
    (starts' : StartsCall names generic t (m + front.length) name' gap')
    (proper : ProperNames names) (some : front ≠ []) (whole : front ++ back = name ++ gap) :
    False := by
  obtain ⟨rest, split⟩ := starts.stands
  have here : t.drop m = front ++ (back ++ '(' :: rest) := by
    rw [← split, ← List.append_assoc front, whole]
    simp
  -- What is left of the first call up to its parenthesis is the whole start of the second one.
  have same : back = name' ++ gap' := by
    refine starts'.front_eq proper ?_ ⟨rest, ?_⟩
    · intro member
      refine starts.not_mem_open proper ?_
      rw [← whole]
      exact List.mem_append_right front member
    · rw [← List.drop_drop, here, List.drop_left, List.append_assoc, List.singleton_append]
  rcases List.append_eq_append_iff.mp whole with ⟨more, inName, -⟩ | ⟨more, rfl, inGap⟩
  · exact starts.not_within_name starts' proper some ⟨more, inName.symm⟩
  · have between := starts.between
    rw [inGap, same] at between
    exact starts'.not_within_gap proper between

/-- A call that starts later starts behind the parenthesis. -/
theorem apart {m : Nat} (starts : StartsCall names generic t m name gap)
    (starts' : StartsCall names generic t n name' gap') (proper : ProperNames names)
    (later : m < n) : m + (name ++ gap).length + 1 ≤ n := by
  apply Nat.le_of_not_lt
  intro early
  have width : ((name ++ gap).take (n - m)).length = n - m := List.length_take_of_le (by omega)
  have place : n = m + ((name ++ gap).take (n - m)).length := by omega
  rw [place] at starts'
  refine starts.not_within starts' proper ?_ (List.take_append_drop (n - m) (name ++ gap))
  rw [← List.length_pos_iff]
  omega

end StartsCall

/-! ## All calls are found -/

/-- One of the names is called there: it stands as a whole and not as a member, and the parenthesis
behind it is closed. -/
structure IsCall (names : List String) (generic : Bool) (t : Text) (call : Call) : Prop where
  fresh : FreshAt t call.start
  listed : ∃ known ∈ names, call.name = known.toList
  called : ∃ gap, Gap generic gap ∧ call.name ++ (gap ++ ['(']) <+: t.drop call.start ∧
    spanAt? t (call.start + (call.name ++ gap).length) = some call.args

theorem IsCall.exists_hit {call : Call} (isCall : IsCall names generic t call)
    (proper : ProperNames names) :
    ∃ hit ∈ (callStart (words names) generic).hits t, hit.start = call.start ∧
      hit.group "name" = call.name ∧ spanAt? t (hit.stop - 1) = some call.args := by
  obtain ⟨fresh, listed, gap, between, stands, closes⟩ := isCall
  have starts : StartsCall names generic t call.start call.name gap :=
    ⟨fresh, listed, between, stands⟩
  obtain ⟨hit, here⟩ := starts.exists_hitAt?
  obtain ⟨name, gap', starts', start, stop, group⟩ := exists_startsCall_of_hitAt? here
  obtain ⟨rfl, rfl⟩ := starts'.unique starts proper
  refine ⟨hit, ?_, start, group, ?_⟩
  · -- No earlier start of a call reaches over this one.
    refine mem_hits_of_apart starts.inside here fun m early other found => ?_
    obtain ⟨_, _, earlier, -, stop', -⟩ := exists_startsCall_of_hitAt? found
    rw [stop']
    exact earlier.apart starts proper early
  · rw [stop, Nat.add_sub_cancel]
    exact closes

/-- The calls are found from left to right and each once, and they are all that there are. -/
theorem calls_complete (names : List String) (generic : Bool) (t : Text)
    (proper : ProperNames names) :
    (calls (words names) generic t).Pairwise (·.start < ·.start) ∧
      ∀ call, call ∈ calls (words names) generic t ↔ IsCall names generic t call := by
  constructor
  · rw [calls, List.pairwise_filterMap]
    refine (pairwise_hits _ t).imp fun {hit other} before call found call' found' => ?_
    obtain ⟨_, -, rfl⟩ := Option.map_eq_some_iff.mp found
    obtain ⟨_, -, rfl⟩ := Option.map_eq_some_iff.mp found'
    exact before
  · intro call
    rw [calls, List.mem_filterMap]
    constructor
    · rintro ⟨hit, member, found⟩
      obtain ⟨args, closes, rfl⟩ := Option.map_eq_some_iff.mp found
      obtain ⟨-, here⟩ := hitAt?_of_mem_hits member
      obtain ⟨name, gap, starts, -, stop, group⟩ := exists_startsCall_of_hitAt? here
      rw [stop, Nat.add_sub_cancel] at closes
      subst group
      exact ⟨starts.fresh, starts.listed, gap, starts.between, starts.stands, closes⟩
    · intro isCall
      obtain ⟨hit, member, start, group, closes⟩ := isCall.exists_hit proper
      refine ⟨hit, member, ?_⟩
      rw [closes, start, group]
      rfl

/-- A call in the arguments of another, which has type arguments that name a function as well. -/
theorem isCall_nested :
    ProperNames ["ref", "refs"] ∧
      IsCall ["ref", "refs"] true "ref<Map<refs, b>>(refs (1), x.ref(2))".toList
        ⟨"refs".toList, 18, ⟨23, 25, "1".toList⟩⟩ := by
  have proper : ProperNames ["ref", "refs"] := by
    have letters : ("ref".toList ++ "refs".toList).all Text.isWordChar = true := by decide
    rw [List.all_append, Bool.and_eq_true, List.all_eq_true, List.all_eq_true] at letters
    exact List.forall_mem_cons.mpr
      ⟨⟨by decide, letters.1⟩, List.forall_mem_singleton.mpr ⟨by decide, letters.2⟩⟩
  refine ⟨proper, ((calls_complete _ true _ proper).2 _).mp ?_⟩
  cbv
  -- The call around it comes first.
  exact .tail _ (.head _)

end SfcLint.Script
