/-
# Iterations read back

An iteration is written with its names, a keyword and its source. The names end where a keyword
first stands between blanks, so they are read back when none of them has a keyword with a blank
beside it, whatever the source is. In parentheses the names are the closed texts between commas, and
a single name needs no parentheses.
-/

import Mathlib.Data.Bool.AllAny
import Mathlib.Data.List.TakeWhile
import SfcLint.Proofs.Pattern.Language
import SfcLint.Proofs.Script.ClosedLists
import SfcLint.Script.Iteration

namespace SfcLint.Script.Iteration

open Pattern

variable {t names source : Text} {aliases : List Text} {word : String} {c d : Char}

/-! ## Keywords and blanks -/

/-- The words that stand between the names of an iteration and its source. -/
def keywords : List String := ["in", "of"]

/-- Somewhere in the text a keyword stands between two blanks. -/
def HoldsSeparator (t : Text) : Prop :=
  ∃ word ∈ keywords, ∃ c d, Text.isBlank c = true ∧ Text.isBlank d = true ∧
    c :: (word.toList ++ [d]) <:+: t

/-- A keyword is a word of the text, between blanks or the ends of the text, and not all of it. -/
def HoldsKeyword (t : Text) : Prop :=
  ∃ word ∈ keywords, ∃ front back, t = front ++ (word.toList ++ back) ∧
    front.getLast?.all Text.isBlank = true ∧ back.head?.all Text.isBlank = true ∧
      (front ≠ [] ∨ back ≠ [])

/-- Whether a text holds a keyword is seen at its offsets. -/
theorem holdsKeyword_iff : HoldsKeyword t ↔ ∃ word ∈ keywords, ∃ n < t.length,
    t.drop n = word.toList ++ t.drop (n + word.toList.length) ∧
      (t.take n).getLast?.all Text.isBlank = true ∧
        (t.drop (n + word.toList.length)).head?.all Text.isBlank = true ∧
          (t.take n ≠ [] ∨ t.drop (n + word.toList.length) ≠ []) := by
  constructor
  · rintro ⟨word, listed, front, back, rfl, ends, starts, held⟩
    have some : ∀ word ∈ keywords, 0 < word.toList.length := by decide
    have before : (front ++ (word.toList ++ back)).take front.length = front := List.take_left
    have behind : (front ++ (word.toList ++ back)).drop (front.length + word.toList.length) =
        back := by
      rw [← List.drop_drop, List.drop_left, List.drop_left]
    refine ⟨word, listed, front.length, ?_, ?_⟩
    · have width := some word listed
      simp only [List.length_append]
      omega
    · rw [before, behind, List.drop_left]
      exact ⟨rfl, ends, starts, held⟩
  · rintro ⟨word, listed, n, -, split, ends, starts, held⟩
    exact ⟨word, listed, t.take n, _, by rw [← split, List.take_append_drop], ends, starts, held⟩

instance : DecidablePred HoldsKeyword := fun _ => decidable_of_iff' _ holdsKeyword_iff

theorem HoldsSeparator.mono {t' : Text} (holds : HoldsSeparator t) (part : t <:+: t') :
    HoldsSeparator t' := by
  obtain ⟨word, listed, c, d, blank, blank', stands⟩ := holds
  exact ⟨word, listed, c, d, blank, blank', stands.trans part⟩

theorem HoldsSeparator.length (holds : HoldsSeparator t) : 4 ≤ t.length := by
  obtain ⟨word, listed, c, d, -, -, stands⟩ := holds
  have width : ∀ word ∈ keywords, word.toList.length = 2 := by decide
  have shorter := stands.length_le
  rw [List.length_cons, List.length_append, width word listed] at shorter
  exact shorter

theorem holdsKeyword_of_holdsSeparator (holds : HoldsSeparator t) : HoldsKeyword t := by
  obtain ⟨word, listed, c, d, blank, blank', front, back, rfl⟩ := holds
  refine ⟨word, listed, front ++ [c], d :: back, by simp, ?_, blank',
    .inr (List.cons_ne_nil d back)⟩
  rw [List.getLast?_concat]
  exact blank

/-- A keyword between a blank and one in the text stands at its start or within it. -/
theorem holdsKeyword_of_space_before (holds : HoldsSeparator (' ' :: t)) : HoldsKeyword t := by
  obtain ⟨word, listed, c, d, blank, blank', stands⟩ := holds
  rcases List.infix_cons_iff.mp stands with first | within
  · obtain ⟨back, rfl⟩ := (List.cons_prefix_cons.mp first).2
    exact ⟨word, listed, [], d :: back, by simp, rfl, blank', .inr (List.cons_ne_nil d back)⟩
  · exact holdsKeyword_of_holdsSeparator ⟨word, listed, c, d, blank, blank', within⟩

/-- A keyword between a blank in the text and one behind it stands at its end or within it. -/
theorem holdsKeyword_of_space_behind (holds : HoldsSeparator (t ++ [' '])) : HoldsKeyword t := by
  obtain ⟨word, listed, c, d, blank, blank', stands⟩ := holds
  rcases List.infix_concat_iff.mp stands with last | within
  · rw [← List.cons_append] at last
    obtain none | ⟨whole, same, ends⟩ := List.suffix_concat_iff.mp last
    · exact absurd none (by simp)
    · obtain ⟨rfl, -⟩ := List.append_inj' same rfl
      obtain ⟨front, rfl⟩ := ends
      refine ⟨word, listed, front ++ [c], [], by simp, ?_, rfl, .inl (by simp)⟩
      rw [List.getLast?_concat]
      exact blank
  · exact holdsKeyword_of_holdsSeparator ⟨word, listed, c, d, blank, blank', within⟩

/-- What has no such character in it stands on one side of the character. -/
theorem infix_of_infix_append_cons {part front back : Text} (other : c ∉ part)
    (stands : part <:+: front ++ c :: back) : part <:+: front ∨ part <:+: back := by
  -- Induction on what stands before the character: the part starts at once or later, and where it
  -- starts at once it ends before the character.
  induction front with
  | nil =>
    rcases List.infix_cons_iff.mp stands with first | within
    · cases part with
      | nil => exact .inl List.nil_infix
      | cons e part => exact absurd (List.cons_prefix_cons.mp first).1.symm (by simp_all)
    · exact .inr within
  | cons e front ih =>
    rcases List.infix_cons_iff.mp stands with first | within
    · have letters : ∀ f ∈ part, (f != c) = true :=
        fun f member => bne_iff_ne.mpr fun same => other (same ▸ member)
      have stops : ∀ f ∈ (c :: back).head?, (f != c) = false := by
        rintro _ ⟨⟩
        exact bne_self_eq_false c
      have stands' : part <+: (e :: front) ++ c :: back := first
      exact .inl (prefix_of_letters letters stops stands').isInfix
    · exact (ih within).imp_left List.infix_cons

/-- No sign of a list of names is part of a keyword between blanks. -/
theorem HoldsSeparator.of_append_cons {sign : Char} {front back : Text}
    (listed : sign ∈ [',', '(', ')']) (holds : HoldsSeparator (front ++ sign :: back)) :
    HoldsSeparator front ∨ HoldsSeparator back := by
  obtain ⟨word, listed', c, d, blank, blank', stands⟩ := holds
  have visible : ∀ sign ∈ [',', '(', ')'], Text.isBlank sign = false :=
    List.all_iff_forall_prop.mp (by decide)
  have other : ∀ word ∈ keywords, ',' ∉ word.toList ∧ '(' ∉ word.toList ∧ ')' ∉ word.toList := by
    decide
  have absent : sign ∉ c :: (word.toList ++ [d]) := by
    rw [List.mem_cons, List.mem_append, List.mem_singleton]
    rintro (rfl | member | rfl)
    · exact absurd blank (by simp [visible sign listed])
    · simp only [List.mem_cons, List.not_mem_nil, or_false] at listed
      obtain ⟨comma, opening, closing⟩ := other word listed'
      rcases listed with rfl | rfl | rfl
      · exact comma member
      · exact opening member
      · exact closing member
    · exact absurd blank' (by simp [visible sign listed])
  exact (infix_of_infix_append_cons absent stands).imp
    (fun stands => ⟨word, listed', c, d, blank, blank', stands⟩)
    (fun stands => ⟨word, listed', c, d, blank, blank', stands⟩)

theorem exists_holdsKeyword_of_join (holds : HoldsSeparator (' ' :: Text.join ", " aliases)) :
    ∃ name ∈ aliases, HoldsKeyword name := by
  induction aliases with
  | nil => exact absurd holds.length (by decide)
  | cons first others ih =>
    cases others with
    | nil =>
      rw [Text.join_singleton] at holds
      exact ⟨first, List.mem_cons_self, holdsKeyword_of_space_before holds⟩
    | cons next others =>
      rw [Text.join_cons_cons] at holds
      have cut : HoldsSeparator (' ' :: first) ∨
          HoldsSeparator (' ' :: Text.join ", " (next :: others)) :=
        @HoldsSeparator.of_append_cons ',' (' ' :: first) _ (by simp) holds
      rcases cut with before | behind
      · exact ⟨first, List.mem_cons_self, holdsKeyword_of_space_before before⟩
      · obtain ⟨name, member, holds⟩ := ih behind
        exact ⟨name, List.mem_cons_of_mem first member, holds⟩

/-! ## Iterations as they are written -/

/-- Some names in parentheses. -/
def enclosed (aliases : List Text) : Text := '(' :: (Text.join ", " aliases ++ [')'])

/-- The names, the keyword and the source of an iteration. -/
def written (names : Text) (word : String) (source : Text) : Text :=
  names ++ ' ' :: (word.toList ++ ' ' :: source)

theorem not_holdsSeparator_enclosed (plain : ∀ name ∈ aliases, ¬ HoldsKeyword name) :
    ¬ HoldsSeparator (enclosed aliases ++ [' ']) := by
  intro holds
  have split : enclosed aliases ++ [' '] =
      [] ++ '(' :: (Text.join ", " aliases ++ ')' :: [' ']) := by
    simp [enclosed]
  rw [split] at holds
  -- No parenthesis belongs to a separator, so it stands before, between or behind the two.
  rcases holds.of_append_cons (by simp) with before | behind
  · exact absurd before.length (by decide)
  rcases behind.of_append_cons (by simp) with within | behind
  · obtain ⟨name, member, keyword⟩ :=
      exists_holdsKeyword_of_join (within.mono (List.infix_cons List.infix_rfl))
    exact plain name member keyword
  · exact absurd behind.length (by decide)

theorem trimmed_enclosed (aliases : List Text) : Text.Trimmed (enclosed aliases) :=
  Text.trimmed_between (by decide) (by decide) _

theorem namesInside_enclosed (aliases : List Text) :
    namesInside (enclosed aliases) = Text.join ", " aliases := by
  rw [enclosed, namesInside, ← List.cons_append, List.getLast?_concat, if_pos rfl,
    List.dropLast_concat]

theorem namesInside_of_other (other : t.head? ≠ some '(') : namesInside t = t := by
  unfold namesInside
  split
  · exact absurd rfl other
  · rfl

/-! ## Where the names end -/

/-- Blanks, a keyword and blanks. -/
def separator : Pattern := seq (seq blanks1 (words keywords)) blanks1

/-- What follows the names: the keyword and the source. -/
def behindNames : Pattern :=
  all [blanks1, words keywords, blanks1, capture "source" (few1 fun _ => true), blanks, stop]

theorem accepts_separator : Accepts separator (.silent fun t =>
    ∃ front blanks', (∃ blanks keyword, (blanks ≠ [] ∧ ∀ c ∈ blanks, Text.isBlank c = true) ∧
        (∃ word ∈ keywords, keyword = word.toList) ∧ front = blanks ++ keyword) ∧
      (blanks' ≠ [] ∧ ∀ c ∈ blanks', Text.isBlank c = true) ∧ t = front ++ blanks') :=
  ((accepts_some1 Text.isBlank).seq_silent (accepts_words keywords)).seq_silent
    (accepts_some1 Text.isBlank)

theorem visible_of_mem_keyword (listed : word ∈ keywords) :
    ∀ c ∈ word.toList, Text.isBlank c = false := by
  have visible : ∀ word ∈ keywords, word.toList.all (fun c => !Text.isBlank c) = true := by decide
  intro c member
  simpa using List.all_eq_true.mp (visible word listed) c member

theorem visible_head_keyword (listed : word ∈ keywords) (t : Text) :
    ∀ c ∈ (word.toList ++ t).head?, Text.isBlank c = false := by
  have held : ∀ word ∈ keywords, word.toList ≠ [] := by decide
  obtain ⟨c, rest, split⟩ := List.exists_cons_of_ne_nil (held word listed)
  rw [split]
  rintro _ ⟨⟩
  exact visible_of_mem_keyword listed c (by rw [split]; exact List.mem_cons_self)

/-- A keyword that stands before what begins with a blank stands in the part before that. -/
theorem keyword_before_blank {front back : Text} (listed : word ∈ keywords)
    (blank : Text.isBlank c = true) (stands : word.toList <+: front ++ c :: back) :
    word.toList <+: front := by
  have letters : ∀ e ∈ word.toList, (!Text.isBlank e) = true := by
    intro e member
    rw [visible_of_mem_keyword listed e member]
    rfl
  have stops : ∀ e ∈ (c :: back).head?, (!Text.isBlank e) = false := by
    rintro _ ⟨⟩
    rw [blank]
    rfl
  exact prefix_of_letters letters stops stands

/-- A separator that starts before the last visible character of a text has its keyword and the
blank behind it before what follows that text and a space. -/
theorem holdsSeparator_of_split {front back later rest : Text}
    (blank : ∀ e ∈ front ++ [c], Text.isBlank e = true) (listed : word ∈ keywords)
    (blank' : Text.isBlank d = true) (visible : Text.stripStart back ≠ [])
    (split : front ++ [c] ++ (word.toList ++ d :: later) = back ++ ' ' :: rest) :
    HoldsSeparator (back ++ [' ']) := by
  -- Without their blanks the two texts start with the keyword and with what is visible.
  have stripped : word.toList ++ d :: later = Text.stripStart back ++ ' ' :: rest := by
    have same := congrArg Text.stripStart split
    rwa [Text.stripStart_blanks blank,
      Text.stripStart_eq_self (visible_head_keyword listed (d :: later)),
      Text.stripStart_append visible] at same
  -- So the blanks before the keyword are those at the start of the text.
  obtain ⟨blanks, -, whole⟩ := Text.exists_blanks_stripStart back
  have same : front ++ [c] = blanks := by
    have both := calc
      front ++ [c] ++ (Text.stripStart back ++ ' ' :: rest) = back ++ ' ' :: rest := by
        rw [← stripped, split]
      _ = (blanks ++ Text.stripStart back) ++ ' ' :: rest := by rw [← whole]
      _ = blanks ++ (Text.stripStart back ++ ' ' :: rest) := List.append_assoc ..
    exact List.append_cancel_right both
  obtain ⟨behind, starts⟩ : word.toList <+: Text.stripStart back :=
    keyword_before_blank listed (by decide) ⟨_, stripped⟩
  -- The blank behind the keyword is the next one of the text, or the space behind all of it.
  have next : [d] <+: behind ++ [' '] := by
    rw [← starts, List.append_assoc, List.append_cancel_left_eq] at stripped
    cases behind with
    | _ => exact List.cons_prefix_cons.mpr ⟨(List.cons.inj stripped).1, List.nil_prefix⟩
  obtain ⟨more, ends⟩ := next
  refine ⟨word, listed, c, d, blank c (by simp), blank', front, more, ?_⟩
  calc
    _ = front ++ [c] ++ word.toList ++ ([d] ++ more) := by simp
    _ = front ++ [c] ++ (word.toList ++ behind) ++ [' '] := by rw [ends]; simp
    _ = back ++ [' '] := by rw [same, starts, ← whole]

/-- Before the names end no separator is found. -/
theorem refuses_separator {back rest : Text} (visible : ∃ c ∈ back, Text.isBlank c = false)
    (none : ¬ HoldsSeparator (back ++ [' '])) (before : Option Char) :
    Refuses separator ⟨before, back ++ ' ' :: rest⟩ := by
  have stripped : Text.stripStart back ≠ [] := by
    intro nothing
    obtain ⟨c, member, visible⟩ := visible
    rw [List.dropWhile_eq_nil_iff.mp nothing c member] at visible
    contradiction
  refine accepts_separator.refuses ?_ before
  rintro _ _ ⟨⟨_, blanks', ⟨blanks, _, ⟨held, blank⟩, ⟨word, listed, rfl⟩, rfl⟩, ⟨held', blank'⟩,
    rfl⟩, -⟩ ⟨more, split⟩
  obtain ⟨front, c, rfl⟩ : ∃ front c, blanks = front ++ [c] :=
    ⟨_, _, (List.dropLast_append_getLast held).symm⟩
  obtain ⟨d, later, rfl⟩ := List.exists_cons_of_ne_nil held'
  have whole : front ++ [c] ++ (word.toList ++ d :: (later ++ more)) = back ++ ' ' :: rest := by
    rw [← split]
    simp
  exact none
    (holdsSeparator_of_split blank listed (blank' d List.mem_cons_self) stripped whole)

/-- So what follows the names is found nowhere before they end. -/
theorem refuses_behindNames {back rest : Text} (visible : ∃ c ∈ back, Text.isBlank c = false)
    (none : ¬ HoldsSeparator (back ++ [' '])) (before : Option Char) :
    Refuses behindNames ⟨before, back ++ ' ' :: rest⟩ :=
  refuses_seq_assoc (refuses_seq_assoc (refuses_seq (refuses_separator visible none before)))

/-- The source goes on to the last visible character. -/
theorem refuses_blanks_stop {rest : Text} (visible : ∃ c ∈ rest, Text.isBlank c = false)
    (before : Option Char) : Refuses (seq blanks stop) ⟨before, rest⟩ := by
  obtain ⟨c, member, visible⟩ := visible
  rintro cursor ⟨⟩
  rw [ways_seq, List.flatMap_eq_nil_iff]
  intro next inBlanks
  obtain ⟨taken, aside, ⟨blank, -⟩, leads⟩ := (accepts_many Text.isBlank).sound inBlanks
  rw [leads.rest, List.mem_append] at member
  have behind : c ∈ next.rest := member.resolve_left (Text.not_mem_of_blanks visible blank)
  rw [ways]
  split
  next ends =>
    rw [ends] at behind
    contradiction
  next ends =>
    rw [ends, List.mem_singleton] at behind
    subst behind
    contradiction
  next => rfl

/-- The source is taken without the blanks at its end. -/
theorem picks_source (trimmed : Text.Trimmed source) {blanks : Text}
    (blank : ∀ c ∈ blanks, Text.isBlank c = true) (before : Option Char) :
    ∃ last, Picks (all [capture "source" (few1 fun _ => true), Pattern.blanks, stop])
      ⟨before, source ++ blanks⟩ ⟨last, []⟩ [("source", source)] := by
  have delays : Delays (capture "source" (few1 fun _ => true)) ⟨before, source ++ blanks⟩
      (Midway source blanks) ⟨source.getLast?, blanks⟩ [("source", source)] :=
    delays_capture (delays_few1 trimmed.nonempty fun _ _ => rfl)
  have run : Picks Pattern.blanks ⟨source.getLast?, blanks ++ []⟩
      ⟨blanks.getLast?.or source.getLast?, []⟩ [] := picks_many blanks blank (by simp)
  rw [List.append_nil] at run
  refine ⟨_, picks_seq_of_delays delays ?_ (picks_seq run picks_stop)⟩
  rintro _ ⟨front, back, -, held, rfl, rfl⟩
  obtain ⟨c, member, visible⟩ := trimmed.exists_visible held
  exact refuses_blanks_stop ⟨c, List.mem_append_left _ member, visible⟩ _

/-- From the space behind the names on the keyword and the source are taken. -/
theorem picks_behindNames (listed : word ∈ keywords) (held : Text.strip source ≠ [])
    (before : Option Char) :
    ∃ last, Picks behindNames ⟨before, ' ' :: (word.toList ++ ' ' :: source)⟩ ⟨last, []⟩
      [("source", Text.strip source)] := by
  obtain ⟨front, back, blank, blank', split, -⟩ := Text.exists_blanks_strip source
  have trimmed := Text.trimmed_strip held
  have differ : ∀ word ∈ keywords, ∀ other ∈ keywords, other.toList <+: word.toList →
      other = word := by decide
  have space : Picks blanks1 ⟨before, [' '] ++ (word.toList ++ ' ' :: source)⟩
      ⟨some ' ', word.toList ++ ' ' :: source⟩ [] :=
    picks_some1 (by simp) Text.isBlank_space (visible_head_keyword listed _)
  have keyword : Picks (words keywords) ⟨some ' ', word.toList ++ ' ' :: source⟩
      ⟨word.toList.getLast?.or (some ' '), ' ' :: source⟩ [] :=
    picks_words listed fun other listed' stands =>
      differ word listed other listed' (keyword_before_blank listed' (by decide) stands)
  have blanks : Picks blanks1
      ⟨word.toList.getLast?.or (some ' '), (' ' :: front) ++ (Text.strip source ++ back)⟩
      ⟨(' ' :: front).getLast?, Text.strip source ++ back⟩ [] :=
    picks_some1 (by simp) (List.forall_mem_cons.mpr ⟨by decide, blank⟩)
      (trimmed.not_isBlank_head? back)
  rw [List.cons_append, ← split] at blanks
  obtain ⟨last, picks⟩ := picks_source trimmed blank' (' ' :: front).getLast?
  exact ⟨last, picks_seq space (picks_seq keyword (picks_seq blanks picks))⟩

/-- The names and the source are found as they are written. -/
theorem exists_leading?_form (trimmed : Text.Trimmed names)
    (none : ¬ HoldsSeparator (names ++ [' '])) (listed : word ∈ keywords)
    (held : Text.strip source ≠ []) :
    ∃ hit, form.leading? (written names word source) = some hit ∧
      hit.group "alias" = names ∧ hit.group "source" = Text.strip source := by
  obtain ⟨last, behind⟩ := picks_behindNames listed held names.getLast?
  let rest : Text := ' ' :: (word.toList ++ ' ' :: source)
  have delays : Delays (capture "alias" (few1 fun _ => true)) ⟨Option.none, names ++ rest⟩
      (Midway names rest) ⟨names.getLast?, rest⟩ [("alias", names)] :=
    delays_capture (delays_few1 trimmed.nonempty fun _ _ => rfl)
  -- Wherever the names could end earlier no separator follows, so more is taken.
  have waits : ∀ early, Midway names rest early → Refuses behindNames early := by
    rintro _ ⟨front, back, -, held, rfl, rfl⟩
    have none' : ¬ HoldsSeparator (back ++ [' ']) := fun holds =>
      none (holds.mono ⟨front, [], by simp⟩)
    exact refuses_behindNames (trimmed.exists_visible held) none' _
  have noBlanks : Picks blanks ⟨Option.none, written names word source⟩
      ⟨Option.none, written names word source⟩ [] :=
    picks_many_nil (trimmed.not_isBlank_head? _)
  have whole : Picks form ⟨Option.none, written names word source ++ []⟩ ⟨last, []⟩
      [("source", Text.strip source), ("alias", names)] := by
    rw [List.append_nil]
    exact picks_seq picks_start
      (picks_seq noBlanks (picks_seq_of_delays delays waits behind))
  obtain ⟨hit, found, finds⟩ := exists_leading?_of_picks whole
  rw [List.append_nil] at found
  refine ⟨hit, found, ?_, ?_⟩
  · rw [Hit.group, finds.group?_eq]
    rfl
  · rw [Hit.group, finds.group?_eq]
    rfl

theorem ofExpression?_written (trimmed : Text.Trimmed names)
    (none : ¬ HoldsSeparator (names ++ [' '])) (listed : word ∈ keywords)
    (held : Text.strip source ≠ []) :
    ofExpression? (written names word source) =
      some ⟨splitCommas (namesInside names), Text.strip source⟩ := by
  obtain ⟨hit, found, names, source⟩ := exists_leading?_form trimmed none listed held
  rw [ofExpression?, found, Option.map_some, names, source, trimmed.strip_eq.1,
    (Text.trimmed_strip held).strip_eq.1]

/-- Iterations are read back as they are written, in parentheses and, if there is one name that
starts with no parenthesis, also without them. The index is the last of several names. -/
theorem ofExpression?_reads_back (trimmed : ∀ name ∈ aliases, Text.Trimmed name)
    (closed : ∀ name ∈ aliases, Closed [','] name) (plain : ∀ name ∈ aliases, ¬ HoldsKeyword name)
    (listed : word ∈ keywords) (held : Text.strip source ≠ []) :
    ofExpression? (written (enclosed aliases) word source) =
        some ⟨aliases, Text.strip source⟩ ∧
      (∀ name, aliases = [name] → name.head? ≠ some '(' →
        ofExpression? (written name word source) = some ⟨aliases, Text.strip source⟩) ∧
      (⟨aliases, Text.strip source⟩ : Iteration).indexAlias? =
        if 2 ≤ aliases.length then aliases.getLast? else none := by
  have parts : splitCommas (Text.join ", " aliases) = aliases := by
    have whole := splitCommas_join_of_trimmed closed trimmed (List.forall_mem_nil _)
      (List.forall_mem_nil _)
    rwa [List.nil_append, List.append_nil] at whole
  refine ⟨?_, ?_, ?_⟩
  · rw [ofExpression?_written (trimmed_enclosed aliases) (not_holdsSeparator_enclosed plain) listed
      held, namesInside_enclosed, parts]
  · rintro name rfl other
    rw [List.forall_mem_singleton] at trimmed plain
    rw [Text.join_singleton] at parts
    rw [ofExpression?_written trimmed (fun holds => plain (holdsKeyword_of_space_behind holds))
      listed held, namesInside_of_other other, parts]
  · match aliases with
    | [] => rfl
    | [_] => rfl
    | _ :: _ :: _ => simp [indexAlias?]

/-- Names in brackets, one of them a keyword, before a source that has keywords. -/
theorem ofExpression?_reads_back_brackets :
    ofExpression? "(\x7b id, at: [in, y] \x7d, of, index) of rows in pages of books ".toList =
        some ⟨["\x7b id, at: [in, y] \x7d".toList, "of".toList, "index".toList],
          "rows in pages of books".toList⟩ ∧
      ofExpression? "\x7b id, at: [in, y] \x7d in rows".toList =
        some ⟨["\x7b id, at: [in, y] \x7d".toList], "rows".toList⟩ := by
  have inner : Closed [] " id, at: [in, y] ".toList := by
    have front : Closed [] " id, at: ".toList := closed_of_all (by decide)
    have pair : Closed [] ('[' :: ("in, y".toList ++ [']'])) :=
      (@closed_of_all [] "in, y".toList (by decide)).group .square
    have back : Closed [] " ".toList := closed_of_all (by decide)
    exact front.append (pair.append back (apart_concat (by decide) ('[' :: "in, y".toList) _))
      (apart_of_not_mem (by decide) _)
  have pattern : Closed [','] "\x7b id, at: [in, y] \x7d".toList := inner.group .curly
  have closed := List.forall_mem_cons.mpr ⟨pattern, List.forall_mem_cons.mpr
    ⟨closed_of_all (t := "of".toList) (by decide),
      List.forall_mem_singleton.mpr (closed_of_all (t := "index".toList) (by decide))⟩⟩
  have trimmed := List.forall_mem_cons.mpr
    ⟨Text.trimmed_between (by decide : Text.isBlank '\x7b' = false)
      (by decide : Text.isBlank '\x7d' = false) " id, at: [in, y] ".toList,
      List.forall_mem_cons.mpr ⟨@Text.trimmed_of_ends "of".toList ['o'] _ _ _ rfl rfl (by decide)
        (by decide), List.forall_mem_singleton.mpr (@Text.trimmed_of_ends "index".toList
          "inde".toList _ _ _ rfl rfl (by decide) (by decide))⟩⟩
  have whole := @ofExpression?_reads_back "rows in pages of books ".toList _ "of" trimmed closed
    (by decide) (by decide) (by decide)
  have alone := @ofExpression?_reads_back "rows".toList _ "in"
    (List.forall_mem_singleton.mpr (trimmed _ List.mem_cons_self))
    (List.forall_mem_singleton.mpr pattern) (by decide) (by decide) (by decide)
  exact ⟨whole.1, alone.2.1 _ rfl (by decide)⟩

end SfcLint.Script.Iteration
