/-
# The language of a pattern

Some patterns look at nothing but the characters that they pass, and some of these go through
rounds. Such a pattern has a language: its ways from a place are those over the texts of the
language that stand there, and each text tells what is set aside of it. Languages are put together
as the patterns are, and a search for the pattern is a search for a text of the language.
-/

import Mathlib.Data.List.Forall2
import SfcLint.Proofs.Pattern.Preference

namespace SfcLint.Pattern

/-- Texts, each with what is set aside of it. -/
abbrev Language := Text → List Aside → Prop

/-- The ways of the pattern are those over the texts of the language. -/
structure Accepts (p : Pattern) (language : Language) : Prop where
  sound : ∀ {cursor next : Cursor}, next ∈ p.ways cursor →
    ∃ taken aside, language taken aside ∧ Leads cursor taken aside next
  complete : ∀ {cursor : Cursor} {taken : Text} {aside : List Aside}, language taken aside →
    taken <+: cursor.rest → ∃ next ∈ p.ways cursor, Leads cursor taken aside next

/-- A text of the first language, then one of the second. -/
def Language.seq (first second : Language) : Language := fun t aside =>
  ∃ front back early late, first front early ∧ second back late ∧ t = front ++ back ∧
    aside = late ++ early

/-- A text of one of two languages. -/
def Language.alt (first second : Language) : Language := fun t aside =>
  first t aside ∨ second t aside

/-- Texts of which nothing is set aside. -/
def Language.silent (texts : Text → Prop) : Language := fun t aside => texts t ∧ aside = []

/-- A row of texts of the language that are not empty. -/
inductive Language.Rounds (language : Language) : Language
  | nil : Rounds language [] []
  | cons {t later : Text} {aside aside' : List Aside} : language t aside → t ≠ [] →
      Rounds language later aside' → Rounds language (t ++ later) (aside' ++ aside)

variable {p first second body : Pattern} {language language' : Language} {cursor next : Cursor}
  {t taken : Text} {aside : List Aside}

theorem accepts_of_plain (plain : p.plain = true) : Accepts p p.Spells where
  sound := exists_spells_of_mem_ways plain
  complete := exists_way_of_spells plain

namespace Accepts

/-- Where no text of its language stands the pattern has no way. -/
theorem refuses (accepts : Accepts p language) {rest : Text}
    (none : ∀ taken aside, language taken aside → ¬ taken <+: rest) (before : Option Char) :
    Refuses p ⟨before, rest⟩ := by
  rintro cursor ⟨⟩
  rw [List.eq_nil_iff_forall_not_mem]
  intro next member
  obtain ⟨taken, aside, inside, leads⟩ := accepts.sound member
  exact none taken aside inside ⟨next.rest, leads.rest.symm⟩

theorem congr (accepts : Accepts p language)
    (same : ∀ t aside, language t aside ↔ language' t aside) : Accepts p language' where
  sound member := by
    obtain ⟨taken, aside, inside, leads⟩ := accepts.sound member
    exact ⟨taken, aside, (same taken aside).mp inside, leads⟩
  complete inside starts := accepts.complete ((same _ _).mpr inside) starts

theorem seq (front : Accepts first language) (back : Accepts second language') :
    Accepts (.seq first second) (language.seq language') where
  sound member := by
    rw [ways_seq, List.mem_flatMap] at member
    obtain ⟨middle, inFirst, inSecond⟩ := member
    obtain ⟨_, _, here, leads⟩ := front.sound inFirst
    obtain ⟨_, _, there, onward⟩ := back.sound inSecond
    exact ⟨_, _, ⟨_, _, _, _, here, there, rfl, rfl⟩, leads.trans onward⟩
  complete := by
    rintro cursor _ _ ⟨one, two, early, late, here, there, rfl, rfl⟩ ⟨rest, split⟩
    rw [List.append_assoc] at split
    obtain ⟨middle, inFirst, leads⟩ := front.complete here ⟨_, split⟩
    -- Ahead of the middle is what is left behind the first text.
    rw [leads.rest, List.append_cancel_left_eq] at split
    obtain ⟨next, inSecond, onward⟩ := back.complete there ⟨_, split⟩
    exact ⟨next, List.mem_flatMap.mpr ⟨middle, inFirst, inSecond⟩, leads.trans onward⟩

theorem alt (front : Accepts first language) (back : Accepts second language') :
    Accepts (.alt first second) (language.alt language') where
  sound member := by
    rcases List.mem_append.mp member with inFirst | inSecond
    · obtain ⟨taken, aside, here, leads⟩ := front.sound inFirst
      exact ⟨taken, aside, .inl here, leads⟩
    · obtain ⟨taken, aside, here, leads⟩ := back.sound inSecond
      exact ⟨taken, aside, .inr here, leads⟩
  complete := by
    rintro cursor taken aside (here | here) starts
    · obtain ⟨next, member, leads⟩ := front.complete here starts
      exact ⟨next, List.mem_append_left _ member, leads⟩
    · obtain ⟨next, member, leads⟩ := back.complete here starts
      exact ⟨next, List.mem_append_right _ member, leads⟩

theorem seq_silent {texts texts' : Text → Prop} (front : Accepts first (.silent texts))
    (back : Accepts second (.silent texts')) :
    Accepts (.seq first second) (.silent fun t =>
      ∃ front back, texts front ∧ texts' back ∧ t = front ++ back) := by
  refine (front.seq back).congr fun t aside => ⟨?_, ?_⟩
  · rintro ⟨front, back, _, _, ⟨here, rfl⟩, ⟨there, rfl⟩, split, rfl⟩
    exact ⟨⟨front, back, here, there, split⟩, rfl⟩
  · rintro ⟨⟨front, back, here, there, split⟩, rfl⟩
    exact ⟨front, back, [], [], ⟨here, rfl⟩, ⟨there, rfl⟩, split, rfl⟩

/-- A row of patterns takes a row of texts, one from the language of each. -/
theorem all_silent {parts : List (Pattern × (Text → Prop))}
    (accepts : ∀ part ∈ parts, Accepts part.1 (.silent part.2)) :
    Accepts (all (parts.map Prod.fst))
      (.silent fun t => ∃ texts, List.Forall₂ (fun part text => part.2 text) parts texts ∧
        t = texts.flatten) := by
  -- Induction on the row: the last pattern of a row stands alone, with no empty one behind it.
  induction parts with
  | nil =>
    refine (accepts_of_plain rfl : Accepts empty (.silent (· = []))).congr fun t aside =>
      and_congr_left' ?_
    simp
  | cons part parts ih =>
    rw [List.forall_mem_cons] at accepts
    cases parts with
    | nil =>
      refine accepts.1.congr fun t aside => and_congr_left' ⟨?_, ?_⟩
      · intro inside
        exact ⟨[t], .cons inside .nil, by simp⟩
      · rintro ⟨_, _ | ⟨inside, _ | _⟩, rfl⟩
        simpa using inside
    | cons next parts =>
      refine (accepts.1.seq_silent (ih accepts.2)).congr fun t aside => and_congr_left' ⟨?_, ?_⟩
      · rintro ⟨front, _, inside, ⟨texts, later, rfl⟩, rfl⟩
        exact ⟨front :: texts, .cons inside later, rfl⟩
      · rintro ⟨_, _ | ⟨inside, later⟩, rfl⟩
        exact ⟨_, _, inside, ⟨_, later, rfl⟩, rfl⟩

theorem alt_silent {texts texts' : Text → Prop} (front : Accepts first (.silent texts))
    (back : Accepts second (.silent texts')) :
    Accepts (.alt first second) (.silent fun t => texts t ∨ texts' t) :=
  (front.alt back).congr fun _ _ => or_and_right.symm

/-! ## Rounds -/

theorem exists_rounds_of_mem_roundWays (accepts : Accepts body language) {bound : Text}
    (member : next ∈ roundWays body.ways bound cursor) :
    ∃ taken aside, language.Rounds taken aside ∧ Leads cursor taken aside next := by
  -- Induction on the bound: without one no round is made, and each round takes one character of it.
  induction bound generalizing cursor with
  | nil =>
    rw [List.mem_singleton.mp member]
    exact ⟨[], [], .nil, .refl cursor⟩
  | cons _ bound ih =>
    rw [roundWays, List.mem_append, List.mem_flatMap, List.mem_singleton] at member
    rcases member with ⟨middle, inBody, member⟩ | rfl
    · split at member
      next moves =>
        obtain ⟨round, aside, inside, leads⟩ := accepts.sound inBody
        obtain ⟨later, aside', rounds, onward⟩ := ih member
        -- A round that leads to a later place has passed something.
        have some : round ≠ [] := by
          rintro rfl
          have place := leads.offset
          rw [List.length_nil] at place
          omega
        exact ⟨_, _, .cons inside some rounds, leads.trans onward⟩
      next => contradiction
    · exact ⟨[], [], .nil, .refl next⟩

theorem exists_mem_roundWays (accepts : Accepts body language)
    (rounds : language.Rounds taken aside) (starts : taken <+: cursor.rest) {bound : Text}
    (within : cursor.rest.length ≤ bound.length) :
    ∃ next ∈ roundWays body.ways bound cursor, Leads cursor taken aside next := by
  -- Induction on the rounds: each takes something from the text, so the bound outlasts them.
  induction rounds generalizing cursor bound with
  | nil =>
    refine ⟨cursor, ?_, .refl cursor⟩
    cases bound with
    | nil => exact List.mem_singleton.mpr rfl
    | cons _ bound => exact List.mem_append_right _ (List.mem_singleton.mpr rfl)
  | @cons round later aside aside' inside some _ ih =>
    obtain ⟨rest, split⟩ := starts
    rw [List.append_assoc] at split
    obtain ⟨middle, inBody, leads⟩ := accepts.complete inside ⟨_, split⟩
    rw [leads.rest, List.append_cancel_left_eq] at split
    have width := List.length_pos_iff.mpr some
    have lengths := congrArg List.length leads.rest
    rw [List.length_append] at lengths
    cases bound with
    | nil =>
      rw [List.length_nil] at within
      omega
    | cons _ bound =>
      rw [List.length_cons] at within
      have remaining : middle.rest.length ≤ bound.length := by omega
      obtain ⟨next, inLater, onward⟩ := ih ⟨rest, split⟩ remaining
      refine ⟨next, ?_, leads.trans onward⟩
      have moves : cursor.offset < middle.offset := by
        rw [leads.offset]
        omega
      rw [roundWays, List.mem_append, List.mem_flatMap]
      exact .inl ⟨middle, inBody, by rwa [if_pos moves]⟩

theorem star (accepts : Accepts body language) : Accepts (.star body) language.Rounds where
  sound := accepts.exists_rounds_of_mem_roundWays
  complete rounds starts := accepts.exists_mem_roundWays rounds starts (Nat.le_refl _)

theorem captured (accepts : Accepts body language) (name : String) :
    Accepts (.capture name body) fun t aside =>
      ∃ inner, language t inner ∧ aside = (name, t) :: inner where
  sound member := by
    obtain ⟨inner, inBody, rfl⟩ := List.mem_map.mp member
    obtain ⟨taken, aside, inside, leads⟩ := accepts.sound inBody
    exact ⟨taken, _, ⟨aside, inside, rfl⟩, leads_setAside leads⟩
  complete := by
    rintro cursor taken _ ⟨aside, inside, rfl⟩ starts
    obtain ⟨next, member, leads⟩ := accepts.complete inside starts
    exact ⟨_, List.mem_map_of_mem member, leads_setAside leads⟩

end Accepts

/-! ## Languages of single patterns -/

theorem accepts_empty : Accepts empty (.silent (· = [])) := accepts_of_plain rfl

theorem accepts_literal (known : Text) : Accepts (.literal known) (.silent (· = known)) :=
  accepts_of_plain rfl

theorem accepts_one (test : Char → Bool) :
    Accepts (one test) (.silent fun t => ∃ c, test c = true ∧ t = [c]) :=
  accepts_of_plain rfl

theorem accepts_many (test : Char → Bool) :
    Accepts (many test) (.silent fun t => ∀ c ∈ t, test c = true) :=
  accepts_of_plain rfl

theorem accepts_some1 (test : Char → Bool) :
    Accepts (some1 test) (.silent fun t => t ≠ [] ∧ ∀ c ∈ t, test c = true) := by
  refine ((accepts_one test).seq_silent (accepts_many test)).congr fun t aside =>
    and_congr_left' ⟨?_, ?_⟩
  · rintro ⟨_, back, ⟨c, passes, rfl⟩, later, rfl⟩
    exact ⟨List.cons_ne_nil c back, List.forall_mem_cons.mpr ⟨passes, later⟩⟩
  · rintro ⟨some, passes⟩
    obtain ⟨c, back, rfl⟩ := List.exists_cons_of_ne_nil some
    rw [List.forall_mem_cons] at passes
    exact ⟨[c], back, ⟨c, passes.1, rfl⟩, passes.2, rfl⟩

/-- The language of some words is these words. -/
theorem accepts_words (names : List String) :
    Accepts (words names) (.silent fun t => ∃ name ∈ names, t = name.toList) := by
  have plain : (words names).plain = true := by
    induction names with
    | nil => rfl
    | cons name names ih =>
      cases names with
      | nil => rfl
      | cons other names => exact ih
  -- The last word has no alternative behind it, so it is a case of its own.
  refine (accepts_of_plain plain).congr fun t aside => ?_
  induction names with
  | nil => simp [words, any, Spells, Language.silent]
  | cons name names ih =>
    cases names with
    | nil => simp [words, any, Spells, Language.silent]
    | cons other names =>
      change (t = name.toList ∧ aside = []) ∨ (words (other :: names)).Spells t aside ↔ _
      rw [ih plain, Language.silent, Language.silent, ← or_and_right]
      simp only [List.mem_cons, or_and_right, exists_or, exists_eq_left]

/-! ## What is found -/

theorem Leads.finds (leads : Leads cursor taken aside next) (fresh : cursor.captures = []) :
    Finds (Hit.between cursor next) cursor.offset taken next.rest aside where
  start := rfl
  stop := leads.offset
  text := leads.take_eq
  rest := rfl
  asides := by
    have parts := leads.asides
    rw [Pattern.asides, Pattern.asides, fresh, List.map_nil, List.append_nil] at parts
    exact parts

namespace Accepts

/-- A hit is over a text of the language that stands at the place. -/
theorem exists_of_hitAt? (accepts : Accepts p language) {n : Nat} {hit : Hit}
    (found : p.hitAt? (.within t n) = some hit) :
    ∃ taken aside, language taken aside ∧ t.drop n = taken ++ hit.rest ∧
      Finds hit n taken hit.rest aside := by
  obtain ⟨next, member, rfl⟩ := hitAt?_eq_some found
  obtain ⟨taken, aside, inside, leads⟩ := accepts.sound member
  exact ⟨taken, aside, inside, leads.rest, leads.finds rfl⟩

/-- Where a text of the language stands there is a hit. -/
theorem exists_hitAt? (accepts : Accepts p language) (inside : language taken aside) {n : Nat}
    (starts : taken <+: t.drop n) : ∃ hit, p.hitAt? (.within t n) = some hit := by
  have starts' : taken <+: (Cursor.within t n).rest := starts
  obtain ⟨next, member, -⟩ := accepts.complete inside starts'
  cases found : p.hitAt? (.within t n) with
  | none =>
    rw [hitAt?_eq_none_iff.mp found] at member
    contradiction
  | some hit => exact ⟨hit, rfl⟩

/-- The pattern occurs in a text exactly when a text of its language stands in it. -/
theorem occursIn_iff (accepts : Accepts p language) :
    p.occursIn t = true ↔ ∃ taken aside, language taken aside ∧ taken <:+: t := by
  rw [occursIn, Option.isSome_iff_exists]
  constructor
  · rintro ⟨hit, found⟩
    obtain ⟨n, -, here, -⟩ := first?_eq_some found
    obtain ⟨taken, aside, inside, split, -⟩ := accepts.exists_of_hitAt? here
    refine ⟨taken, aside, inside, t.take n, hit.rest, ?_⟩
    rw [List.append_assoc, ← split, List.take_append_drop]
  · rintro ⟨taken, aside, inside, front, back, rfl⟩
    have starts : taken <+: (front ++ taken ++ back).drop front.length := by
      rw [List.append_assoc, List.drop_left]
      exact List.prefix_append taken back
    obtain ⟨hit, here⟩ := accepts.exists_hitAt? inside starts
    -- The search may stop before, at another text of the language, but it does not fail.
    cases found : p.first? (front ++ taken ++ back) with
    | none =>
      rw [first?_eq_none found (by simp)] at here
      contradiction
    | some first => exact ⟨first, rfl⟩

end Accepts

/-- A pattern that looks behind first is found where it is found and the look is right. -/
theorem hitAt?_behind_seq {wanted : Bool} {test : Char → Bool} :
    (seq (behind wanted test) p).hitAt? cursor =
      if cursor.before.any test == wanted then p.hitAt? cursor else none := by
  rw [hitAt?_eq, hitAt?_eq, ways_seq, ways]
  split
  · rw [List.flatMap_singleton]
  · rfl

end SfcLint.Pattern
