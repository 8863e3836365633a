/-
# Beginnings of functions

Before its parameters a function has the word `async` and a keyword with a star and a name, or only
some of these or none. An arrow may have a single name in place of its parameters. Such a name is
told from a keyword by what stands behind it: no arrow follows a keyword before some character that
belongs neither to a name nor to blanks.
-/

import SfcLint.Proofs.Pattern.Preference
import SfcLint.Proofs.Script.KeyPattern
import SfcLint.Script.Function

namespace SfcLint.Script

/-- The word `async` with the blanks behind it, or nothing. -/
inductive AsyncWord : Text → Prop
  | absent : AsyncWord []
  | present {blanks : Text} : blanks ≠ [] → (∀ c ∈ blanks, Text.isBlank c = true) →
      AsyncWord ("async".toList ++ blanks)

/-- The keyword of a function, perhaps with a star and with a name, or nothing. -/
inductive Keyword : Text → Prop
  | absent : Keyword []
  | nameless {star blanks : Text} : star = [] ∨ star = ['*'] →
      (∀ c ∈ blanks, Text.isBlank c = true) → Keyword ("function".toList ++ (star ++ blanks))
  | named {star blanks name blanks' : Text} : star = [] ∨ star = ['*'] → blanks ≠ [] →
      (∀ c ∈ blanks, Text.isBlank c = true) → KeyForm.name.Proper name →
        (∀ c ∈ blanks', Text.isBlank c = true) →
          Keyword ("function".toList ++ (star ++ (blanks ++ (name ++ blanks'))))

open Pattern

variable {front run rest t : Text} {hit : Hit} {c : Char}

/-! ## A single parameter -/

/-- A character of a name or a blank. -/
def isNameOrBlank (c : Char) : Bool := Text.isNameChar c || Text.isBlank c

theorem isNameOrBlank_of_name {name : Text} (identifier : KeyForm.name.Proper name) :
    ∀ c ∈ name, isNameOrBlank c = true := by
  intro c member
  have inside : Text.isNameChar c = true := identifier.inside c member
  rw [isNameOrBlank, inside, Bool.true_or]

theorem isNameOrBlank_of_blanks {blanks : Text} (blank : ∀ c ∈ blanks, Text.isBlank c = true) :
    ∀ c ∈ blanks, isNameOrBlank c = true := by
  intro c member
  rw [isNameOrBlank, blank c member, Bool.or_true]

theorem AsyncWord.isNameOrBlank {async : Text} (isAsync : AsyncWord async) :
    ∀ c ∈ async, isNameOrBlank c = true := by
  cases isAsync with
  | absent => simp
  | present _ blank =>
    exact List.forall_mem_append.mpr
      ⟨List.all_eq_true.mp (by decide), isNameOrBlank_of_blanks blank⟩

theorem spells_asyncWord {aside : List Aside} :
    (optional (all ["async", blanks1])).Spells t aside ↔ AsyncWord t ∧ aside = [] := by
  constructor
  · rintro (word | ⟨rfl, rfl⟩)
    · obtain ⟨blanks, nonempty, blank, rfl, rfl⟩ := spells_word.mp word
      exact ⟨.present nonempty blank, rfl⟩
    · exact ⟨.absent, rfl⟩
  · rintro ⟨isAsync, rfl⟩
    cases isAsync with
    | absent => exact .inr ⟨rfl, rfl⟩
    | present nonempty blank => exact .inl (spells_word.mpr ⟨_, nonempty, blank, rfl, rfl⟩)

/-- The pattern of a single parameter spells a name, perhaps behind the word, and the arrow. -/
theorem spells_arrowParameter {aside : List Aside} :
    arrowParameter.Spells t aside ↔ aside = [] ∧
      ∃ async name blanks, AsyncWord async ∧ KeyForm.name.Proper name ∧
        (∀ c ∈ blanks, Text.isBlank c = true) ∧ t = async ++ (name ++ (blanks ++ "=>".toList)) := by
  constructor
  · rintro ⟨async, _, _, _, word, ⟨name, _, _, _, named, ⟨blanks, _, _, _, ⟨blank, rfl⟩, ⟨rfl, rfl⟩,
      rfl, rfl⟩, rfl, rfl⟩, rfl, rfl⟩
    obtain ⟨isAsync, rfl⟩ := spells_asyncWord.mp word
    obtain ⟨proper, rfl⟩ := spells_identifier.mp named
    exact ⟨rfl, async, name, blanks, isAsync, proper, blank, rfl⟩
  · rintro ⟨rfl, async, name, blanks, isAsync, proper, blank, rfl⟩
    exact ⟨async, _, [], [], spells_asyncWord.mpr ⟨isAsync, rfl⟩,
      ⟨name, _, [], [], spells_identifier.mpr ⟨proper, rfl⟩,
        ⟨blanks, _, [], [], ⟨blank, rfl⟩, ⟨rfl, rfl⟩, rfl, rfl⟩, rfl, rfl⟩, rfl, rfl⟩

theorem isNameOrBlank_of_parameter {async name blanks : Text} (isAsync : AsyncWord async)
    (proper : KeyForm.name.Proper name) (blank : ∀ c ∈ blanks, Text.isBlank c = true) :
    ∀ c ∈ async ++ (name ++ blanks), isNameOrBlank c = true :=
  List.forall_mem_append.mpr ⟨isAsync.isNameOrBlank,
    List.forall_mem_append.mpr ⟨isNameOrBlank_of_name proper, isNameOrBlank_of_blanks blank⟩⟩

/-- The first character that belongs neither to a name nor to blanks is found in one way only. -/
theorem run_unique {run' rest' : Text} {c' : Char} (inside : ∀ d ∈ run, isNameOrBlank d = true)
    (inside' : ∀ d ∈ run', isNameOrBlank d = true) (sign : isNameOrBlank c = false)
    (sign' : isNameOrBlank c' = false) (same : run ++ c :: rest = run' ++ c' :: rest') :
    run = run' ∧ c = c' := by
  have stops {c : Char} {rest : Text} (sign : isNameOrBlank c = false) (d : Char)
      (first : (c :: rest).head? = some d) : isNameOrBlank d = false := by
    obtain rfl := Option.some.inj first
    exact sign
  obtain ⟨runs, behind⟩ := span_unique inside inside' (stops sign) (stops sign') same
  exact ⟨runs, (List.cons.inj behind).1⟩

/-- Up to the arrow that is found there are only characters of names and blanks. -/
theorem exists_run_of_leading? (found : arrowParameter.leading? t = some hit) :
    ∃ run rest, t = run ++ '=' :: '>' :: rest ∧ (∀ c ∈ run, isNameOrBlank c = true) ∧
      hit.stop = run.length + 2 := by
  obtain ⟨next, member, rfl⟩ := hitAt?_eq_some found
  obtain ⟨taken, aside, spells, leads⟩ := exists_spells_of_mem_ways rfl member
  obtain ⟨-, async, name, blanks, isAsync, proper, blank, rfl⟩ := spells_arrowParameter.mp spells
  refine ⟨async ++ (name ++ blanks), next.rest, ?_,
    isNameOrBlank_of_parameter isAsync proper blank, ?_⟩
  · have text : t = _ ++ next.rest := leads.rest
    simpa using text
  · have place : next.offset = 0 + _ := leads.offset
    simpa [Hit.between, Nat.add_assoc] using place

/-- No single parameter is found where a sign other than of an arrow comes first. -/
theorem leading?_arrowParameter_eq_none (inside : ∀ d ∈ run, isNameOrBlank d = true)
    (sign : isNameOrBlank c = false) (other : c ≠ '=') :
    arrowParameter.leading? (run ++ c :: rest) = none := by
  cases found : arrowParameter.leading? (run ++ c :: rest) with
  | none => rfl
  | some hit =>
    obtain ⟨run', rest', same, inside', -⟩ := exists_run_of_leading? found
    exact absurd (run_unique inside inside' sign (by decide) same).2 other

/-- A single parameter is found up to its arrow. -/
theorem exists_leading?_arrowParameter {async name blanks : Text} (isAsync : AsyncWord async)
    (proper : KeyForm.name.Proper name) (blank : ∀ c ∈ blanks, Text.isBlank c = true)
    (rest : Text) :
    ∃ hit, arrowParameter.leading? (async ++ (name ++ (blanks ++ "=>".toList)) ++ rest) = some hit ∧
      hit.stop = (async ++ (name ++ (blanks ++ "=>".toList))).length := by
  have spells := spells_arrowParameter.mpr ⟨rfl, async, name, blanks, isAsync, proper, blank, rfl⟩
  have ahead : async ++ (name ++ (blanks ++ "=>".toList)) <+:
      (Cursor.atStart (async ++ (name ++ (blanks ++ "=>".toList)) ++ rest)).rest :=
    List.prefix_append _ rest
  obtain ⟨next, member, -⟩ := exists_way_of_spells rfl spells ahead
  cases found : arrowParameter.leading? (async ++ (name ++ (blanks ++ "=>".toList)) ++ rest) with
  | none =>
    rw [leading?, hitAt?_eq_none_iff] at found
    rw [found] at member
    contradiction
  | some hit =>
    -- Whatever way was found, its arrow is the first one.
    obtain ⟨run, behind, same, inside, stop⟩ := exists_run_of_leading? found
    refine ⟨hit, rfl, ?_⟩
    have whole : async ++ (name ++ (blanks ++ "=>".toList)) ++ rest =
        (async ++ (name ++ blanks)) ++ '=' :: '>' :: rest := by simp
    obtain ⟨rfl, -⟩ := run_unique (isNameOrBlank_of_parameter isAsync proper blank) inside
      (by decide) (by decide) (whole.symm.trans same)
    rw [stop]
    simp [Nat.add_assoc]

/-! ## The keyword -/

/-- The pattern can pass the first text before the second one, and this is the way it prefers. -/
def Passes (p : Pattern) (before : Option Char) (taken rest : Text) : Prop :=
  ∃ last, Picks p ⟨before, taken ++ rest⟩ ⟨last, rest⟩ []

section

variable {first second : Pattern} {before : Option Char} {back blanks : Text}

theorem Passes.seq (front : Passes first before t (back ++ rest))
    (later : ∀ before, Passes second before back rest) :
    Passes (.seq first second) before (t ++ back) rest := by
  obtain ⟨middle, picks⟩ := front
  obtain ⟨last, picks'⟩ := later middle
  refine ⟨last, ?_⟩
  rw [List.append_assoc]
  exact picks_seq picks picks'

theorem passes_blanks (blank : ∀ c ∈ blanks, Text.isBlank c = true)
    (stops : ∀ c ∈ rest.head?, Text.isBlank c = false) (before : Option Char) :
    Passes Pattern.blanks before blanks rest :=
  ⟨_, picks_many blanks blank stops⟩

theorem Passes.optional {p : Pattern} (passes : Passes p before t rest) :
    Passes (optional p) before t rest := by
  obtain ⟨last, picks⟩ := passes
  exact ⟨last, picks_optional picks⟩

theorem passes_optional_nil {p : Pattern} (none : Refuses p ⟨before, rest⟩) :
    Passes (optional p) before [] rest :=
  ⟨before, picks_optional_of_refuses none⟩

theorem passes_identifier {name : Text} (proper : KeyForm.name.Proper name)
    (stops : ∀ c ∈ rest.head?, Text.isNameChar c = false) (before : Option Char) :
    Passes identifier before name rest := by
  obtain ⟨c, name, rfl, starts, continues⟩ := proper
  exact ⟨_, picks_seq (picks_one starts) (picks_many name continues stops)⟩

theorem passes_literal (t : Text) (before : Option Char) : Passes (literal t) before t rest :=
  ⟨_, picks_literal t⟩

theorem passes_asyncWord {async : Text} (isAsync : AsyncWord async)
    (stops : ∀ c ∈ rest.head?, Text.isBlank c = false) (other : ¬ "async".toList <+: rest)
    (before : Option Char) : Passes (optional (all ["async", blanks1])) before async rest := by
  cases isAsync with
  | absent => exact passes_optional_nil (refuses_seq (refuses_literal other))
  | present nonempty blank =>
    have behind (before : Option Char) : Passes blanks1 before _ rest :=
      ⟨_, picks_some1 nonempty blank stops⟩
    exact ((passes_literal _ before).seq behind).optional

/-- A star is passed before the blanks or, when there is none, the blanks are passed at once. -/
theorem passes_starred {p : Pattern} {star after : Text} (isStar : star = [] ∨ star = ['*'])
    (blank : ∀ c ∈ blanks, Text.isBlank c = true)
    (stops : ∀ c ∈ (after ++ rest).head?, Text.isBlank c = false ∧ c ≠ '*')
    (later : ∀ before, Passes p before after rest) (before : Option Char) :
    Passes (.seq Pattern.blanks (.seq (optional "*") (.seq Pattern.blanks p))) before
      (star ++ (blanks ++ after)) rest := by
  have visible : ∀ c ∈ (after ++ rest).head?, Text.isBlank c = false :=
    fun c first => (stops c first).1
  rcases isStar with rfl | rfl
  · -- The first pattern for blanks takes them all and leaves none for the second one.
    have noStar (before : Option Char) : Passes (optional "*") before [] (after ++ rest) := by
      refine passes_optional_nil (refuses_literal fun starts => ?_)
      obtain ⟨behind, same⟩ := starts
      exact (stops '*' (by rw [← same]; rfl)).2 rfl
    have noBlanks (before : Option Char) : Passes Pattern.blanks before [] (after ++ rest) :=
      passes_blanks (by simp) visible before
    exact (passes_blanks blank visible before).seq fun before =>
      (noStar before).seq fun before => (noBlanks before).seq later
  · have none : ∀ c ∈ (['*'] ++ (blanks ++ after) ++ rest).head?, Text.isBlank c = false := by
      rintro c first
      obtain rfl := Option.some.inj first
      decide
    have tail (before : Option Char) :
        Passes (.seq Pattern.blanks p) before (blanks ++ after) rest :=
      (passes_blanks blank visible before).seq later
    exact Passes.seq (t := []) (passes_blanks (by simp) none before) fun before =>
      (passes_literal ['*'] before).optional.seq tail

/-- The keyword is passed with a star and the blanks, where it is a whole word. -/
theorem passes_keyword {star after : Text} (isStar : star = [] ∨ star = ['*'])
    (blank : ∀ c ∈ blanks, Text.isBlank c = true)
    (whole : star = [] → blanks = [] → ∀ c ∈ (after ++ rest).head?, Text.isWordChar c = false)
    (stops : ∀ c ∈ (after ++ rest).head?, Text.isBlank c = false ∧ c ≠ '*')
    (later : ∀ before, Passes (all [optional identifier, Pattern.blanks]) before after rest)
    (before : Option Char) :
    Passes (all ["function", edge, Pattern.blanks, optional "*", Pattern.blanks,
      optional identifier, Pattern.blanks]) before
        ("function".toList ++ (star ++ (blanks ++ after))) rest := by
  obtain ⟨last, picks⟩ := passes_starred isStar blank stops later (some 'n')
  -- A blank, a star or what follows both ends the word.
  have ends : (star ++ (blanks ++ after) ++ rest).head?.any Text.isWordChar = false := by
    rw [Option.any_eq_false]
    intro c first
    rcases isStar with rfl | rfl
    · cases blanks with
      | nil => exact whole rfl rfl c first
      | cons d blanks =>
        obtain rfl := Option.some.inj first
        exact Text.isWordChar_of_isBlank (blank d List.mem_cons_self)
    · obtain rfl := Option.some.inj first
      decide
  have edge : Picks edge ⟨some 'n', star ++ (blanks ++ after) ++ rest⟩
      ⟨some 'n', star ++ (blanks ++ after) ++ rest⟩ [] := picks_edge (by rw [ends]; decide)
  refine ⟨last, ?_⟩
  rw [List.append_assoc]
  exact picks_seq (picks_literal "function".toList) (picks_seq edge picks)

/-- Without a name only blanks may stand between the keyword and the bracket. -/
theorem passes_noName (rest : Text) (before : Option Char) :
    Passes (all [.optional identifier, Pattern.blanks]) before [] ('(' :: rest) := by
  refine Passes.seq (t := []) (passes_optional_nil (refuses_seq (refuses_one ?_)))
    (passes_blanks (by simp) ?_)
  · rintro c ⟨⟩
    decide
  · rintro c ⟨⟩
    decide

theorem passes_name {name blanks : Text} (proper : KeyForm.name.Proper name)
    (blank : ∀ c ∈ blanks, Text.isBlank c = true) (rest : Text) (before : Option Char) :
    Passes (all [.optional identifier, Pattern.blanks]) before (name ++ blanks) ('(' :: rest) := by
  refine (passes_identifier proper ?_ before).optional.seq (passes_blanks blank ?_)
  · cases blanks with
    | nil =>
      rintro c ⟨⟩
      decide
    | cons d blanks =>
      rintro c ⟨⟩
      exact Text.isNameChar_of_isBlank (blank d List.mem_cons_self)
  · rintro c ⟨⟩
    decide

/-- The pattern of what stands before parameters passes the word and the keyword. -/
theorem passes_functionHead {async keyword : Text} (isAsync : AsyncWord async)
    (isKeyword : Keyword keyword) (rest : Text) :
    Passes functionHead none (async ++ keyword) ('(' :: rest) := by
  -- Neither the keyword nor the bracket starts like the word, so no word is found without one.
  have word : Passes (.optional (all ["async", blanks1])) none async (keyword ++ '(' :: rest) := by
    refine passes_asyncWord isAsync ?_ ?_ none
    · cases isKeyword with
      | _ => rintro c ⟨⟩; decide
    · cases isKeyword with
      | _ => rintro ⟨_, same⟩; exact absurd (List.cons.inj same).1 (by decide)
  refine word.seq fun before => ?_
  cases isKeyword with
  | absent =>
    refine passes_optional_nil (refuses_seq (refuses_literal ?_))
    rintro ⟨_, same⟩
    exact absurd (List.cons.inj same).1 (by decide)
  | @nameless star blanks isStar blank =>
    have passes := passes_keyword isStar blank ?_ ?_ (passes_noName rest) before
    · rw [List.append_nil] at passes
      exact passes.optional
    · rintro - - c ⟨⟩
      decide
    · rintro c ⟨⟩
      decide
  | @named star blanks name blanks' isStar nonempty blank proper blank' =>
    have named := passes_name proper blank' rest
    refine (passes_keyword isStar blank ?_ ?_ named before).optional
    · rintro - none
      exact absurd none nonempty
    · obtain ⟨d, name, rfl, starts, -⟩ := proper
      rintro c ⟨⟩
      refine ⟨not_isBlank_of_startsKey (by rw [startsKey, starts, Bool.true_or]), ?_⟩
      rintro rfl
      exact absurd starts (by decide)

/-- What stands before parameters is found. -/
theorem exists_leading?_functionHead {async keyword : Text} (isAsync : AsyncWord async)
    (isKeyword : Keyword keyword) (rest : Text) :
    ∃ hit, functionHead.leading? (async ++ keyword ++ '(' :: rest) = some hit ∧
      hit.stop = (async ++ keyword).length := by
  obtain ⟨last, picks⟩ := passes_functionHead isAsync isKeyword rest
  obtain ⟨hit, found, finds⟩ := exists_leading?_of_picks picks
  exact ⟨hit, found, finds.stop.trans (Nat.zero_add _)⟩

/-- Before parameters no single parameter is found. -/
theorem leading?_arrowParameter_of_keyword {async keyword : Text} (isAsync : AsyncWord async)
    (isKeyword : Keyword keyword) (rest : Text) :
    arrowParameter.leading? (async ++ keyword ++ '(' :: rest) = none := by
  -- Behind the keyword, which could be a name, the first sign is a star or the bracket.
  obtain ⟨run, c, behind, split, inside, sign, other⟩ : ∃ run c behind,
      keyword ++ '(' :: rest = run ++ c :: behind ∧ (∀ d ∈ run, isNameOrBlank d = true) ∧
        isNameOrBlank c = false ∧ c ≠ '=' := by
    have word : ∀ d ∈ "function".toList, isNameOrBlank d = true :=
      List.all_eq_true.mp (by decide)
    cases isKeyword with
    | absent => exact ⟨[], '(', rest, rfl, by simp, by decide, by decide⟩
    | @nameless star blanks isStar blank =>
      rcases isStar with rfl | rfl
      · exact ⟨"function".toList ++ blanks, '(', rest, by simp,
          List.forall_mem_append.mpr ⟨word, isNameOrBlank_of_blanks blank⟩, by decide, by decide⟩
      · exact ⟨"function".toList, '*', blanks ++ '(' :: rest, by simp, word, by decide, by decide⟩
    | @named star blanks name blanks' isStar _ blank proper blank' =>
      rcases isStar with rfl | rfl
      · refine ⟨"function".toList ++ (blanks ++ (name ++ blanks')), '(', rest, by simp, ?_,
          by decide, by decide⟩
        simp only [List.forall_mem_append]
        exact ⟨word, isNameOrBlank_of_blanks blank, isNameOrBlank_of_name proper,
          isNameOrBlank_of_blanks blank'⟩
      · exact ⟨"function".toList, '*', blanks ++ (name ++ (blanks' ++ '(' :: rest)), by simp, word,
          by decide, by decide⟩
  rw [List.append_assoc, split, ← List.append_assoc]
  exact leading?_arrowParameter_eq_none
    (List.forall_mem_append.mpr ⟨isAsync.isNameOrBlank, inside⟩) sign other

end

end SfcLint.Script
