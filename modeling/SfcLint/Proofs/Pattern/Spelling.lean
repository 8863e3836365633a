/-
# The texts that a pattern spells

A pattern that looks at nothing but the characters it passes spells certain texts, and sets parts
of them aside. It has a way over a text exactly when the text starts with one that it spells, so
what such a pattern finds can be said without cursors.
-/

import SfcLint.Proofs.Pattern.Ways

namespace SfcLint.Pattern

/-- A name and the text that is set aside under it. -/
abbrev Aside := String × Text

/-- The pattern looks only at the characters that it passes. -/
def plain : Pattern → Bool
  | empty | one _ | literal _ | run _ _ => true
  | seq first second | alt first second => first.plain && second.plain
  | capture _ body => body.plain
  | _ => false

/-- The pattern can pass the text, and sets the given parts of it aside, latest first. -/
def Spells : Pattern → Text → List Aside → Prop
  | empty, t, aside => t = [] ∧ aside = []
  | one test, t, aside => (∃ c, test c = true ∧ t = [c]) ∧ aside = []
  | literal known, t, aside => t = known ∧ aside = []
  | run _ test, t, aside => (∀ c ∈ t, test c = true) ∧ aside = []
  | seq first second, t, aside =>
      ∃ front back early late, first.Spells front early ∧ second.Spells back late ∧
        t = front ++ back ∧ aside = late ++ early
  | alt first second, t, aside => first.Spells t aside ∨ second.Spells t aside
  | capture name body, t, aside => ∃ inner, body.Spells t inner ∧ aside = (name, t) :: inner
  | _, _, _ => False

/-- What has been set aside at a cursor, without its places. -/
def asides (cursor : Cursor) : List Aside := cursor.captures.map fun part => (part.name, part.text)

/-- The second cursor is the first one after the text has been passed and the parts of it have been
set aside. -/
structure Leads (cursor : Cursor) (taken : Text) (aside : List Aside) (next : Cursor) : Prop
    extends Reaches cursor taken next where
  asides : asides next = aside ++ asides cursor

variable {p : Pattern} {cursor middle next : Cursor} {taken : Text} {aside : List Aside}

theorem Leads.refl (cursor : Cursor) : Leads cursor [] [] cursor := ⟨.refl cursor, rfl⟩

theorem Leads.trans {front back : Text} {early late : List Aside}
    (leads : Leads cursor front early middle) (onward : Leads middle back late next) :
    Leads cursor (front ++ back) (late ++ early) next where
  toReaches := leads.toReaches.trans onward.toReaches
  asides := by rw [onward.asides, leads.asides, List.append_assoc]

theorem leads_of_reaches (reaches : Reaches cursor taken next)
    (same : next.captures = cursor.captures) : Leads cursor taken [] next :=
  ⟨reaches, by rw [asides, same, List.nil_append, asides]⟩

theorem leads_setAside {name : String} (leads : Leads cursor taken aside next) :
    Leads cursor taken ((name, taken) :: aside) (setAside name cursor next) where
  rest := leads.rest
  offset := leads.offset
  before := leads.before
  captures := leads.captures.trans (List.suffix_cons _ _)
  asides := by
    rw [Pattern.asides, setAside, List.map_cons, leads.take_eq, List.cons_append, ← leads.asides]
    rfl

/-! ## Every way passes a spelled text -/

theorem exists_spells_of_mem_ways (plain : p.plain = true) (member : next ∈ p.ways cursor) :
    ∃ taken aside, p.Spells taken aside ∧ Leads cursor taken aside next := by
  induction p generalizing cursor next with
  | empty =>
    obtain rfl := List.mem_singleton.mp member
    exact ⟨[], [], ⟨rfl, rfl⟩, .refl _⟩
  | one test =>
    obtain ⟨offset, before, rest, captures⟩ := cursor
    cases rest with
    | nil => simp [ways] at member
    | cons c rest =>
      simp only [ways, List.mem_ite_nil_right, List.mem_singleton] at member
      obtain ⟨passes, rfl⟩ := member
      exact ⟨[c], [], ⟨⟨c, passes, rfl⟩, rfl⟩,
        leads_of_reaches ⟨rfl, rfl, rfl, List.suffix_rfl⟩ rfl⟩
  | literal t =>
    rw [ways, Option.mem_toList, afterText_eq_some_iff] at member
    exact ⟨t, [], ⟨rfl, rfl⟩, leads_of_reaches member.1 member.2⟩
  | run eager test =>
    obtain ⟨taken, passes, reaches, same⟩ :=
      exists_reaches_of_mem_runWays (mem_runWays_of_run member)
    exact ⟨taken, [], ⟨passes, rfl⟩, leads_of_reaches reaches same⟩
  | seq first second ihFirst ihSecond =>
    rw [Pattern.plain, Bool.and_eq_true] at plain
    rw [ways, List.mem_flatMap] at member
    obtain ⟨middle, inFirst, inSecond⟩ := member
    obtain ⟨front, early, spells, leads⟩ := ihFirst plain.1 inFirst
    obtain ⟨back, late, spells', onward⟩ := ihSecond plain.2 inSecond
    exact ⟨_, _, ⟨front, back, early, late, spells, spells', rfl, rfl⟩, leads.trans onward⟩
  | alt first second ihFirst ihSecond =>
    rw [Pattern.plain, Bool.and_eq_true] at plain
    rw [ways, List.mem_append] at member
    rcases member with inFirst | inSecond
    · obtain ⟨taken, aside, spells, leads⟩ := ihFirst plain.1 inFirst
      exact ⟨taken, aside, .inl spells, leads⟩
    · obtain ⟨taken, aside, spells, leads⟩ := ihSecond plain.2 inSecond
      exact ⟨taken, aside, .inr spells, leads⟩
  | capture name body ih =>
    rw [ways, List.mem_map] at member
    obtain ⟨inner, inBody, rfl⟩ := member
    obtain ⟨taken, aside, spells, leads⟩ := ih plain inBody
    exact ⟨taken, _, ⟨aside, spells, rfl⟩, leads_setAside leads⟩
  -- The other patterns look around or back, and none of them is in a plain pattern.
  | _ => contradiction

/-! ## Every spelled text is passed by a way -/

theorem exists_mem_runWays {test : Char → Bool} {taken : Text}
    (passes : ∀ c ∈ taken, test c = true) (rest : Text) (captures : List Capture) (offset : Nat)
    (before : Option Char) :
    ∃ next ∈ runWays test captures offset before (taken ++ rest),
      Leads ⟨offset, before, taken ++ rest, captures⟩ taken [] next := by
  induction taken generalizing offset before with
  | nil =>
    refine ⟨_, ?_, .refl _⟩
    rw [List.nil_append]
    cases rest <;> simp [runWays]
  | cons c taken ih =>
    rw [List.forall_mem_cons] at passes
    obtain ⟨next, member, leads⟩ := ih passes.2 (offset + 1) (some c)
    have step : Leads ⟨offset, before, c :: (taken ++ rest), captures⟩ [c] []
        ⟨offset + 1, some c, taken ++ rest, captures⟩ :=
      leads_of_reaches ⟨rfl, rfl, rfl, List.suffix_rfl⟩ rfl
    refine ⟨next, ?_, step.trans leads⟩
    rw [List.cons_append, runWays, if_pos passes.1]
    exact List.mem_cons_of_mem _ member

theorem exists_way_of_spells (plain : p.plain = true) (spells : p.Spells taken aside)
    (starts : taken <+: cursor.rest) : ∃ next ∈ p.ways cursor, Leads cursor taken aside next := by
  induction p generalizing cursor taken aside with
  | empty =>
    obtain ⟨rfl, rfl⟩ := spells
    exact ⟨_, List.mem_singleton.mpr rfl, .refl _⟩
  | one test =>
    obtain ⟨⟨c, passes, rfl⟩, rfl⟩ := spells
    obtain ⟨offset, before, t, captures⟩ := cursor
    obtain ⟨rest, rfl⟩ := starts
    refine ⟨⟨offset + 1, some c, rest, captures⟩, ?_,
      leads_of_reaches ⟨rfl, rfl, rfl, List.suffix_rfl⟩ rfl⟩
    simp [ways, passes]
  | literal t =>
    obtain ⟨rfl, rfl⟩ := spells
    obtain ⟨rest, split⟩ := starts
    have reaches : Reaches cursor taken ⟨cursor.offset + taken.length,
        taken.getLast?.or cursor.before, rest, cursor.captures⟩ :=
      ⟨split.symm, rfl, rfl, List.suffix_rfl⟩
    refine ⟨_, ?_, leads_of_reaches reaches rfl⟩
    rw [ways, Option.mem_toList, afterText_eq_some_iff]
    exact ⟨reaches, rfl⟩
  | run eager test =>
    obtain ⟨passes, rfl⟩ := spells
    obtain ⟨offset, before, t, captures⟩ := cursor
    obtain ⟨rest, rfl⟩ := starts
    obtain ⟨next, member, leads⟩ := exists_mem_runWays passes rest captures offset before
    refine ⟨next, ?_, leads⟩
    cases eager
    · exact member
    · exact List.mem_reverse.mpr member
  | seq first second ihFirst ihSecond =>
    rw [Pattern.plain, Bool.and_eq_true] at plain
    obtain ⟨front, back, early, late, spells, spells', rfl, rfl⟩ := spells
    obtain ⟨rest, split⟩ := starts
    rw [List.append_assoc] at split
    obtain ⟨middle, inFirst, leads⟩ := ihFirst plain.1 spells ⟨_, split⟩
    -- What the second part spells stands where the first one has led.
    rw [leads.rest, List.append_cancel_left_eq] at split
    obtain ⟨next, inSecond, onward⟩ := ihSecond plain.2 spells' ⟨_, split⟩
    exact ⟨next, List.mem_flatMap.mpr ⟨middle, inFirst, inSecond⟩, leads.trans onward⟩
  | alt first second ihFirst ihSecond =>
    rw [Pattern.plain, Bool.and_eq_true] at plain
    rcases spells with spells | spells
    · obtain ⟨next, member, leads⟩ := ihFirst plain.1 spells starts
      exact ⟨next, List.mem_append_left _ member, leads⟩
    · obtain ⟨next, member, leads⟩ := ihSecond plain.2 spells starts
      exact ⟨next, List.mem_append_right _ member, leads⟩
  | capture name body ih =>
    obtain ⟨inner, spells, rfl⟩ := spells
    obtain ⟨next, member, leads⟩ := ih plain spells starts
    exact ⟨setAside name cursor next, List.mem_map_of_mem member, leads_setAside leads⟩
  | _ => contradiction

end SfcLint.Pattern
