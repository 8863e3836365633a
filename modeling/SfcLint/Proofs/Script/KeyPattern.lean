/-
# The pattern for keys

The pattern for keys finds the head of a member wherever a text has one. So the key and the kind
of a member are known from its head.
-/

import SfcLint.Proofs.Pattern.Hits
import SfcLint.Proofs.Pattern.Spelling
import SfcLint.Proofs.Script.MemberHead

namespace SfcLint.Script

open Pattern

/-! ## The parts of the pattern -/

/-- The part of the pattern for keys that passes the key. -/
def keyPattern : Pattern :=
  any [
    capture "name" identifier,
    all ["'", capture "single" (many (outside "'")), "'"],
    all ["\"", capture "double" (many (outside "\"")), "\""],
    all ["[", capture "computed" (some1 (outside "]")), "]"]]

/-- The part of the pattern for keys that passes the sign behind a key. -/
def signPattern : Pattern := any [capture "sep" (one (among ":(")), stop]

theorem entryKey_eq :
    entryKey = all [start, optional accessorWord, keyPattern, blanks,
      signPattern] := rfl

theorem spells_identifier {t : Text} {aside : List Aside} :
    identifier.Spells t aside ↔ KeyForm.name.Proper t ∧ aside = [] := by
  constructor
  · rintro ⟨_, rest, _, _, ⟨⟨c, starts, rfl⟩, rfl⟩, ⟨continues, rfl⟩, rfl, rfl⟩
    exact ⟨⟨c, rest, rfl, starts, continues⟩, rfl⟩
  · rintro ⟨⟨c, rest, rfl, starts, continues⟩, rfl⟩
    exact ⟨[c], rest, [], [], ⟨⟨c, starts, rfl⟩, rfl⟩, ⟨continues, rfl⟩, rfl, rfl⟩

theorem spells_outside {quote : String} {t : Text} {aside : List Aside} :
    (many (outside quote)).Spells t aside ↔ (∀ c ∈ t, c ∉ quote.toList) ∧ aside = [] := by
  simp [many, Spells, outside]

theorem spells_outside1 {quote : String} {t : Text} {aside : List Aside} :
    (some1 (outside quote)).Spells t aside ↔
      t ≠ [] ∧ (∀ c ∈ t, c ∉ quote.toList) ∧ aside = [] := by
  constructor
  · rintro ⟨_, rest, _, _, ⟨⟨c, other, rfl⟩, rfl⟩, later, rfl, rfl⟩
    obtain ⟨others, rfl⟩ := spells_outside.mp later
    refine ⟨by simp, List.forall_mem_append.mpr ⟨?_, others⟩, rfl⟩
    simpa [outside] using other
  · rintro ⟨some, others, rfl⟩
    obtain ⟨c, rest, rfl⟩ := List.exists_cons_of_ne_nil some
    rw [List.forall_mem_cons] at others
    exact ⟨[c], rest, [], [], ⟨⟨c, by simpa [outside] using others.1, rfl⟩, rfl⟩,
      spells_outside.mpr ⟨others.2, rfl⟩, rfl, rfl⟩

/-- Something between two signs, set aside without them. -/
theorem spells_between {first last label : String} {body : Pattern} {t : Text}
    {aside : List Aside} :
    (all [first, capture label body, last]).Spells t aside ↔
      ∃ inner later, body.Spells inner later ∧ t = first.toList ++ inner ++ last.toList ∧
        aside = (label, inner) :: later := by
  constructor
  · rintro ⟨_, _, _, _, ⟨rfl, rfl⟩, ⟨inner, _, _, _, ⟨later, spells, rfl⟩, ⟨rfl, rfl⟩, rfl, rfl⟩,
      rfl, rfl⟩
    exact ⟨inner, later, spells, (List.append_assoc ..).symm, by simp⟩
  · rintro ⟨inner, later, spells, rfl, rfl⟩
    exact ⟨_, _, [], _, ⟨rfl, rfl⟩, ⟨inner, _, _, [], ⟨later, spells, rfl⟩, ⟨rfl, rfl⟩, rfl, rfl⟩,
      List.append_assoc .., by simp⟩

theorem spells_keyPattern {t : Text} {aside : List Aside} :
    keyPattern.Spells t aside ↔ ∃ (form : KeyForm) (inner : Text), form.Proper inner ∧
      t = form.written inner ∧ aside = [(form.label, inner)] := by
  have single (t : Text) : (∀ c ∈ t, c ∉ "'".toList) ↔ '\'' ∉ t := by
    simp [List.forall_mem_ne']
  have double (t : Text) : (∀ c ∈ t, c ∉ "\"".toList) ↔ '"' ∉ t := by
    simp [List.forall_mem_ne']
  have square (t : Text) : (∀ c ∈ t, c ∉ "]".toList) ↔ ']' ∉ t := by
    simp [List.forall_mem_ne']
  constructor
  · rintro (⟨inner, spells, rfl⟩ | spells | spells | spells)
    · obtain ⟨proper, rfl⟩ := spells_identifier.mp spells
      exact ⟨.name, t, proper, by simp [KeyForm.written, KeyForm.opening, KeyForm.closing], rfl⟩
    · obtain ⟨inner, _, within, rfl, rfl⟩ := spells_between.mp spells
      obtain ⟨proper, rfl⟩ := spells_outside.mp within
      exact ⟨.single, inner, (single inner).mp proper, rfl, rfl⟩
    · obtain ⟨inner, _, within, rfl, rfl⟩ := spells_between.mp spells
      obtain ⟨proper, rfl⟩ := spells_outside.mp within
      exact ⟨.double, inner, (double inner).mp proper, rfl, rfl⟩
    · obtain ⟨inner, _, within, rfl, rfl⟩ := spells_between.mp spells
      obtain ⟨some, proper, rfl⟩ := spells_outside1.mp within
      exact ⟨.computed, inner, ⟨some, (square inner).mp proper⟩, rfl, rfl⟩
  · rintro ⟨form, inner, proper, rfl, rfl⟩
    -- Each form of a key is one of the alternatives, in their order.
    cases form with
    | name =>
      refine .inl ⟨[], spells_identifier.mpr ⟨?_, rfl⟩, ?_⟩
      · simpa [KeyForm.written, KeyForm.opening, KeyForm.closing] using proper
      · simp [KeyForm.written, KeyForm.opening, KeyForm.closing, KeyForm.label]
    | single =>
      exact .inr (.inl (spells_between.mpr
        ⟨inner, [], spells_outside.mpr ⟨(single inner).mpr proper, rfl⟩, rfl, rfl⟩))
    | double =>
      exact .inr (.inr (.inl (spells_between.mpr
        ⟨inner, [], spells_outside.mpr ⟨(double inner).mpr proper, rfl⟩, rfl, rfl⟩)))
    | computed =>
      exact .inr (.inr (.inr (spells_between.mpr
        ⟨inner, [], spells_outside1.mpr ⟨proper.1, (square inner).mpr proper.2, rfl⟩, rfl, rfl⟩)))

theorem spells_word {word t : Text} {aside : List Aside} :
    (all [literal word, blanks1]).Spells t aside ↔ ∃ blanks, blanks ≠ [] ∧
      (∀ c ∈ blanks, Text.isBlank c = true) ∧ t = word ++ blanks ∧ aside = [] := by
  constructor
  · rintro ⟨_, _, _, _, ⟨rfl, rfl⟩, ⟨_, rest, _, _, ⟨⟨c, blank, rfl⟩, rfl⟩, ⟨blanks, rfl⟩, rfl, rfl⟩,
      rfl, rfl⟩
    exact ⟨c :: rest, by simp, List.forall_mem_cons.mpr ⟨blank, blanks⟩, rfl, rfl⟩
  · rintro ⟨blanks, some, blank, rfl, rfl⟩
    obtain ⟨c, rest, rfl⟩ := List.exists_cons_of_ne_nil some
    rw [List.forall_mem_cons] at blank
    exact ⟨word, c :: rest, [], [], ⟨rfl, rfl⟩,
      ⟨[c], rest, [], [], ⟨⟨c, blank.1, rfl⟩, rfl⟩, ⟨blank.2, rfl⟩, rfl, rfl⟩, rfl, rfl⟩

theorem mem_ways_lookahead {word : Text} {test : Char → Bool} {cursor next : Cursor} :
    next ∈ (all [literal word, blanks1, ahead true (one test)]).ways cursor ↔
      next ∈ (all [literal word, blanks1]).ways cursor ∧ next.rest.head?.any test = true := by
  have looks (middle : Cursor) : next ∈ (ahead true (one test)).ways middle ↔
      next = middle ∧ next.rest.head?.any test = true := by
    obtain ⟨offset, before, rest, captures⟩ := middle
    rw [ways, List.mem_ite_nil_right, List.mem_singleton, and_comm]
    refine and_congr_right ?_
    rintro rfl
    cases rest with
    | nil => simp [ways]
    | cons c rest => cases passes : test c <;> simp [ways, passes]
  simp only [all, ways_seq, List.mem_flatMap, looks]
  constructor
  · rintro ⟨first, inWord, second, inBlanks, rfl, passes⟩
    exact ⟨⟨first, inWord, inBlanks⟩, passes⟩
  · rintro ⟨⟨first, inWord, inBlanks⟩, passes⟩
    exact ⟨first, inWord, next, inBlanks, rfl, passes⟩

theorem exists_accessor_of_mem_ways {cursor next : Cursor}
    (member : next ∈ (optional accessorWord).ways cursor) :
    ∃ taken, Accessor taken ∧ Leads cursor taken [] next := by
  have word {known : String} (listed : known.toList ∈ ["async".toList, "get".toList, "set".toList])
      (member : next ∈ (all [literal known.toList, blanks1]).ways cursor) :
      ∃ taken, Accessor taken ∧ Leads cursor taken [] next := by
    obtain ⟨_, _, spells, leads⟩ := exists_spells_of_mem_ways (by rfl) member
    obtain ⟨blanks, some, blank, rfl, rfl⟩ := spells_word.mp spells
    exact ⟨_, .word listed some blank, leads⟩
  rcases List.mem_append.mp member with inWord | same
  · rcases List.mem_append.mp inWord with inAsync | member
    · exact word (by simp) inAsync
    · rcases List.mem_append.mp member with inGet | member
      · exact word (by simp) (mem_ways_lookahead.mp inGet).1
      · rcases List.mem_append.mp member with inSet | inStar
        · exact word (by simp) (mem_ways_lookahead.mp inSet).1
        · obtain ⟨_, _, ⟨_, rest, _, _, ⟨rfl, rfl⟩, ⟨blank, rfl⟩, rfl, rfl⟩, leads⟩ :=
            exists_spells_of_mem_ways (by rfl) inStar
          exact ⟨'*' :: rest, .star blank, leads⟩
  · obtain rfl := List.mem_singleton.mp same
    exact ⟨[], .bare, .refl _⟩

theorem exists_way_of_accessor {cursor : Cursor} {taken rest : Text} {c : Char}
    (accessor : Accessor taken) (starts : startsKey c = true)
    (front : cursor.rest = taken ++ c :: rest) :
    ∃ next ∈ (optional accessorWord).ways cursor, Leads cursor taken [] next := by
  cases accessor with
  | bare => exact ⟨cursor, List.mem_append_right _ (List.mem_singleton.mpr rfl), .refl _⟩
  | star blank =>
    obtain ⟨next, member, leads⟩ := exists_way_of_spells (p := all ["*", blanks]) (by rfl)
      ⟨['*'], _, [], [], ⟨rfl, rfl⟩, ⟨blank, rfl⟩, rfl, rfl⟩ ⟨_, front.symm⟩
    refine ⟨next, List.mem_append_left _ ?_, leads⟩
    exact List.mem_append_right _ (List.mem_append_right _ (List.mem_append_right _ member))
  | @word word blanks listed some blank =>
    obtain ⟨next, member, leads⟩ := exists_way_of_spells (p := all [literal word, blanks1]) (by rfl)
      (spells_word.mpr ⟨blanks, some, blank, rfl, rfl⟩) ⟨_, front.symm⟩
    refine ⟨next, List.mem_append_left _ ?_, leads⟩
    -- The key that follows is what a word other than the first one looks for.
    have key : next.rest.head?.any (fun c => Text.isNameChar c || among "'\"[" c) = true := by
      have rests := leads.rest
      rw [front, List.append_cancel_left_eq] at rests
      rw [← rests, List.head?_cons, Option.any_some]
      rw [startsKey, Bool.or_eq_true] at starts
      rw [Bool.or_eq_true]
      exact starts.imp_left Text.isNameChar_of_isNameStart
    simp only [List.mem_cons, List.not_mem_nil, or_false] at listed
    rcases listed with rfl | rfl | rfl
    · exact List.mem_append_left _ member
    · exact List.mem_append_right _
        (List.mem_append_left _ (mem_ways_lookahead.mpr ⟨member, key⟩))
    · exact List.mem_append_right _ (List.mem_append_right _
        (List.mem_append_left _ (mem_ways_lookahead.mpr ⟨member, key⟩)))

/-- What is set aside of the sign of a kind of member. -/
def signAside (kind : EntryKind) : List Aside :=
  if kind.sign = [] then [] else [("sep", kind.sign)]

theorem exists_sign_of_mem_ways {cursor next : Cursor} (notBreak : cursor.rest ≠ ['\n'])
    (member : next ∈ signPattern.ways cursor) :
    ∃ kind, kind ≠ EntryKind.spread ∧ (kind = .shorthand → next.rest = []) ∧
      Leads cursor kind.sign (signAside kind) next := by
  rcases List.mem_append.mp member with inSign | atEnd
  · obtain ⟨_, _, ⟨_, ⟨⟨c, sign, rfl⟩, rfl⟩, rfl⟩, leads⟩ :=
      exists_spells_of_mem_ways (by rfl) inSign
    have known : c = ':' ∨ c = '(' := by simpa [among] using sign
    rcases known with rfl | rfl
    · exact ⟨.property, by decide, by simp, leads⟩
    · exact ⟨.method, by decide, by simp, leads⟩
  · refine ⟨.shorthand, by decide, ?_⟩
    change next ∈ stop.ways cursor at atEnd
    rw [ways] at atEnd
    split at atEnd
    next ends =>
      obtain rfl := List.mem_singleton.mp atEnd
      exact ⟨fun _ => ends, .refl _⟩
    · contradiction
    · contradiction

theorem exists_way_of_sign {cursor : Cursor} {kind : EntryKind} {rest : Text}
    (keyed : kind ≠ .spread) (ends : kind = .shorthand → rest = [])
    (front : cursor.rest = kind.sign ++ rest) : ∃ next, next ∈ signPattern.ways cursor := by
  have passes {c : Char} (sign : among ":(" c = true) (front : cursor.rest = [c] ++ rest) :
      ∃ next, next ∈ signPattern.ways cursor := by
    obtain ⟨next, member, -⟩ := exists_way_of_spells (p := capture "sep" (one (among ":(")))
      (by rfl) ⟨[], ⟨⟨c, sign, rfl⟩, rfl⟩, rfl⟩ ⟨_, front.symm⟩
    exact ⟨next, List.mem_append_left _ member⟩
  cases kind with
  | property => exact passes (by decide) front
  | method => exact passes (by decide) front
  | spread => contradiction
  | shorthand =>
    obtain rfl := ends rfl
    have here : cursor ∈ stop.ways cursor := by
      rw [ways, front]
      exact List.mem_singleton.mpr rfl
    exact ⟨cursor, List.mem_append_right _ here⟩

/-! ## The whole pattern -/

theorem exists_head_of_mem_ways {t : Text} {next : Cursor} (notBreak : t.getLast? ≠ some '\n')
    (member : next ∈ entryKey.ways (.atStart t)) :
    ∃ head : Head, head.text = t ∧ next.offset = head.stop ∧ next.rest = head.rest ∧
      asides next = signAside head.kind ++ [(head.form.label, head.inner)] := by
  simp only [entryKey_eq, all, ways_seq, List.mem_flatMap] at member
  obtain ⟨cursor, atStart, first, inAccessor, second, inKey, third, inBlanks, inSign⟩ := member
  obtain rfl : cursor = .atStart t := List.mem_singleton.mp atStart
  obtain ⟨accessor, isAccessor, toFirst⟩ := exists_accessor_of_mem_ways inAccessor
  obtain ⟨_, _, spells, toSecond⟩ := exists_spells_of_mem_ways (by rfl) inKey
  obtain ⟨form, inner, proper, rfl, rfl⟩ := spells_keyPattern.mp spells
  obtain ⟨between, _, ⟨blank, rfl⟩, toThird⟩ := exists_spells_of_mem_ways (by rfl) inBlanks
  have onward := (toFirst.trans toSecond).trans toThird
  have split : t = _ ++ third.rest := onward.rest
  have noBreak : third.rest ≠ ['\n'] := by
    intro ends
    rw [split, ends, List.getLast?_append] at notBreak
    exact notBreak rfl
  obtain ⟨kind, keyed, ends, toNext⟩ := exists_sign_of_mem_ways noBreak inSign
  have whole := onward.trans toNext
  refine ⟨⟨accessor, form, inner, between, kind, next.rest, isAccessor, proper, blank, keyed, ends⟩,
    ?_, ?_, rfl, ?_⟩
  · have split : t = _ ++ next.rest := whole.rest
    rw [split]
    simp only [Head.text, Head.tail, List.append_assoc]
  · rw [whole.offset, Head.stop, Head.front]
    simp only [List.append_assoc]
    exact Nat.zero_add _
  · rw [whole.asides]
    exact List.append_nil _

theorem Head.exists_way (head : Head) : ∃ next, next ∈ entryKey.ways (.atStart head.text) := by
  obtain ⟨c, rest, written, starts⟩ := head.proper.written_eq
  have front : (Cursor.atStart head.text).rest =
      head.accessor ++ c :: (rest ++ (head.blanks ++ (head.kind.sign ++ head.rest))) := by
    rw [Cursor.atStart, text, tail, written, List.cons_append]
  obtain ⟨first, inAccessor, toFirst⟩ := exists_way_of_accessor head.isAccessor starts front
  have afterFirst : head.tail = first.rest := List.append_cancel_left toFirst.rest
  obtain ⟨second, inKey, toSecond⟩ := exists_way_of_spells (p := keyPattern)
    (by rfl) (spells_keyPattern.mpr ⟨_, _, head.proper, rfl, rfl⟩) ⟨_, afterFirst⟩
  have afterSecond := List.append_cancel_left (afterFirst.trans toSecond.rest)
  obtain ⟨third, inBlanks, toThird⟩ := exists_way_of_spells (p := Pattern.blanks)
    (by rfl) ⟨head.blank, rfl⟩ ⟨_, afterSecond⟩
  have afterThird := List.append_cancel_left (afterSecond.trans toThird.rest)
  obtain ⟨next, inSign⟩ := exists_way_of_sign head.keyed head.ends afterThird.symm
  refine ⟨next, ?_⟩
  simp only [entryKey_eq, all, ways_seq, List.mem_flatMap]
  exact ⟨_, List.mem_singleton.mpr rfl, first, inAccessor, second, inKey, third, inBlanks, inSign⟩

theorem group?_eq (hit : Hit) (name : String) :
    hit.group? name = ((hit.captures.map fun part => (part.name, part.text)).find?
      (·.1 == name)).map (·.2) := by
  rw [Hit.group?, List.find?_map, Option.map_map]
  rfl

/-- The pattern finds the head of a text. -/
theorem leading?_entryKey {head : Head} (notBreak : head.text.getLast? ≠ some '\n') :
    ∃ hit, entryKey.leading? head.text = some hit ∧ entryName hit = head.key ∧
      hit.group "sep" = head.kind.sign ∧ hit.stop = head.stop := by
  obtain ⟨way, member⟩ := head.exists_way
  cases found : entryKey.leading? head.text with
  | none =>
    rw [leading?, hitAt?_eq_none_iff] at found
    rw [found] at member
    contradiction
  | some hit =>
    obtain ⟨next, inWays, rfl⟩ := hitAt?_eq_some found
    obtain ⟨other, text, stop, -, aside⟩ := exists_head_of_mem_ways notBreak inWays
    obtain rfl := Head.text_injective text
    refine ⟨_, rfl, ?_, ?_, stop⟩
    · have captures : (Hit.between (.atStart other.text) next).captures.map (fun part =>
          (part.name, part.text)) = signAside other.kind ++ [(other.form.label, other.inner)] :=
        aside
      rw [entryName, group?_eq, group?_eq, group?_eq, group?_eq, captures, Head.key]
      cases other.form with
      | single => cases other.inner <;> cases other.kind <;> rfl
      | _ => cases other.kind <;> rfl
    · have captures : (Hit.between (.atStart other.text) next).captures.map (fun part =>
          (part.name, part.text)) = signAside other.kind ++ [(other.form.label, other.inner)] :=
        aside
      rw [Hit.group, group?_eq, captures]
      cases other.form <;> cases other.kind <;> rfl

theorem leading?_entryKey_eq_none {t : Text} (notBreak : t.getLast? ≠ some '\n')
    (headless : ∀ head : Head, head.text ≠ t) : entryKey.leading? t = none := by
  cases found : entryKey.leading? t with
  | none => rfl
  | some hit =>
    obtain ⟨next, inWays, rfl⟩ := hitAt?_eq_some found
    obtain ⟨head, text, -⟩ := exists_head_of_mem_ways notBreak inWays
    exact absurd text (headless head)

end SfcLint.Script
