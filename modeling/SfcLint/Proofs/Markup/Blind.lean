/-
# Patterns that do not see the mask

A pattern is blind when none of its tests tells a sign `<` from the character that masks it. Such a
pattern has the same ways in a text whether its signs are masked or not. A pattern that starts with
the sign itself has them too, where the sign is not masked.
-/

import SfcLint.Proofs.Markup.Mask
import SfcLint.Proofs.Pattern.Hits

namespace SfcLint

open Markup (mask unmasked)

/-- The character, or the sign that it masks. -/
def Markup.restored (c : Char) : Char := if c = mask then '<' else c

open Markup (restored)

theorem Markup.unmasked_eq (t : Text) : unmasked t = t.map restored := rfl

@[simp]
theorem Markup.unmasked_nil : unmasked [] = [] := rfl

@[simp]
theorem Markup.unmasked_cons (c : Char) (t : Text) : unmasked (c :: t) = restored c :: unmasked t := rfl

@[simp]
theorem Markup.length_unmasked (t : Text) : (unmasked t).length = t.length := List.length_map _

theorem Markup.unmasked_take (n : Nat) (t : Text) : (unmasked t).take n = unmasked (t.take n) :=
  List.map_take.symm

theorem Markup.unmasked_drop (n : Nat) (t : Text) : (unmasked t).drop n = unmasked (t.drop n) :=
  List.map_drop.symm

@[simp]
theorem Markup.unmasked_unmasked (t : Text) : unmasked (unmasked t) = unmasked t := by
  rw [unmasked_eq, unmasked_eq, List.map_map]
  congr 1
  funext c
  by_cases sign : c = mask
  · simp [restored, sign, mask]
  · simp [restored, sign]

/-- Captured text with its masked signs restored. -/
def Capture.unmasked (capture : Capture) : Capture :=
  { capture with text := Markup.unmasked capture.text }

/-- The place with all masked signs restored. -/
def Cursor.unmasked (cursor : Cursor) : Cursor :=
  ⟨cursor.offset, cursor.before.map restored, Markup.unmasked cursor.rest,
    cursor.captures.map Capture.unmasked⟩

namespace Pattern

/-- No test of the pattern sees whether a sign is masked, and its literals hold none. -/
def blind : Pattern → Bool
  | one test => test '<' == test mask
  | literal t => !t.contains '<' && !t.contains mask
  | seq first second => first.blind && second.blind
  | alt first second => first.blind && second.blind
  | run _ test => test '<' == test mask
  | star body => body.blind
  | capture _ body => body.blind
  | again _ => false
  | behind _ test => test '<' == test mask
  | ahead _ body => body.blind
  | _ => true

/-- Neither the sign nor what masks it. -/
def Plain (c : Char) : Prop := c ≠ '<' ∧ c ≠ mask

instance (c : Char) : Decidable (Plain c) := inferInstanceAs (Decidable (_ ∧ _))

theorem restored_eq_iff {c d : Char} (plain : Plain d) : restored c = d ↔ c = d := by
  rw [restored]
  split
  next sign => exact iff_of_false (Ne.symm plain.1) (by rw [sign]; exact Ne.symm plain.2)
  next => rfl

theorem test_restored {test : Char → Bool} (same : (test '<' == test mask) = true) (c : Char) :
    test (restored c) = test c := by
  rw [restored]
  split
  next sign => rw [sign, eq_of_beq same]
  next => rfl

theorem any_map_restored {test : Char → Bool} (same : (test '<' == test mask) = true)
    (before : Option Char) : (before.map restored).any test = before.any test := by
  cases before with
  | none => rfl
  | some c => exact test_restored same c

theorem runWays_unmasked {test : Char → Bool} (same : (test '<' == test mask) = true)
    (captures : List Capture) (offset : Nat) (before : Option Char) (t : Text) :
    runWays test (captures.map Capture.unmasked) offset (before.map restored) (unmasked t) =
      (runWays test captures offset before t).map Cursor.unmasked := by
  induction t generalizing offset before with
  | nil => rfl
  | cons c t ih =>
    rw [Markup.unmasked_cons, runWays, runWays, test_restored same, List.map_cons]
    split
    · rw [← ih]
      rfl
    · rfl

theorem roundWays_unmasked {body : Cursor → List Cursor}
    (same : ∀ cursor, body cursor.unmasked = (body cursor).map Cursor.unmasked)
    (bound : Text) (cursor : Cursor) :
    roundWays body (unmasked bound) cursor.unmasked =
      (roundWays body bound cursor).map Cursor.unmasked := by
  induction bound generalizing cursor with
  | nil => rfl
  | cons c bound ih =>
    rw [Markup.unmasked_cons, roundWays, roundWays, List.map_append, same, List.flatMap_map,
      List.map_flatMap]
    congr 2
    funext next
    show (if cursor.offset < next.offset then _ else _) = _
    split
    · exact ih next
    · rfl

theorem dropFront?_unmasked {front : Text} (plain : '<' ∉ front) (unseen : mask ∉ front)
    (t : Text) :
    Text.dropFront? front (unmasked t) = (Text.dropFront? front t).map unmasked := by
  induction front generalizing t with
  | nil => rfl
  | cons f front ih =>
    rw [List.mem_cons, not_or] at plain unseen
    cases t with
    | nil => rfl
    | cons c t =>
      have here : Plain f := ⟨Ne.symm plain.1, Ne.symm unseen.1⟩
      have same : f = restored c ↔ f = c := eq_comm.trans ((restored_eq_iff here).trans eq_comm)
      rw [Markup.unmasked_cons, Text.dropFront?, Text.dropFront?]
      by_cases here : f = c
      · rw [if_pos (same.mpr here), if_pos here]
        exact ih plain.2 unseen.2 t
      · rw [if_neg (mt same.mp here), if_neg here]
        rfl

theorem getLast?_map_restored {t : Text} (unseen : mask ∉ t) :
    t.getLast?.map restored = t.getLast? := by
  cases last : t.getLast? with
  | none => rfl
  | some c =>
    have member : c ∈ t := List.mem_of_getLast? last
    have different : c ≠ mask := fun same => unseen (same ▸ member)
    rw [Option.map_some, restored, if_neg different]

/-- Where the same is left behind a literal up to the mask, so is the place behind it. -/
theorem afterText_unmasked_of_dropFront? {front : Text} (unseen : mask ∉ front) {cursor : Cursor}
    (same : Text.dropFront? front (unmasked cursor.rest) =
      (Text.dropFront? front cursor.rest).map unmasked) :
    afterText front cursor.unmasked = (afterText front cursor).map Cursor.unmasked := by
  have last := getLast?_map_restored unseen
  rw [afterText, afterText, Cursor.unmasked, same]
  cases Text.dropFront? front cursor.rest with
  | none => rfl
  | some rest =>
    cases ends : front.getLast? with
    | none => rfl
    | some c =>
      rw [ends] at last
      simp only [Option.some_or, last, Option.map_some, Cursor.unmasked]

theorem afterText_unmasked {front : Text} (plain : '<' ∉ front) (unseen : mask ∉ front)
    (cursor : Cursor) :
    afterText front cursor.unmasked = (afterText front cursor).map Cursor.unmasked :=
  afterText_unmasked_of_dropFront? unseen (dropFront?_unmasked plain unseen cursor.rest)

theorem atEdge_unmasked (cursor : Cursor) : atEdge cursor.unmasked = atEdge cursor := by
  have same : (Text.isWordChar '<' == Text.isWordChar mask) = true := by decide +kernel
  have next : (unmasked cursor.rest).head? = cursor.rest.head?.map restored := List.head?_map
  rw [atEdge, atEdge, Cursor.unmasked, any_map_restored same, next, any_map_restored same]

theorem ways_stop_unmasked (cursor : Cursor) :
    stop.ways cursor.unmasked = (stop.ways cursor).map Cursor.unmasked := by
  obtain ⟨offset, before, rest, captures⟩ := cursor
  rcases rest with _ | ⟨c, _ | ⟨d, rest⟩⟩
  · rfl
  · have same : restored c = '\n' ↔ c = '\n' := restored_eq_iff (by decide)
    by_cases isBreak : c = '\n'
    · have stays : restored '\n' = '\n' := rfl
      simp [ways, Cursor.unmasked, isBreak, stays]
    · simp [ways, Cursor.unmasked, isBreak, same]
  · simp [ways, Cursor.unmasked]

/-- A blind pattern has the same ways whether the signs of the text are masked or not. -/
theorem ways_unmasked {p : Pattern} (blind : p.blind = true) (cursor : Cursor) :
    p.ways cursor.unmasked = (p.ways cursor).map Cursor.unmasked := by
  induction p generalizing cursor with
  | empty => rfl
  | one test =>
    obtain ⟨offset, before, rest, captures⟩ := cursor
    cases rest with
    | nil => rfl
    | cons c rest =>
      have same := test_restored blind c
      by_cases passes : test c
      · simp [ways, Cursor.unmasked, same, passes]
      · simp [ways, Cursor.unmasked, same, passes]
  -- Neither the sign nor its mask is in a blind literal, so it stands in both texts or in neither.
  | literal t =>
    rw [Pattern.blind, Bool.and_eq_true, Bool.not_eq_true', Bool.not_eq_true',
      ← Bool.not_eq_true, ← Bool.not_eq_true, List.contains_iff_mem, List.contains_iff_mem] at blind
    rw [ways, ways, afterText_unmasked blind.1 blind.2]
    cases afterText t cursor <;> rfl
  | seq first second ihFirst ihSecond =>
    rw [Pattern.blind, Bool.and_eq_true] at blind
    rw [ways_seq, ways_seq, ihFirst blind.1, List.flatMap_map, List.map_flatMap]
    congr 1
    funext next
    exact ihSecond blind.2 next
  | alt first second ihFirst ihSecond =>
    rw [Pattern.blind, Bool.and_eq_true] at blind
    rw [ways, ways, List.map_append, ihFirst blind.1, ihSecond blind.2]
  | run eager test =>
    have same := runWays_unmasked blind cursor.captures cursor.offset cursor.before cursor.rest
    cases eager
    · exact same
    · exact (congrArg List.reverse same).trans List.map_reverse.symm
  | star body ih => exact roundWays_unmasked (fun cursor => ih blind cursor) _ _
  | capture name body ih =>
    rw [ways, ways, ih blind, List.map_map, List.map_map]
    congr 1
    funext next
    simp only [Function.comp_apply, setAside, Cursor.unmasked, List.map_cons, Capture.unmasked,
      Markup.unmasked_take]
  | again _ => contradiction
  | behind wanted test =>
    rw [ways, ways, Cursor.unmasked, any_map_restored blind]
    split <;> rfl
  | ahead wanted body ih =>
    rw [ways, ways, ih blind, List.isEmpty_map]
    split <;> rfl
  | edge =>
    rw [ways, ways, atEdge_unmasked]
    split <;> rfl
  | start =>
    rw [ways, ways, Cursor.unmasked, Option.isNone_map]
    split <;> rfl
  | stop => exact ways_stop_unmasked cursor

/-- What comes behind may be any blind pattern. -/
theorem ways_seq_unmasked {first second : Pattern} {cursor : Cursor}
    (same : first.ways cursor.unmasked = (first.ways cursor).map Cursor.unmasked)
    (blind : second.blind = true) :
    (seq first second).ways cursor.unmasked =
      ((seq first second).ways cursor).map Cursor.unmasked := by
  rw [ways_seq, ways_seq, same, List.flatMap_map, List.map_flatMap]
  congr 1
  funext next
  exact ways_unmasked blind next

/-- A pattern that starts with the sign itself has the same ways too, where the sign is not
masked. -/
theorem ways_sign_unmasked {front : Text} {p : Pattern} (plain : '<' ∉ front)
    (unseen : mask ∉ front) (blind : p.blind = true) {cursor : Cursor} {t : Text}
    (sign : cursor.rest = '<' :: t) :
    (seq (literal ('<' :: front)) p).ways cursor.unmasked =
      ((seq (literal ('<' :: front)) p).ways cursor).map Cursor.unmasked := by
  have stays : restored '<' = '<' := rfl
  have first : afterText ('<' :: front) cursor.unmasked =
      (afterText ('<' :: front) cursor).map Cursor.unmasked := by
    refine afterText_unmasked_of_dropFront? (by simpa [mask] using unseen) ?_
    rw [sign, Markup.unmasked_cons, stays, Text.dropFront?, Text.dropFront?, if_pos rfl, if_pos rfl,
      dropFront?_unmasked plain unseen]
  refine ways_seq_unmasked ?_ blind
  rw [ways, ways, first]
  cases afterText ('<' :: front) cursor <;> rfl

end Pattern

/-! ## Hits -/

/-- A hit with all masked signs restored. -/
def Hit.unmasked (hit : Hit) : Hit :=
  ⟨hit.start, hit.stop, Markup.unmasked hit.text, Markup.unmasked hit.rest,
    hit.captures.map Capture.unmasked⟩

@[simp]
theorem Hit.unmasked_stop (hit : Hit) : hit.unmasked.stop = hit.stop := rfl

theorem Capture.find?_unmasked (captures : List Capture) (name : String) :
    (captures.map Capture.unmasked).find? (·.name == name) =
      (captures.find? (·.name == name)).map Capture.unmasked := by
  rw [List.find?_map]
  rfl

theorem Hit.group?_unmasked (hit : Hit) (name : String) :
    hit.unmasked.group? name = (hit.group? name).map Markup.unmasked := by
  rw [Hit.group?, Hit.unmasked, Capture.find?_unmasked, Hit.group?]
  cases hit.captures.find? (·.name == name) <;> rfl

theorem Hit.between_unmasked (first last : Cursor) :
    Hit.between first.unmasked last.unmasked = (Hit.between first last).unmasked := by
  simp only [Hit.between, Cursor.unmasked, Hit.unmasked, Markup.unmasked_take]

namespace Pattern

/-- A pattern with the same ways has the same hit. -/
theorem hitAt?_unmasked_of_ways {p : Pattern} (cursor : Cursor)
    (same : p.ways cursor.unmasked = (p.ways cursor).map Cursor.unmasked) :
    p.hitAt? cursor.unmasked = (p.hitAt? cursor).map Hit.unmasked := by
  rw [hitAt?_eq, hitAt?_eq, same, List.head?_map]
  cases (p.ways cursor).head? with
  | none => rfl
  | some next => exact congrArg some (Hit.between_unmasked cursor next)

theorem within_unmasked (t : Text) (n : Nat) :
    Cursor.within (unmasked t) n = (Cursor.within t n).unmasked := by
  simp only [Cursor.within, Cursor.unmasked, Markup.unmasked_eq, ← List.map_take,
    ← List.map_drop, List.getLast?_map, List.map_nil]

theorem leading?_unmasked {p : Pattern} (blind : p.blind = true) (t : Text) :
    p.leading? (unmasked t) = (p.leading? t).map Hit.unmasked := by
  rw [leading?_eq, leading?_eq, within_unmasked]
  exact hitAt?_unmasked_of_ways _ (ways_unmasked blind _)

/-- The same for a pattern that starts with the sign, at a sign that is not masked. -/
theorem leading?_sign_unmasked {front : Text} {p : Pattern} (plain : '<' ∉ front)
    (unseen : mask ∉ front) (blind : p.blind = true) (t : Text) :
    (seq (literal ('<' :: front)) p).leading? (unmasked ('<' :: t)) =
      ((seq (literal ('<' :: front)) p).leading? ('<' :: t)).map Hit.unmasked := by
  rw [leading?_eq, leading?_eq, within_unmasked]
  exact hitAt?_unmasked_of_ways _ (ways_sign_unmasked plain unseen blind rfl)

theorem firstFrom?_unmasked {p : Pattern} (blind : p.blind = true) (offset : Nat)
    (before : Option Char) (t : Text) :
    p.firstFrom? offset (before.map restored) (unmasked t) =
      (p.firstFrom? offset before t).map Hit.unmasked := by
  have here (t : Text) (before : Option Char) (offset : Nat) :
      p.hitAt? ⟨offset, before.map restored, unmasked t, []⟩ =
        (p.hitAt? ⟨offset, before, t, []⟩).map Hit.unmasked :=
    hitAt?_unmasked_of_ways ⟨offset, before, t, []⟩ (ways_unmasked blind _)
  induction t generalizing offset before with
  | nil => exact here [] before offset
  | cons c t ih =>
    have now := here (c :: t) before offset
    rw [Markup.unmasked_cons] at now ⊢
    rw [firstFrom?, firstFrom?, now]
    cases p.hitAt? ⟨offset, before, c :: t, []⟩ with
    | some hit => rfl
    | none => exact ih (offset + 1) (some c)

theorem first?_unmasked {p : Pattern} (blind : p.blind = true) (t : Text) :
    p.first? (unmasked t) = (p.first? t).map Hit.unmasked :=
  firstFrom?_unmasked blind 0 none t

/-! ## Patterns that take no sign -/

/-- The pattern takes neither the sign nor what masks it. -/
def signless : Pattern → Bool
  | one test => !test '<' && !test mask
  | literal t => !t.contains '<' && !t.contains mask
  | seq first second => first.signless && second.signless
  | alt first second => first.signless && second.signless
  | run _ test => !test '<' && !test mask
  | star body => body.signless
  | capture _ body => body.signless
  | again _ => false
  | _ => true

theorem plain_of_test {test : Char → Bool} (none : (!test '<' && !test mask) = true) {c : Char}
    (passes : test c = true) : Plain c := by
  rw [Bool.and_eq_true, Bool.not_eq_true', Bool.not_eq_true'] at none
  refine ⟨?_, ?_⟩
  · rintro rfl
    rw [none.1] at passes
    contradiction
  · rintro rfl
    rw [none.2] at passes
    contradiction

theorem takes_plain {p : Pattern} (signless : p.signless = true) : p.Takes Plain := by
  induction p with
  | one test => exact fun _ => plain_of_test signless
  | run _ test => exact fun _ => plain_of_test signless
  | literal t =>
    rw [Pattern.signless, Bool.and_eq_true, Bool.not_eq_true', Bool.not_eq_true',
      ← Bool.not_eq_true, ← Bool.not_eq_true, List.contains_iff_mem,
      List.contains_iff_mem] at signless
    intro c member
    exact ⟨fun same => signless.1 (same ▸ member), fun same => signless.2 (same ▸ member)⟩
  | seq _ _ ihFirst ihSecond | alt _ _ ihFirst ihSecond =>
    rw [Pattern.signless, Bool.and_eq_true] at signless
    exact ⟨ihFirst signless.1, ihSecond signless.2⟩
  | star body ih => exact ih signless
  | capture _ body ih => exact ih signless
  | again _ => contradiction
  | empty | behind _ _ | ahead _ _ _ | edge | start | stop => trivial

theorem unmasked_of_plain {t : Text} (plain : ∀ c ∈ t, Plain c) : unmasked t = t := by
  induction t with
  | nil => rfl
  | cons c t ih =>
    rw [List.forall_mem_cons] at plain
    rw [Markup.unmasked_cons, ih plain.2, restored, if_neg plain.1.2]

/-- The text of a hit of such a pattern has no sign that could be masked. -/
theorem unmasked_text_of_hitAt? {p : Pattern} (signless : p.signless = true) {cursor : Cursor}
    {hit : Hit} (found : p.hitAt? cursor = some hit) : unmasked hit.text = hit.text := by
  obtain ⟨next, member, rfl⟩ := hitAt?_eq_some found
  obtain ⟨taken, plain, reaches⟩ := exists_taken_of_mem_ways (takes_plain signless) member
  have text : (Hit.between cursor next).text = taken := reaches.take_eq
  rw [text, unmasked_of_plain plain]

/-- What such a pattern sets aside behind a literal has no sign that could be masked. -/
theorem unmasked_group_of_leading? {front t : Text} {p : Pattern} (signless : p.signless = true)
    {hit : Hit} (found : (seq (literal front) p).leading? t = some hit) (name : String) :
    unmasked (hit.group name) = hit.group name := by
  rw [leading?_eq] at found
  obtain ⟨next, member, rfl⟩ := hitAt?_eq_some found
  rw [ways, List.mem_flatMap] at member
  obtain ⟨middle, first, later⟩ := member
  rw [ways, Option.mem_toList, afterText_eq_some_iff] at first
  have plain {part : Capture} (captured : part ∈ next.captures) : ∀ c ∈ part.text, Plain c := by
    have origin := captures_of_mem_ways (takes_plain signless) later captured
    rw [first.2, Cursor.within_captures] at origin
    obtain ⟨-, -, -, -, -, -, -, -, plain⟩ := origin.resolve_left List.not_mem_nil
    exact plain
  have captures : (Hit.between (.within t 0) next).captures = next.captures := rfl
  rw [Hit.group, Hit.group?, captures]
  cases found : next.captures.find? (·.name == name) with
  | none => rfl
  | some part => exact unmasked_of_plain (plain (List.mem_of_find?_eq_some found))

end Pattern

end SfcLint
