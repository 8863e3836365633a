/-
# Declared arrays

A variable is declared with an array literal, alone or as the argument of a call that makes it
reactive. The value goes up to the end of its statement, for the brackets hold back what stands in
them; the call is taken off, though its argument is looked for greedily; and the parts of the array
are its elements. So every estimate for the variable is the number of the elements.
-/

import SfcLint.Proofs.Pattern.Language
import SfcLint.Proofs.Script.ClosedLists
import SfcLint.Proofs.Script.ObjectText
import SfcLint.Script.Size

namespace SfcLint.Script

/-- The functions that make a value reactive. -/
def wrapperNames : List String := ["ref", "reactive", "shallowRef", "shallowReactive", "readonly"]

/-- An identifier as the only type argument, or no type arguments. -/
inductive TypeArgument : Text → Prop
  | absent : TypeArgument []
  | given {type : Text} : KeyForm.name.Proper type → TypeArgument ('<' :: (type ++ ['>']))

/-- What stands before and behind a value that is perhaps made reactive. -/
inductive Wrapping : Text → Text → Prop
  | bare : Wrapping [] []
  | call {name : String} {argument : Text} : name ∈ wrapperNames → TypeArgument argument →
      Wrapping (name.toList ++ (argument ++ ['('])) [')']

/-- An array literal with the elements. -/
def arrayText (elements : List Text) : Text := '[' :: (Text.join ", " elements ++ [']'])

/-- The declaration of a variable with a value, up to the end of the statement. -/
def declarationText (name value : Text) : Text :=
  "const ".toList ++ (name ++ (" = ".toList ++ value))

open Pattern

variable {name front back t after inner : Text} {elements : List Text} {c : Char}

/-! ## Names show no size -/

/-- In a name no array is made with a length. -/
theorem first?_of_identifier {p : Pattern} {sign : Char} (identifier : KeyForm.name.Proper name)
    (plain : p.plain = true) (other : Text.isNameChar sign = false)
    (signed : ∀ taken aside, p.Spells taken aside → sign ∈ taken) : p.first? name = none := by
  rw [← Option.isNone_iff_eq_none, ← Bool.not_eq_false, Option.isNone_eq_false_iff,
    ← Pattern.occursIn, (accepts_of_plain plain).occursIn_iff]
  rintro ⟨taken, aside, spells, inside⟩
  -- A hit would put the sign into the name.
  have member : sign ∈ name := inside.subset (signed taken aside spells)
  have letter : Text.isNameChar sign = true := identifier.inside sign member
  rw [other] at letter
  contradiction

theorem wholeLiteralSize?_of_identifier (identifier : KeyForm.name.Proper name) :
    wholeLiteralSize? name = none := by
  obtain ⟨c, rest, rfl, starts, -⟩ := identifier
  have noOpening : ¬ (c = '[' ∨ c = '\x7b') := by
    rintro (rfl | rfl) <;> contradiction
  exact if_neg noOpening

theorem literalSize?_of_identifier (identifier : KeyForm.name.Proper name) :
    literalSize? name = .ok none := by
  have fromLength : arrayFromLength.first? name = none := by
    refine first?_of_identifier identifier rfl (rfl : Text.isNameChar '(' = false) ?_
    rintro _ _ ⟨_, later, _, _, ⟨rfl, rfl⟩, _, rfl, rfl⟩
    exact List.mem_append_left later (by decide)
  have withLength : newArray.first? name = none := by
    refine first?_of_identifier identifier rfl (rfl : Text.isNameChar '(' = false) ?_
    rintro _ _ ⟨_, _, _, _, _, ⟨_, _, _, _, _, ⟨_, later, _, _, ⟨rfl, rfl⟩, _, rfl, rfl⟩, rfl, rfl⟩,
      rfl, rfl⟩
    exact List.mem_append_right _ (List.mem_append_right _ (List.mem_append_left later (by decide)))
  rw [literalSize?, (trimmed_of_identifier identifier).strip_eq.1,
    wholeLiteralSize?_of_identifier identifier, fromLength, withLength]
  rfl

theorem isIdentifier_of_proper (identifier : KeyForm.name.Proper name) :
    isIdentifier name = true := by
  rw [isIdentifier, (trimmed_of_identifier identifier).strip_eq.1]
  obtain ⟨c, rest, rfl, starts, continues⟩ := identifier
  rw [Bool.and_eq_true, List.all_eq_true]
  exact ⟨starts, continues⟩

/-! ## The length of a value -/

/-- The character neither ends a value nor opens a bracket. -/
def ContinuesValue (c : Char) : Prop := c ∉ ";\n([\x7b".toList

instance : DecidablePred ContinuesValue := fun c => inferInstanceAs (Decidable (c ∉ _))

theorem valueLength_passing (passed after : Text) :
    valueLength passed.length (passed ++ after) = passed.length + valueLength 0 after := by
  induction passed with
  | nil => simp
  | cons c passed ih =>
    rw [List.length_cons, List.cons_append, valueLength, ih]
    omega

theorem valueLength_plain (plain : ∀ c ∈ front, ContinuesValue c) (after : Text) :
    valueLength 0 (front ++ after) = front.length + valueLength 0 after := by
  induction front with
  | nil => simp
  | cons c front ih =>
    rw [List.forall_mem_cons] at plain
    have signs := plain.1
    have opens : Bracket.opened? c = none := by
      rw [Option.eq_none_iff_forall_ne_some]
      intro kind same
      obtain rfl := Bracket.opened?_eq_some_iff.mp same
      cases kind <;> exact signs (by decide)
    rw [List.cons_append, valueLength, if_neg, opens]
    · dsimp only
      rw [ih plain.2, List.length_cons]
      omega
    · rintro (rfl | rfl) <;> exact signs (by decide)

theorem valueLength_group {signs : Text} (closed : Closed signs inner) (kind : Bracket)
    (after : Text) : valueLength 0 (kind.opener :: (inner ++ kind.closer :: after)) =
      inner.length + 2 + valueLength 0 after := by
  have passing := valueLength_passing (inner ++ [kind.closer]) after
  rw [List.length_append, List.length_singleton, List.append_assoc,
    List.singleton_append] at passing
  -- The closing bracket is looked for once, and up to it nothing ends the value.
  rw [valueLength, if_neg, Bracket.opened?_opener]
  · dsimp only
    rw [closing_closed closed kind after]
    dsimp only
    rw [passing]
    omega
  · cases kind <;> decide

/-! ## Wrapped arrays -/

theorem proper_of_mem_wrapperNames {name : String} (listed : name ∈ wrapperNames) :
    KeyForm.name.Proper name.toList := by
  have letters : ∀ name ∈ wrapperNames, name.toList.head?.any Text.isNameStart = true ∧
      name.toList.tail.all Text.isNameChar = true := by decide
  exact proper_of_all (letters name listed).1 (letters name listed).2

theorem Wrapping.plain_front (wrapping : Wrapping front back) :
    front = [] ∧ back = [] ∨ ∃ before, front = before ++ ['('] ∧ back = [')'] ∧
      ∀ c ∈ before, ContinuesValue c := by
  have letters {t : Text} (inside : ∀ c ∈ t, Text.isNameChar c = true) :
      ∀ c ∈ t, ContinuesValue c := by
    intro c member sign
    have other : ∀ c ∈ ";\n([\x7b".toList, Text.isNameChar c = false :=
      List.all_iff_forall_prop.mp (by decide)
    have letter := inside c member
    rw [other c sign] at letter
    exact absurd letter Bool.false_ne_true
  cases wrapping with
  | bare => exact .inl ⟨rfl, rfl⟩
  | @call name argument listed isArgument =>
    refine .inr ⟨name.toList ++ argument, by simp, rfl, ?_⟩
    refine List.forall_mem_append.mpr ⟨letters ?_, ?_⟩
    · intro c member
      exact (proper_of_mem_wrapperNames listed).inside c member
    · cases isArgument with
      | absent => exact List.forall_mem_nil _
      | given identifier =>
        have type := letters fun c member => identifier.inside c member
        refine List.forall_mem_cons.mpr ⟨by decide, List.forall_mem_append.mpr ⟨type, ?_⟩⟩
        exact List.forall_mem_singleton.mpr (by decide)

/-- The value goes up to the end of its statement. -/
theorem valueLength_wrapped (wrapping : Wrapping front back)
    (closed : ∀ t ∈ elements, Closed [','] t) {stop : Char} (ends : stop = ';' ∨ stop = '\n')
    (rest : Text) : valueLength 0 (front ++ (arrayText elements ++ back) ++ stop :: rest) =
      (front ++ (arrayText elements ++ back)).length := by
  have last : valueLength 0 (stop :: rest) = 0 := by
    rw [valueLength, if_pos ends]
  rcases wrapping.plain_front with ⟨rfl, rfl⟩ | ⟨before, rfl, rfl, plain⟩
  · have whole : [] ++ (arrayText elements ++ []) ++ stop :: rest = Bracket.square.opener ::
        (Text.join ", " elements ++ Bracket.square.closer :: stop :: rest) := by
      simp [arrayText, Bracket.opener, Bracket.closer]
    rw [whole, valueLength_group (closed_join closed), last]
    simp [arrayText]
  · have whole : before ++ ['('] ++ (arrayText elements ++ [')']) ++ stop :: rest =
        before ++ Bracket.round.opener ::
          (arrayText elements ++ Bracket.round.closer :: stop :: rest) := by
      simp [Bracket.opener, Bracket.closer]
    have array : Closed [] (arrayText elements) := (closed_join closed).group .square
    rw [whole, valueLength_plain plain, valueLength_group array, last]
    simp

theorem trimmed_array (elements : List Text) : Text.Trimmed (arrayText elements) :=
  Text.trimmed_between (by decide) (by decide) _

theorem trimmed_wrapped (wrapping : Wrapping front back) (elements : List Text) :
    Text.Trimmed (front ++ (arrayText elements ++ back)) := by
  cases wrapping with
  | bare =>
    rw [List.nil_append, List.append_nil]
    exact trimmed_array elements
  | @call name argument listed isArgument =>
    obtain ⟨c, rest, split⟩ := List.exists_cons_of_ne_nil
      (trimmed_of_identifier (proper_of_mem_wrapperNames listed)).nonempty
    have visible : Text.isBlank c = false :=
      (trimmed_of_identifier (proper_of_mem_wrapperNames listed)).ends c (.inl (by rw [split]; rfl))
    rw [split]
    exact Text.trimmed_of_ends (List.cons_append ..) (List.append_assoc ..).symm visible (by decide)

/-! ## Taking the call off -/

theorem picks_typeArgument {argument : Text} (isArgument : TypeArgument argument) (rest : Text)
    (before : Option Char) :
    ∃ last, Picks (optional (all ["<", many (outside "()"), ">"]))
      ⟨before, argument ++ '(' :: rest⟩ ⟨last, '(' :: rest⟩ [] := by
  cases isArgument with
  | absent =>
    exact ⟨before, picks_optional_of_refuses (refuses_seq (refuses_literal
      (not_prefix_of_other rfl (by decide))))⟩
  | @given type identifier =>
    have inside : ∀ c ∈ type, outside "()" c = true := by
      intro c member
      exact outside_of_test (identifier.inside c member) (by decide)
    -- The run takes the closing sign as well and has to give it back.
    have offers : Offers (many (outside "()")) ⟨some '<', type ++ '>' :: '(' :: rest⟩
        ⟨some '>', '(' :: rest⟩ ⟨type.getLast?.or (some '<'), '>' :: '(' :: rest⟩ [] :=
      offers_many inside (by decide) (by rintro d ⟨⟩; decide)
    have given := picks_seq (@picks_literal before _ ['<']) (picks_seq_of_offers offers
      (refuses_literal (not_prefix_of_other rfl (by decide))) (picks_literal ['>']))
    refine ⟨some '>', picks_optional ?_⟩
    rw [List.cons_append, List.append_assoc]
    exact given

theorem picks_inner (inner : Text) (before : Option Char) :
    Picks (seq (capture "inner" (many fun _ => true)) (all [")", blanks, optional ";", stop]))
      ⟨before, inner ++ [')']⟩ ⟨some ')', []⟩ [("inner", inner)] := by
  have offers : Offers (capture "inner" (many fun _ => true)) ⟨before, inner ++ [')']⟩
      ⟨some ')', []⟩ ⟨inner.getLast?.or before, [')']⟩ [("inner", inner)] :=
    offers_capture (offers_many (fun _ _ => rfl) rfl (by simp))
  have ends : Picks (all [blanks, optional ";", stop]) ⟨some ')', []⟩ ⟨some ')', []⟩ [] :=
    picks_seq (picks_many_nil (by simp)) (picks_seq
      (picks_optional_of_refuses (refuses_literal (by decide))) picks_stop)
  exact picks_seq_of_offers offers (refuses_seq (refuses_literal (by decide)))
    (picks_seq (picks_literal [')']) ends)

/-- The call that makes a value reactive is found, with the value. -/
theorem exists_leading?_reactiveWrapper {name : String} {argument : Text}
    (listed : name ∈ wrapperNames) (isArgument : TypeArgument argument) (inner : Text) :
    ∃ hit,
      reactiveWrapper.leading? (name.toList ++ (argument ++ '(' :: (inner ++ [')']))) = some hit ∧
        hit.group "inner" = inner := by
  -- Behind the name stands one of two brackets, and neither a letter nor a blank.
  have stops {test : Char → Bool} (signs : test '<' = false ∧ test '(' = false) :
      ∀ c ∈ (argument ++ '(' :: (inner ++ [')'])).head?, test c = false := by
    intro c first
    cases isArgument with
    | absent =>
      obtain rfl := Option.some.inj first
      exact signs.2
    | given =>
      obtain rfl := Option.some.inj first
      exact signs.1
  -- No name begins with another one, so their order does not matter.
  have differ : ∀ name ∈ wrapperNames, ∀ other ∈ wrapperNames, other.toList <+: name.toList →
      other = name := by decide
  have word : Picks (words wrapperNames)
      ⟨none, name.toList ++ (argument ++ '(' :: (inner ++ [')']))⟩
      ⟨name.toList.getLast?.or none, argument ++ '(' :: (inner ++ [')'])⟩ [] :=
    picks_whole_word listed (fun other listed' => (proper_of_mem_wrapperNames listed').inside)
      (stops ⟨by decide, by decide⟩) (differ name listed)
  obtain ⟨last, given⟩ := picks_typeArgument isArgument (inner ++ [')'])
    (name.toList.getLast?.or none)
  have behind : Picks (seq blanks (seq "(" (seq (capture "inner" (many fun _ => true))
      (all [")", blanks, optional ";", stop])))) ⟨last, '(' :: (inner ++ [')'])⟩ ⟨some ')', []⟩
      [("inner", inner)] :=
    picks_seq (picks_no_blanks (by decide) _) (picks_seq (picks_literal ['('])
      (picks_inner inner _))
  have picks : Picks reactiveWrapper
      ⟨none, name.toList ++ (argument ++ '(' :: (inner ++ [')']))⟩ ⟨some ')', []⟩
      [("inner", inner)] :=
    picks_seq picks_start (picks_seq word (picks_seq (picks_many_nil (stops ⟨by decide, by decide⟩))
      (picks_seq given behind)))
  rw [← List.append_nil (name.toList ++ _)] at picks
  obtain ⟨hit, found, finds⟩ := exists_leading?_of_picks picks
  rw [List.append_nil] at found
  refine ⟨hit, found, ?_⟩
  rw [Hit.group, finds.group?_eq]
  rfl

theorem leading?_reactiveWrapper_array (elements : List Text) :
    reactiveWrapper.leading? (arrayText elements) = none := by
  rw [leading?, hitAt?_eq_none_iff]
  -- All names begin with a letter, and an array with a bracket.
  refine refuses_start_seq (refuses_seq (refuses_words fun name listed => ?_)) _ rfl
  obtain ⟨c, rest, split, starts, -⟩ := proper_of_mem_wrapperNames listed
  refine not_prefix_of_other (by rw [split]; rfl) ?_
  rintro rfl
  contradiction

/-- The call is taken off, and without one nothing is. -/
theorem unwrapped_wrapped (wrapping : Wrapping front back) :
    unwrapped (front ++ (arrayText elements ++ back)) = arrayText elements := by
  rw [unwrapped, (trimmed_wrapped wrapping elements).strip_eq.1]
  cases wrapping with
  | bare => rw [List.nil_append, List.append_nil, leading?_reactiveWrapper_array]
  | @call name argument listed isArgument =>
    obtain ⟨hit, found, group⟩ := exists_leading?_reactiveWrapper listed isArgument
      (arrayText elements)
    have text : name.toList ++ (argument ++ ['(']) ++ (arrayText elements ++ [')']) =
        name.toList ++ (argument ++ '(' :: (arrayText elements ++ [')'])) := by simp
    rw [text, found]
    dsimp only
    rw [group, (trimmed_array elements).strip_eq.1]

/-! ## Counting the elements -/

theorem literalSize?_array (closed : ∀ t ∈ elements, Closed [','] t)
    (visible : ∀ t ∈ elements, Text.strip t ≠ []) :
    literalSize? (arrayText elements) = .ok (some elements.length) := by
  have none : ∀ c ∈ [], Text.isBlank c = true := List.forall_mem_nil _
  have parts := splitCommas_join closed visible none none
  rw [List.nil_append, List.append_nil] at parts
  have span : spanAt? (arrayText elements) 0 =
      some ⟨0, 0 + (Text.join ", " elements).length + 1, Text.join ", " elements⟩ :=
    spanAt?_fits ((closed_join closed).fits .square) [] []
  have whole : wholeLiteralSize? (arrayText elements) = some elements.length := by
    have head : (arrayText elements).head? = some '[' := rfl
    rw [wholeLiteralSize?, head]
    dsimp only
    rw [if_pos (.inl rfl), span, Option.bind_some, if_pos, parts, List.length_map]
    simp [arrayText]
  rw [literalSize?, (trimmed_array elements).strip_eq.1, whole]

theorem declaredValue?_declarationText (identifier : KeyForm.name.Proper name) {value rest : Text}
    (trimmed : Text.Trimmed value) (length : valueLength 0 (value ++ rest) = value.length) :
    declaredValue? name (declarationText name (value ++ rest)) = some value := by
  have picks : Picks (variableDeclaration name)
      ⟨none, ("const ".toList ++ (name ++ " = ".toList)) ++ (value ++ rest)⟩
      ⟨some ' ', value ++ rest⟩ [] := by
    have sign : Picks (all [blanks, annotation, "=", blanks])
        ⟨name.getLast?.or (some ' '), [' '] ++ ('=' :: ' ' :: (value ++ rest))⟩
        ⟨some ' ', value ++ rest⟩ [] :=
      picks_seq (picks_many [' '] Text.isBlank_space (by rintro c ⟨⟩; decide)) (picks_seq
        (picks_optional_of_refuses (refuses_seq (refuses_literal
          (not_prefix_of_other rfl (by decide))))) (picks_seq (picks_literal ['='])
            (picks_many [' '] Text.isBlank_space (trimmed.not_isBlank_head? rest))))
    have starts := (trimmed_of_identifier identifier).not_isBlank_head?
      ([' '] ++ ('=' :: ' ' :: (value ++ rest)))
    have whole : Picks (variableDeclaration name)
        ⟨none, "const".toList ++ ([' '] ++ (name ++ ([' '] ++ ('=' :: ' ' :: (value ++ rest)))))⟩
        ⟨some ' ', value ++ rest⟩ [] :=
      picks_seq (picks_behind rfl) (picks_seq (picks_alt_left (picks_literal "const".toList))
        (picks_seq (picks_some1 (by decide) Text.isBlank_space starts)
          (picks_seq (picks_literal name) sign)))
    have same : ("const ".toList ++ (name ++ " = ".toList)) ++ (value ++ rest) =
        "const".toList ++ ([' '] ++ (name ++ ([' '] ++ ('=' :: ' ' :: (value ++ rest))))) := by simp
    rwa [same]
  obtain ⟨hit, found, finds⟩ := exists_first?_of_picks picks
  have text : declarationText name (value ++ rest) =
      ("const ".toList ++ (name ++ " = ".toList)) ++ (value ++ rest) := by
    unfold declarationText
    rw [List.append_assoc, List.append_assoc]
  rw [declaredValue?, text, found, Option.map_some, finds.rest, length, List.take_left,
    trimmed.strip_eq.1]

theorem declaredSize?_array (identifier : KeyForm.name.Proper name)
    (wrapping : Wrapping front back) (closed : ∀ t ∈ elements, Closed [','] t)
    (visible : ∀ t ∈ elements, Text.strip t ≠ []) {stop : Char} (ends : stop = ';' ∨ stop = '\n')
    (rest : Text) :
    declaredSize? name
        (declarationText name (front ++ (arrayText elements ++ back) ++ stop :: rest)) =
      .ok (some elements.length) := by
  have trimmed := trimmed_wrapped wrapping elements
  obtain ⟨c, later, split⟩ := List.exists_cons_of_ne_nil trimmed.nonempty
  have value := declaredValue?_declarationText identifier trimmed
    (valueLength_wrapped wrapping closed ends rest)
  have size := literalSize?_array closed visible
  rw [← unwrapped_wrapped wrapping, split] at size
  rw [declaredSize?, value, split]
  exact size

theorem not_isDigit_of_isNameStart (starts : Text.isNameStart c = true) :
    Text.isDigit c = false := by
  simp only [Text.isNameStart, Bool.or_eq_true, beq_iff_eq] at starts
  rcases starts with (letter | rfl) | rfl
  · have bounds := Text.toNat_of_isLetter letter
    have noDigit : ¬ ('0' ≤ c ∧ c ≤ '9') := by
      rintro ⟨-, last⟩
      have small : c.toNat ≤ 57 := last
      omega
    rw [Text.isDigit, Text.digitValue?, if_pos (by omega), if_neg noDigit]
    rfl
  · decide
  · decide

/-- **An array that a variable is declared with is counted exactly**, by every estimate. -/
theorem sizes_declaredArray (identifier : KeyForm.name.Proper name)
    (wrapping : Wrapping front back) (closed : ∀ t ∈ elements, Closed [','] t)
    (visible : ∀ t ∈ elements, Text.strip t ≠ []) {stop : Char} (ends : stop = ';' ∨ stop = '\n')
    (rest : Text) :
    let t := declarationText name (front ++ (arrayText elements ++ back) ++ stop :: rest)
    listSize name t = .ok elements.length ∧ dataSize name t = .ok elements.length ∧
      watchedSize name t = .ok elements.length := by
  intro t
  have itself : Text.strip name = name := (trimmed_of_identifier identifier).strip_eq.1
  have given : t ≠ [] := List.cons_ne_nil _ _
  have shown : shownSize? name t = .ok (some elements.length) := by
    rw [shownSize?, literalSize?_of_identifier identifier]
    refine (if_pos ⟨isIdentifier_of_proper identifier, given⟩).trans ?_
    rw [itself]
    exact declaredSize?_array identifier wrapping closed visible ends rest
  -- Only the estimate for lists takes a numeral for a count first.
  have noNumeral : ¬ (name ≠ [] ∧ name.all Text.isDigit = true) := by
    rintro ⟨-, digits⟩
    obtain ⟨c, later, rfl, starts, -⟩ := identifier
    rw [List.all_cons, not_isDigit_of_isNameStart starts] at digits
    contradiction
  refine ⟨?_, ?_, ?_⟩
  · rw [listSize, itself, if_neg noNumeral, shown]
    rfl
  · rw [dataSize, itself, shown]
    rfl
  · rw [watchedSize, itself, shown]
    rfl

/-- Rows with a comma in brackets and one in a string. -/
def rowsDeclaration : Text := "const rows = ref<Row>([[1, 2], ', ', f(3)]);\nrows.value = []"

theorem sizes_declaredArray_rows :
    listSize "rows" rowsDeclaration = .ok 3 ∧ dataSize "rows" rowsDeclaration = .ok 3 ∧
      watchedSize "rows" rowsDeclaration = .ok 3 := by
  have identifier : KeyForm.name.Proper "rows".toList := proper_of_all (by decide) (by decide)
  have row : KeyForm.name.Proper "Row".toList := proper_of_all (by decide) (by decide)
  have wrapping := @Wrapping.call "ref" _ (by decide) (.given row)
  have pair : Closed [','] ('[' :: ("1, 2".toList ++ [']'])) :=
    (@closed_of_all [] "1, 2".toList (by decide)).group .square
  have string : Closed [','] ('\'' :: (", ".toList ++ ['\''])) := closed_of_literal fun after =>
    .single (quotedTail_of_plain (by decide) (by decide) (by decide) after)
  have call : Closed [','] ("f".toList ++ ('(' :: ("3".toList ++ [')']))) :=
    (closed_of_all (by decide)).append ((@closed_of_all [] "3".toList (by decide)).group .round)
      (apart_of_not_mem (by decide) _)
  have closed := List.forall_mem_cons.mpr ⟨pair, List.forall_mem_cons.mpr
    ⟨string, List.forall_mem_singleton.mpr call⟩⟩
  have found := sizes_declaredArray identifier wrapping closed (by decide) (.inl rfl)
    "\nrows.value = []"
  unfold declarationText at found
  unfold rowsDeclaration
  simpa [arrayText, Text.join] using found

end SfcLint.Script
