/-
# The tokens of printed tags

The tokenizer reads a printed start tag in one step. Its extent ends at the sign that ends the tag,
for a sign inside a value stands between quotes, and all of its attributes are read. A printed end
tag and a stretch of text are one step each.
-/

import SfcLint.Proofs.Markup.Reference
import SfcLint.Proofs.Markup.Step
import SfcLint.Proofs.Pattern.Preference
import SfcLint.Proofs.Printing.Tree

namespace SfcLint.Printing

open Markup Pattern

variable {attributes : List Assignment} {pair : Assignment} {name content rest : Text}
  {before : Option Char}

/-! ## Names and values -/

theorem ElementName.exists_cons (proper : ElementName name) :
    ∃ c tail, name = c :: tail ∧ Text.isLetter c = true ∧ ∀ d ∈ tail, isElementChar d = true := by
  obtain ⟨c, tail, rfl⟩ := List.exists_cons_of_ne_nil proper.nonempty
  refine ⟨c, tail, rfl, ?_, (List.forall_mem_cons.mp proper.letters).2⟩
  rw [Text.isLetter, proper.starts c rfl]
  rfl

theorem exists_picks_tagName (proper : ElementName name)
    (ends : ∀ c ∈ rest.head?, endsTagName c = true) :
    ∃ last, Picks tagName ⟨before, name ++ rest⟩ ⟨last, rest⟩ [] := by
  obtain ⟨c, tail, rfl, letter, letters⟩ := proper.exists_cons
  refine ⟨_, picks_seq (picks_one letter) (picks_many tail (fun d member => ?_) (fun d head => ?_))⟩
  · exact outside_of_test (letters d member) (by decide)
  · rw [ends d head]
    rfl

theorem isBlank_of_isAttributeChar {c : Char} (letter : isAttributeChar c = true) :
    Text.isBlank c = false := by
  rw [isAttributeChar, Bool.and_eq_true, Bool.not_eq_true'] at letter
  exact letter.1

/-- A character for the names of attributes is no blank and none of some signs. -/
theorem visible_of_isAttributeChar {signs : String} {c : Char} (letter : isAttributeChar c = true)
    (others : signs.toList.any isAttributeChar = false) :
    (!Text.isBlank c && outside signs c) = true := by
  rw [isBlank_of_isAttributeChar letter, outside_of_test letter others]
  rfl

/-- The name of an attribute goes up to the equals sign, behind a space. -/
theorem exists_picks_attributeName (proper : pair.Printable) (rest : Text) :
    ∃ last, Picks attributeName ⟨some ' ', pair.name ++ '=' :: rest⟩ ⟨last, '=' :: rest⟩ [] := by
  have letters := proper.letters
  obtain ⟨c, tail, split⟩ := List.exists_cons_of_ne_nil proper.nonempty
  rw [split, List.forall_mem_cons] at letters
  have others : Picks (many fun c => !Text.isBlank c && outside "/=>" c)
      ⟨some c, tail ++ '=' :: rest⟩ ⟨tail.getLast?.or (some c), '=' :: rest⟩ [] := by
    refine picks_many tail (fun d member => ?_) ?_
    · exact visible_of_isAttributeChar (letters.2 d member) (by decide)
    · rintro d ⟨⟩
      decide
  have first : Picks (one fun c => !Text.isBlank c && outside "/>" c)
      ⟨some ' ', c :: (tail ++ '=' :: rest)⟩ ⟨some c, tail ++ '=' :: rest⟩ [] :=
    picks_one (visible_of_isAttributeChar letters.1 (by decide))
  rw [split]
  exact ⟨_, picks_seq (picks_behind (by decide)) (picks_seq first others)⟩

theorem picks_equalsSigns (t : Text) :
    Picks equalsSigns ⟨before, '=' :: '"' :: t⟩ ⟨some '=', '"' :: t⟩ [] := by
  have sign : Picks (some1 (· == '=')) ⟨before, ['='] ++ '"' :: t⟩ ⟨some '=', '"' :: t⟩ [] :=
    picks_some1 (by simp) (by simp) (by rintro d ⟨⟩; decide)
  exact picks_seq (picks_no_blanks (by decide) _)
    (picks_seq sign (picks_no_blanks (by decide) _))

/-- The value of an attribute goes up to the closing quote. -/
theorem picks_quoted (proper : pair.Printable) (rest : Text) :
    Picks (all ["\"", capture "value" (many (outside "\"")), "\""])
      ⟨before, '"' :: (pair.value ++ '"' :: rest)⟩ ⟨some '"', rest⟩ [("value", pair.value)] := by
  have inner : Picks (capture "value" (many (outside "\""))) ⟨some '"', pair.value ++ '"' :: rest⟩
      ⟨pair.value.getLast?.or (some '"'), '"' :: rest⟩ [("value", pair.value)] := by
    refine picks_capture (picks_many pair.value (fun c member => ?_) ?_)
    · have other : c ≠ '"' := fun same => proper.quote (same ▸ member)
      simpa [outside] using other
    · rintro d ⟨⟩
      decide
  exact picks_seq (picks_literal ['"']) (picks_seq inner (picks_literal ['"']))

theorem picks_attributeValue (proper : pair.Printable) (rest : Text) :
    Picks attributeValue ⟨before, '"' :: (pair.value ++ '"' :: rest)⟩ ⟨some '"', rest⟩
      [("value", pair.value)] :=
  picks_alt_right (refuses_seq (refuses_literal (by simp)))
    (picks_alt_left (picks_quoted proper rest))

/-! ## Rows of attributes -/

/-- The space before some attributes, if there are any. -/
def spacing (attributes : List Assignment) : Text := if attributes.isEmpty then [] else [' ']

/-- Attributes with spaces between them. -/
def spacedRow : List Assignment → Text
  | [] => []
  | pair :: attributes => pair.written ++ (spacing attributes ++ spacedRow attributes)

theorem printAttributes_eq (attributes : List Assignment) :
    printAttributes attributes = spacing attributes ++ spacedRow attributes := by
  induction attributes with
  | nil => rfl
  | cons pair attributes ih =>
    rw [printAttributes, List.flatMap_cons, ← printAttributes, ih]
    rfl

/-- The row and the end of its tag start with no blank and no slash. -/
theorem head_spacedRow (printable : ∀ pair ∈ attributes, pair.Printable) (rest : Text) :
    ∃ c t, spacedRow attributes ++ '>' :: rest = c :: t ∧ Text.isBlank c = false ∧ c ≠ '/' := by
  cases attributes with
  | nil => exact ⟨'>', rest, rfl, by decide, by decide⟩
  | cons pair attributes =>
    have proper := (List.forall_mem_cons.mp printable).1
    have letters := proper.letters
    obtain ⟨c, tail, split⟩ := List.exists_cons_of_ne_nil proper.nonempty
    rw [split, List.forall_mem_cons] at letters
    refine ⟨c, _, by rw [spacedRow, Assignment.written, split]; rfl,
      isBlank_of_isAttributeChar letters.1, ne_of_test letters.1 (by decide)⟩

theorem getLast?_spacing (before : Option Char) (some : attributes ≠ []) :
    (spacing attributes).getLast?.or before = Option.some ' ' := by
  cases attributes with
  | nil => exact absurd rfl some
  | cons pair attributes => rfl

/-- What passes blanks passes the space before a row. -/
theorem picks_spacing {test : Char → Bool} (blank : test ' ' = true)
    (others : ∀ c, Text.isBlank c = false → c ≠ '/' → test c = false)
    (printable : ∀ pair ∈ attributes, pair.Printable) (rest : Text) :
    Picks (many test) ⟨before, spacing attributes ++ (spacedRow attributes ++ '>' :: rest)⟩
      ⟨(spacing attributes).getLast?.or before, spacedRow attributes ++ '>' :: rest⟩ [] := by
  obtain ⟨c, t, split, visible, noSlash⟩ := head_spacedRow printable rest
  refine picks_many _ (fun d member => ?_) ?_
  · rw [spacing] at member
    split at member
    · contradiction
    · rw [List.mem_singleton.mp member, blank]
  · rw [split]
    rintro d ⟨⟩
    exact others c visible noSlash

/-- No gap stands before a row. -/
theorem refuses_attributeGap {c : Char} {t : Text} (visible : Text.isBlank c = false)
    (noSlash : c ≠ '/') :
    Refuses (alt (one Text.isBlank) (seq "/" (ahead false ">"))) ⟨before, c :: t⟩ := by
  refine refuses_alt (refuses_one (by rintro d ⟨⟩; exact visible)) (refuses_seq ?_)
  refine refuses_literal fun starts => noSlash ?_
  exact (List.cons_prefix_cons.mp starts).1.symm

theorem picks_attributeGap (printable : ∀ pair ∈ attributes, pair.Printable) (rest : Text) :
    Picks attributeGap ⟨before, spacing attributes ++ (spacedRow attributes ++ '>' :: rest)⟩
      ⟨(spacing attributes).getLast?.or before, spacedRow attributes ++ '>' :: rest⟩ [] := by
  obtain ⟨c, t, split, visible, noSlash⟩ := head_spacedRow printable rest
  rw [split]
  have ends {before : Option Char} : Picks attributeGap ⟨before, c :: t⟩ ⟨before, c :: t⟩ [] :=
    picks_star_nil (refuses_attributeGap visible noSlash)
  cases attributes with
  | nil => exact ends
  | cons pair attributes =>
    exact picks_star_cons (by simp) (picks_alt_left (picks_one (by decide))) ends

/-- At the end of a tag no attribute starts. -/
theorem refuses_attributeName (rest : Text) : Refuses attributeName ⟨before, '>' :: rest⟩ :=
  refuses_behind_seq (refuses_seq (refuses_one (by rintro d ⟨⟩; decide)))

theorem written_append (pair : Assignment) (rest : Text) :
    pair.written ++ rest = pair.name ++ '=' :: '"' :: (pair.value ++ '"' :: rest) := by
  simp [Assignment.written]

/-- The extent of a start tag goes on over its attributes. -/
theorem exists_picks_row (printable : ∀ pair ∈ attributes, pair.Printable) (rest : Text)
    (space : attributes ≠ [] → before = some ' ') :
    ∃ last aside, Picks (star (all [
        attributeName, optional (all [equalsSigns, attributeValue, blanks]), attributeGap]))
      ⟨before, spacedRow attributes ++ '>' :: rest⟩ ⟨last, '>' :: rest⟩ aside := by
  -- The spaces between the attributes go with the gap behind each of them.
  induction attributes generalizing before with
  | nil => exact ⟨_, _, picks_star_nil (refuses_seq (refuses_attributeName rest))⟩
  | cons pair attributes ih =>
    rw [List.forall_mem_cons] at printable
    obtain ⟨last, aside, rounds⟩ := ih printable.2 (getLast?_spacing (some '"'))
    obtain ⟨_, name⟩ := exists_picks_attributeName printable.1
      ('"' :: (pair.value ++ '"' :: (spacing attributes ++ (spacedRow attributes ++ '>' :: rest))))
    obtain ⟨c, t, split, visible, noSlash⟩ := head_spacedRow printable.2 rest
    have gap {before : Option Char} : Picks attributeGap
        ⟨before, spacedRow attributes ++ '>' :: rest⟩
        ⟨before, spacedRow attributes ++ '>' :: rest⟩ [] := by
      rw [split]
      exact picks_star_nil (refuses_attributeGap visible noSlash)
    have behind : Picks blanks
        ⟨some '"', spacing attributes ++ (spacedRow attributes ++ '>' :: rest)⟩
        ⟨(spacing attributes).getLast?.or (some '"'), spacedRow attributes ++ '>' :: rest⟩ [] :=
      picks_spacing (by decide) (fun _ blank _ => blank) printable.2 rest
    have round := picks_seq name (picks_seq (picks_optional (picks_seq (picks_equalsSigns _)
      (picks_seq (picks_attributeValue printable.1 _) behind))) gap)
    rw [space (by simp), spacedRow, List.append_assoc, List.append_assoc, written_append]
    refine ⟨last, _, picks_star_cons ?_ round rounds⟩
    simp
    omega

theorem head_spacing (attributes : List Assignment) (rest : Text) :
    ∀ c ∈ (spacing attributes ++ (spacedRow attributes ++ '>' :: rest)).head?,
      endsTagName c = true := by
  cases attributes with
  | nil => rintro c ⟨⟩; decide
  | cons pair attributes => rintro c ⟨⟩; decide

theorem startTag_append (name : Text) (attributes : List Assignment) (rest : Text) :
    startTag name attributes ++ rest =
      '<' :: (name ++ (spacing attributes ++ (spacedRow attributes ++ '>' :: rest))) := by
  simp [startTag, printAttributes_eq]

theorem exists_picks_startTagExtent (proper : ElementName name)
    (printable : ∀ pair ∈ attributes, pair.Printable) (rest : Text) :
    ∃ last aside, Picks startTagExtent ⟨none, startTag name attributes ++ rest⟩
      ⟨last, '>' :: rest⟩ aside := by
  rw [startTag_append]
  obtain ⟨last, named⟩ : ∃ last, Picks tagName
      ⟨some '<', name ++ (spacing attributes ++ (spacedRow attributes ++ '>' :: rest))⟩
      ⟨last, spacing attributes ++ (spacedRow attributes ++ '>' :: rest)⟩ [] :=
    exists_picks_tagName proper (head_spacing attributes rest)
  have spaces : Picks (many fun c => Text.isBlank c || c == '/')
      ⟨last, spacing attributes ++ (spacedRow attributes ++ '>' :: rest)⟩
      ⟨(spacing attributes).getLast?.or last, spacedRow attributes ++ '>' :: rest⟩ [] :=
    picks_spacing (by decide) (fun c visible noSlash => by simp [visible, noSlash]) printable rest
  obtain ⟨last', aside, rounds⟩ := exists_picks_row printable rest (getLast?_spacing last)
  exact ⟨_, _, picks_seq (picks_literal ['<']) (picks_seq named
    (picks_seq (picks_optional (picks_seq spaces rounds)) (picks_no_blanks (by decide) _)))⟩

/-- The extent of a printed start tag goes up to the sign at its end. -/
theorem startTagLength?_startTag (proper : ElementName name)
    (printable : ∀ pair ∈ attributes, pair.Printable) (rest : Text) :
    startTagLength? (startTag name attributes ++ rest) =
      some (startTag name attributes).length := by
  obtain ⟨last, aside, picks⟩ := exists_picks_startTagExtent proper printable rest
  have split : startTag name attributes ++ rest =
      '<' :: (name ++ printAttributes attributes) ++ '>' :: rest := by
    simp [startTag]
  rw [split] at picks ⊢
  obtain ⟨hit, found, finds⟩ := exists_leading?_of_picks picks
  rw [startTagLength?, found, Option.bind_some, finds.rest, finds.stop]
  simp [startTag, Nat.add_assoc]

/-- What the tokenizer reads as the attributes of a printed start tag. -/
def attributesOf (attributes : List Assignment) : List Markup.Attribute :=
  attributes.map fun pair => ⟨Text.lower pair.name, some pair.value⟩

theorem unescape_of_not_mem {t : Text} (plain : '&' ∉ t) : unescape t = .ok t := by
  have whole := unescape_append_plain plain []
  rw [List.append_nil] at whole
  rw [whole]
  simp [unescape, unescapeFrom]

theorem decoded_of_not_mem {t : Text} (plain : '&' ∉ t) : decoded t = .ok t := by
  rw [decoded, unescape_of_not_mem plain]
  rfl

/-- An attribute is passed up to the next one or the end of the tag. -/
theorem picks_attributeItem (proper : pair.Printable)
    (printable : ∀ pair ∈ attributes, pair.Printable) (rest : Text) :
    Picks attributeItem
      ⟨some ' ', spacedRow (pair :: attributes) ++ '>' :: rest⟩
      ⟨(spacing attributes).getLast?.or (some '"'), spacedRow attributes ++ '>' :: rest⟩
      [("value", pair.value), ("name", pair.name)] := by
  obtain ⟨last, name⟩ := exists_picks_attributeName proper
    ('"' :: (pair.value ++ '"' :: (spacing attributes ++ (spacedRow attributes ++ '>' :: rest))))
  rw [spacedRow, List.append_assoc, List.append_assoc, written_append]
  exact picks_seq (picks_capture name) (picks_seq (picks_optional (picks_seq (picks_equalsSigns _)
    (picks_attributeValue proper _))) (picks_attributeGap printable rest))

/-- All attributes of a printed start tag are read, up to the sign at its end. -/
theorem attributesFrom_row (printable : ∀ pair ∈ attributes, pair.Printable) {stop fuel : Nat}
    {cursor : Cursor} (ahead : cursor.rest = spacedRow attributes ++ '>' :: rest)
    (space : attributes ≠ [] → cursor.before = some ' ')
    (inside : stop = cursor.offset + (spacedRow attributes).length + 1)
    (enough : attributes.length ≤ fuel) :
    ∃ last, attributesFrom stop fuel cursor = .ok (attributesOf attributes, last) ∧
      last.offset + 1 = stop := by
  induction attributes generalizing fuel cursor with
  | nil =>
    refine ⟨cursor, ?_, inside.symm⟩
    cases fuel with
    | zero => rfl
    | succ fuel =>
      -- At the sign no attribute can start.
      have none : Refuses attributeItem ({ cursor with captures := [] } : Cursor).view := by
        change Refuses attributeItem ⟨cursor.before, cursor.rest⟩
        rw [ahead]
        exact refuses_seq (refuses_capture (refuses_attributeName rest))
      rw [attributesFrom, match?_of_refuses none]
      split <;> rfl
  | cons pair attributes ih =>
    obtain ⟨fuel, rfl⟩ : ∃ more, fuel = more + 1 := ⟨fuel - 1, by simp at enough; omega⟩
    rw [List.forall_mem_cons] at printable
    obtain ⟨next, found, there, moved, aside⟩ : ∃ next,
        attributeItem.match? { cursor with captures := [] } some = some next ∧
          next.view = ⟨(spacing attributes).getLast?.or (some '"'),
            spacedRow attributes ++ '>' :: rest⟩ ∧
          next.offset = cursor.offset + (pair.written ++ spacing attributes).length ∧
          asides next = [("value", pair.value), ("name", pair.name)] := by
      have seen : ({ cursor with captures := [] } : Cursor).view =
          ⟨some ' ', spacedRow (pair :: attributes) ++ '>' :: rest⟩ := by
        rw [← space (by simp), ← ahead]
        rfl
      have picks := picks_attributeItem printable.1 printable.2 rest
      rw [← seen] at picks
      exact exists_match?_of_picks picks (ahead.trans (by simp [spacedRow]))
    have name : next.captured? "name" = some pair.name := by rw [captured?_eq, aside]; rfl
    have value : next.captured? "value" = some pair.value := by rw [captured?_eq, aside]; rfl
    obtain ⟨last, later, ends⟩ := @ih printable.2 fuel next (congrArg View.ahead there)
      (fun some => (congrArg View.before there).trans (getLast?_spacing _ some))
      (by rw [inside, moved]; simp [spacedRow]; omega) (by simpa using enough)
    refine ⟨last, ?_, ends⟩
    rw [attributesFrom, if_pos (by omega), found]
    simp only [name, value, Option.getD_some, Option.mapM_some,
      decoded_of_not_mem printable.1.reference, later]
    rfl

/-! ## Steps -/

theorem lower_name (proper : ElementName name) : Text.lower name = name :=
  lower_of_isElementChar proper.letters

theorem length_le_startTag (name : Text) (attributes : List Assignment) :
    attributes.length ≤ (startTag name attributes).length := by
  have shorter : attributes.length ≤ (printAttributes attributes).length := by
    induction attributes with
    | nil => exact Nat.le_refl 0
    | cons pair attributes ih =>
      rw [printAttributes] at ih ⊢
      simp only [List.flatMap_cons, List.length_append, List.length_cons, Assignment.print]
      omega
  simp only [startTag, List.length_cons, List.length_append]
  omega

/-- A printed start tag is read in one step. -/
theorem startTagStep?_startTag (proper : ElementName name)
    (printable : ∀ pair ∈ attributes, pair.Printable) (rest : Text) :
    startTagStep? (startTag name attributes ++ rest) =
      .ok (some ⟨some (.startTag name (attributesOf attributes) (startTag name attributes)),
        (startTag name attributes).length, none⟩) := by
  obtain ⟨last, named⟩ : ∃ last, Picks tagName
      ⟨some '<', name ++ (spacing attributes ++ (spacedRow attributes ++ '>' :: rest))⟩
      ⟨last, spacing attributes ++ (spacedRow attributes ++ '>' :: rest)⟩ [] :=
    exists_picks_tagName proper (head_spacing attributes rest)
  -- The name ends where the row of attributes or the sign starts, and the attributes end before the
  -- sign.
  have tag : Picks (all ["<", capture "tag" tagName, attributeGap])
      (Cursor.atStart (startTag name attributes ++ rest)).view
      ⟨(spacing attributes).getLast?.or last, spacedRow attributes ++ '>' :: rest⟩
      [("tag", name)] := by
    rw [startTag_append]
    exact picks_seq (picks_literal ['<'])
      (picks_seq (picks_capture named) (picks_attributeGap printable rest))
  obtain ⟨cursor, found, there, moved, aside⟩ : ∃ cursor,
      (all ["<", capture "tag" tagName, attributeGap]).match?
          (.atStart (startTag name attributes ++ rest)) some = some cursor ∧
        cursor.view =
          ⟨(spacing attributes).getLast?.or last, spacedRow attributes ++ '>' :: rest⟩ ∧
        cursor.offset = 0 + ('<' :: (name ++ spacing attributes)).length ∧
        asides cursor = [("tag", name)] :=
    exists_match?_of_picks tag ((startTag_append name attributes rest).trans (by simp))
  have named? : cursor.captured? "tag" = some name := by rw [captured?_eq, aside]; rfl
  have length : (startTag name attributes).length =
      cursor.offset + (spacedRow attributes).length + 1 := by
    rw [moved, startTag, printAttributes_eq]
    simp
    omega
  obtain ⟨last', read, ends⟩ := attributesFrom_row printable (congrArg View.ahead there)
    (fun some => (congrArg View.before there).trans (getLast?_spacing _ some)) length
    (length_le_startTag name attributes)
  have closing : (startTag name attributes).drop last'.offset = ['>'] := by
    have split :
        startTag name attributes = '<' :: (name ++ printAttributes attributes) ++ ['>'] := by
      simp [startTag]
    rw [split] at ends ⊢
    exact List.drop_left' (by
      rw [List.length_append] at ends
      exact (Nat.add_right_cancel ends).symm)
  rw [startTagStep?, startTagLength?_startTag proper printable]
  simp only [found, named?, Option.getD_some, lower_name proper, read, List.take_left]
  have stripped : Text.strip ['>'] = ['>'] := by decide
  simp only [bind, Except.bind, closing, stripped, proper.markup]
  rfl

theorem step?_startTag (proper : ElementName name)
    (printable : ∀ pair ∈ attributes, pair.Printable) (rest : Text) :
    step? none (startTag name attributes ++ rest) =
      .ok (some ⟨some (.startTag name (attributesOf attributes) (startTag name attributes)),
        (startTag name attributes).length, none⟩) := by
  obtain ⟨c, tail, rfl, letter, -⟩ := proper.exists_cons
  have read := startTagStep?_startTag proper printable rest
  rw [step?, if_pos (by rfl)]
  change (angleStep? none ('<' :: c :: _)).bind _ = _
  rw [angleStep?_letter _ letter]
  change (startTagStep? (startTag (c :: tail) attributes ++ rest)).bind _ = _
  rw [read]
  rfl

/-- A printed end tag is read in one step. -/
theorem step?_endTag (proper : ElementName name) (rest : Text) :
    step? none (endTag name ++ rest) =
      .ok (some ⟨some (.endTag name), (endTag name).length, none⟩) := by
  have angle : throughAngle? (endTag name ++ rest) = some (endTag name).length := by
    have sign : '>' ∉ name := fun member => absurd (proper.letters _ member) (by decide)
    have behind : (endTag name ++ rest).drop 2 = name ++ '>' :: rest := by simp [endTag]
    rw [throughAngle?, behind, Text.offsetOf?_of_not_mem sign]
    simp [endTag]
  obtain ⟨c, tail, split, letter, letters⟩ := proper.exists_cons
  have written : endTag name ++ rest = '<' :: '/' :: (c :: tail ++ '>' :: rest) := by
    simp [endTag, split]
  have visible : Text.isBlank c = false :=
    isBlank_of_isElementChar (proper.letters c (by rw [split]; exact List.mem_cons_self))
  -- The name goes up to the sign at the end, which is no part of a name.
  have inner : Picks (seq (one Text.isLetter) (many fun c =>
      Text.isLetter c || ('0' ≤ c && c ≤ '9') || among "-.:_" c))
      ⟨some '/', c :: tail ++ '>' :: rest⟩ ⟨tail.getLast?.or (some c), '>' :: rest⟩ [] := by
    refine picks_seq (picks_one letter) (picks_many tail (fun d member => ?_) ?_)
    · have small := letters d member
      simp only [isElementChar, Bool.or_eq_true, beq_iff_eq] at small
      rcases small with (small | digit) | rfl
      · simp only [Text.isLetter, small, Bool.true_or]
      · simp only [digit, Bool.or_true, Bool.true_or]
      · decide
    · rintro d ⟨⟩
      decide
  have picks : Picks plainEndTag ⟨none, endTag name ++ rest⟩ ⟨some '>', rest⟩ [("name", name)] := by
    rw [written, split]
    exact picks_seq (picks_literal ['<', '/']) (picks_seq (picks_no_blanks visible _)
      (picks_seq (picks_capture inner) (picks_seq (picks_no_blanks (by decide) _)
        (picks_literal ['>']))))
  obtain ⟨hit, found, finds⟩ := exists_leading?_of_picks picks
  have group : hit.group "name" = name := by
    rw [Hit.group, finds.group?_eq]
    rfl
  have read : endTagStep? none (endTag name ++ rest) =
      some ⟨some (.endTag name), (endTag name).length, none⟩ := by
    rw [endTagStep?, angle, found]
    simp only [Option.map_some, group, lower_name proper]
  rw [step?, if_pos (by rfl)]
  change (Except.ok (endTagStep? none (endTag name ++ rest))).bind _ = _
  rw [read]
  rfl

/-- Text without tags is read in one step, up to the next tag. -/
theorem step?_text {t : Text} (some : t ≠ []) (sign : '<' ∉ t) (reference : '&' ∉ t)
    (rest : Text) :
    step? none (t ++ '<' :: rest) =
      .ok (Option.some ⟨Option.some (.text t), t.length, none⟩) := by
  have run : (t ++ '<' :: rest).takeWhile (· != '<') = t := by
    rw [List.takeWhile_append_of_pos fun c member => ?_]
    · simp
    · exact bne_iff_ne.mpr (ne_of_mem_of_not_mem member sign)
  have head : ¬ (t ++ '<' :: rest).head? = Option.some '<' := by
    obtain ⟨c, t, rfl⟩ := List.exists_cons_of_ne_nil some
    intro same
    exact sign (List.mem_cons.mpr (.inl (Option.some.inj same).symm))
  rw [step?, if_neg head, run]
  dsimp only
  rw [decoded_of_not_mem reference]
  rfl

end SfcLint.Printing
