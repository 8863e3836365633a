/-
# Where the tokenizer stops

References can be replaced in every text but one: a text in which the number of a character has more
decimal digits than are read. No reference holds an ampersand, so every such number stops the
reading, wherever it stands. The tokenizer fails in two ways: at a marked section of no known kind,
and where it replaces the references of a text or of an attribute's value and the number of a
character is too long. So it is known for each place of a text whether the reading goes on from it.
-/

import SfcLint.Proofs.Markup.Reference
import SfcLint.Proofs.Markup.Step

namespace SfcLint.Markup

/-! ## References that are too long -/

variable {t u v : Text} {c : Char}

/-- Somewhere in the text the number of a character has more than 4300 decimal digits. -/
def LongReference (t : Text) : Prop :=
  ∃ digits : Text, digits.all isTenDigit = true ∧ 4300 < digits.length ∧
    '&' :: '#' :: digits <:+: t

/-- The text goes on with a number that is too long. -/
theorem fails_reference?_iff :
    (reference? t).Fails ↔
      ∃ digits : Text, digits.all isTenDigit = true ∧ 4300 < digits.length ∧
        '#' :: digits <+: t := by
  constructor
  · rintro ⟨failure, failed⟩
    by_cases number : t.head? = some '#'
    · obtain ⟨rest, rfl⟩ := List.head?_eq_some_iff.mp number
      rcases rest with _ | ⟨x, rest⟩
      · simp [reference?] at failed
      · rw [reference?_number] at failed
        split at failed
        · refine ⟨(x :: rest).takeWhile isTenDigit, List.all_takeWhile, ?_, ?_⟩
          · rw [Text.numeral] at failed
            split at failed
            next long => exact long
            next => simp [bind, Except.bind, pure, Except.pure] at failed
          · exact List.cons_prefix_cons.mpr ⟨rfl, List.takeWhile_prefix _⟩
        · split at failed <;> contradiction
    · rw [reference?_name number] at failed
      split at failed <;> contradiction
  · rintro ⟨digits, all, long, rest, rfl⟩
    rcases digits with _ | ⟨x, digits⟩
    · simp at long
    -- The number that is read has these digits and those that follow them, so it is too long as
    -- well.
    · have whole : ((x :: digits) ++ rest).takeWhile isTenDigit =
          (x :: digits) ++ rest.takeWhile isTenDigit :=
        List.takeWhile_append_of_pos (List.all_eq_true.mp all)
      have longer : 4300 < ((x :: (digits ++ rest)).takeWhile isTenDigit).length := by
        rw [← List.cons_append, whole, List.length_append]
        omega
      have some? : (!((x :: (digits ++ rest)).takeWhile isTenDigit).isEmpty) = true := by
        rw [Bool.not_eq_true', List.isEmpty_eq_false_iff_exists_mem]
        exact List.exists_mem_of_length_pos (by omega)
      refine ⟨⟨((x :: (digits ++ rest)).takeWhile isTenDigit).length⟩, ?_⟩
      rw [List.cons_append, List.cons_append, reference?_number, if_pos some?, Text.numeral,
        if_pos longer]
      rfl

theorem longReference_cons :
    LongReference (c :: t) ↔
      (c = '&' ∧ (reference? t).Fails) ∨ LongReference t := by
  simp only [LongReference, List.infix_cons_iff, fails_reference?_iff]
  constructor
  · rintro ⟨digits, all, long, starts | within⟩
    · obtain ⟨same, starts⟩ := List.cons_prefix_cons.mp starts
      exact .inl ⟨same.symm, digits, all, long, starts⟩
    · exact .inr ⟨digits, all, long, within⟩
  · rintro (⟨rfl, digits, all, long, starts⟩ | ⟨digits, all, long, within⟩)
    · exact ⟨digits, all, long, .inl (List.cons_prefix_cons.mpr ⟨rfl, starts⟩)⟩
    · exact ⟨digits, all, long, .inr within⟩

theorem not_longReference_nil : ¬ LongReference [] := by
  rintro ⟨digits, -, -, within⟩
  simp at within

theorem longReference_append_plain (plain : '&' ∉ u) :
    LongReference (u ++ v) ↔ LongReference v := by
  induction u with
  | nil => rfl
  | cons c u ih =>
    rw [List.mem_cons, not_or] at plain
    rw [List.cons_append, longReference_cons, ih plain.2, or_iff_right]
    rintro ⟨rfl, -⟩
    exact plain.1 rfl

/-- A reference holds no ampersand. -/
theorem plain_of_reference? {characters : Text} {length : Nat}
    (found : reference? t = .ok (some (characters, length))) : '&' ∉ t.take length := by
  -- A row of characters that are no ampersand, perhaps with a semicolon behind it.
  have row {front : Text} (starts : front <+: t) (plain : '&' ∉ front) :
      '&' ∉ t.take (withSemicolon front.length t) := by
    intro member
    rcases take_withSemicolon_mem starts member with member | same
    · exact plain member
    · exact absurd same (by decide)
  by_cases number : t.head? = some '#'
  · obtain ⟨rest, rfl⟩ := List.head?_eq_some_iff.mp number
    rcases rest with _ | ⟨x, rest⟩
    · simp [reference?] at found
    · rw [reference?_number] at found
      split at found
      · obtain ⟨code, -, made⟩ := Except.bind_eq_ok_iff.mp found
        obtain ⟨-, rfl⟩ := Prod.mk.inj (Option.some.inj (Except.pure_eq_ok_iff.mp made))
        have starts : '#' :: (x :: rest).takeWhile isTenDigit <+: '#' :: x :: rest :=
          List.cons_prefix_cons.mpr ⟨rfl, List.takeWhile_prefix _⟩
        refine row starts ?_
        rw [List.mem_cons, not_or]
        refine ⟨by decide, fun member => ?_⟩
        exact absurd (List.all_eq_true.mp List.all_takeWhile _ member) (by decide)
      · split at found
        next sixteen =>
          obtain ⟨-, rfl⟩ := Prod.mk.inj (Option.some.inj (Except.ok.inj found))
          have starts : '#' :: x :: rest.takeWhile isSixteenDigit <+: '#' :: x :: rest :=
            List.cons_prefix_cons.mpr
              ⟨rfl, List.cons_prefix_cons.mpr ⟨rfl, List.takeWhile_prefix _⟩⟩
          refine row starts ?_
          rw [Bool.and_eq_true, Bool.or_eq_true, beq_iff_eq, beq_iff_eq] at sixteen
          rw [List.mem_cons, List.mem_cons, not_or, not_or]
          refine ⟨by decide, ?_, fun member => ?_⟩
          · rintro rfl
            exact absurd sixteen.1 (by decide)
          · exact absurd (List.all_eq_true.mp List.all_takeWhile _ member) (by decide)
        next => simp at found
  · rw [reference?_name number] at found
    split at found
    · simp at found
    · obtain ⟨-, rfl⟩ := Prod.mk.inj (Option.some.inj (Except.ok.inj found))
      refine row (leadingName_starts t) fun member => ?_
      exact not_amp_of_isReferenceChar (List.all_eq_true.mp List.all_takeWhile _ member) rfl

/-- References can be replaced unless one of them is too long. -/
theorem fails_unescape_iff : (unescape t).Fails ↔ LongReference t := by
  induction size : t.length using Nat.strongRecOn generalizing t with
  | ind n ih =>
  subst size
  cases t with
  | nil => exact iff_of_false Except.not_fails_ok not_longReference_nil
  | cons c t =>
    have letter (plain : c = '&' → reference? t = .ok none) :
        (unescape (c :: t)).Fails ↔ LongReference (c :: t) := by
      rw [longReference_cons, ← ih t.length (by simp) rfl, unescape_letter plain,
        Except.fails_map_iff, or_iff_right]
      rintro ⟨same, failed⟩
      rw [plain same] at failed
      exact Except.not_fails_ok failed
    by_cases sign : c = '&'
    · subst sign
      rcases read : reference? t with failure | _ | ⟨characters, length⟩
      · rw [longReference_cons, read, unescape, unescapeFrom_failing read]
        exact iff_of_true Except.fails_error (.inl ⟨rfl, Except.fails_error⟩)
      · exact letter fun _ => read
      · have later := ih (t.drop length).length
          (by simp only [List.length_drop, List.length_cons]; omega) rfl
        have behind := longReference_append_plain (v := t.drop length) (plain_of_reference? read)
        rw [List.take_append_drop] at behind
        rw [longReference_cons, read, behind, ← later, unescape_reference read,
          Except.fails_map_iff, or_iff_right]
        exact fun failed => Except.not_fails_ok failed.2
    · exact letter fun same => absurd same sign

open Pattern

variable {element : Option Text}

theorem fails_decoded_iff : (decoded t).Fails ↔ LongReference t := by
  rw [decoded, Except.fails_mapError_iff, fails_unescape_iff]

/-! ## Marked sections -/

/-- The kinds of marked sections. -/
def sectionKinds : List String :=
  ["temp", "cdata", "ignore", "include", "rcdata"] ++ ["if", "else", "endif"]

/-- The text goes on after the sign of a marked section, but not with a known kind: there is no
name, or more text after a name that is no kind. -/
def AlienSection (t : Text) : Prop :=
  t.drop 3 ≠ [] ∧ ∀ hit, sectionName.leading? (t.drop 3) = some hit →
    hit.rest ≠ [] ∧ String.ofList (Text.lower (Text.strip hit.text)) ∉ sectionKinds

theorem fails_markedSectionStep?_iff : (markedSectionStep? t).Fails ↔ AlienSection t := by
  rw [markedSectionStep?, AlienSection]
  by_cases ended : t.drop 3 = []
  · simp [ended]
  · rw [if_neg (by simpa using ended)]
    cases sectionName.leading? (t.drop 3) with
    | none => simp [ended]
    | some hit =>
      by_cases last : hit.rest = []
      · simp [last]
      · simp only [List.isEmpty_iff, last, if_false, Option.some.injEq, forall_eq', ne_eq, ended,
          not_false_eq_true, true_and]
        split
        next known =>
          refine iff_of_false Except.not_fails_ok (not_not_intro ?_)
          exact List.mem_append_left _ (List.contains_iff_mem.mp known)
        next other =>
          split
          next known =>
            refine iff_of_false Except.not_fails_ok (not_not_intro ?_)
            exact List.mem_append_right _ (List.contains_iff_mem.mp known)
          next neither =>
            refine iff_of_true Except.fails_error fun member => ?_
            rw [List.contains_iff_mem] at other neither
            exact (List.mem_append.mp member).elim other neither

/-! ## Attributes -/

/-- The values of the attributes from a place in a start tag, as they are written. -/
def valuesFrom (stop : Nat) : Nat → Cursor → List Text
  | 0, _ => []
  | fuel + 1, cursor =>
      if cursor.offset < stop then
        match attributeItem.match? { cursor with captures := [] } some with
        | none => []
        | some next => (next.captured? "value").toList ++ valuesFrom stop fuel next
      else []

/-- The values of the attributes of the start tag at the start of the text, as they are written. -/
def startTagValues (t : Text) : List Text :=
  match startTagLength? t, (all ["<", capture "tag" tagName, attributeGap]).match? (.atStart t) some
    with
  | some length, some cursor => valuesFrom length length cursor
  | _, _ => []

theorem fails_attributesFrom_iff {stop fuel : Nat} {cursor : Cursor} :
    (attributesFrom stop fuel cursor).Fails ↔
      ∃ value ∈ valuesFrom stop fuel cursor, LongReference value := by
  induction fuel generalizing cursor with
  | zero => simp [attributesFrom, valuesFrom]
  | succ fuel ih =>
    rw [attributesFrom, valuesFrom]
    split
    · cases attributeItem.match? { cursor with captures := [] } some with
      | none => simp
      | some next =>
        -- The value is replaced first, and then come the attributes behind it.
        have value : ((next.captured? "value").mapM decoded).Fails ↔
            ∃ value ∈ next.captured? "value", LongReference value := by
          simp only [Except.fails_optionMapM_iff, fails_decoded_iff]
        refine (Except.fails_bind_or fun read =>
          show _ ↔ ∃ value ∈ valuesFrom stop fuel next, LongReference value from ?_).trans ?_
        · simp [ih]
        · rw [value]
          simp [or_and_right, exists_or]
    · simp

theorem fails_startTagStep?_iff :
    (startTagStep? t).Fails ↔ ∃ value ∈ startTagValues t, LongReference value := by
  rw [startTagStep?, startTagValues]
  cases startTagLength? t with
  | none => simp
  | some length =>
    cases (all ["<", capture "tag" tagName, attributeGap]).match? (.atStart t) some with
    | none => simp
    | some cursor =>
      dsimp only
      rw [Except.fails_bind_iff, fails_attributesFrom_iff, or_iff_left]
      rintro ⟨read, -, failed⟩
      split at failed <;> exact Except.not_fails_pure failed

/-! ## Steps -/

/-- What the tokenizer comes to a stop at: a marked section of no known kind, or a number that is too
long, in a value of a start tag, in a tag that never ends and so is text, or in other text. -/
inductive Stops : Option Text → Text → Prop
  | alien {t : Text} : ['<', '!', '['] <+: t → AlienSection t → Stops none t
  | value {c : Char} {t value : Text} : Text.isLetter c = true →
      value ∈ startTagValues ('<' :: c :: t) → LongReference value → Stops none ('<' :: c :: t)
  | broken {t : Text} : t.head? = some '<' → angleStep? none t = .ok none →
      LongReference (t.take (brokenLength t)) → Stops none t
  | text {t : Text} : t.head? ≠ some '<' → LongReference (t.takeWhile (· != '<')) → Stops none t

theorem fails_declarationStep?_iff :
    (declarationStep? t).Fails ↔ ['<', '!', '['] <+: t ∧ AlienSection t := by
  rw [declarationStep?]
  split
  next comment =>
    refine iff_of_false Except.not_fails_ok fun section? => ?_
    obtain ⟨rest, rfl⟩ := List.isPrefixOf_iff_prefix.mp comment
    simp at section?
  next =>
    split
    next starts =>
      have sign : ['<', '!', '['] <+: t := List.isPrefixOf_iff_prefix.mp starts
      rw [fails_markedSectionStep?_iff]
      exact (and_iff_right sign).symm
    next other =>
      refine iff_of_false Except.not_fails_ok fun section? => ?_
      exact other (List.isPrefixOf_iff_prefix.mpr section?.1)

/-- Of what starts with its sign only marked sections and start tags fail. -/
theorem stops_of_fails_angleStep? (starts : t.head? = some '<')
    (failed : (angleStep? none t).Fails) :
    Stops none t := by
  rw [angleStep?.eq_def] at failed
  split at failed
  · exact absurd failed Except.not_fails_ok
  · obtain ⟨sign, alien⟩ := fails_declarationStep?_iff.mp failed
    exact .alien sign alien
  · exact absurd failed Except.not_fails_ok
  · split at failed
    next letter =>
      obtain ⟨value, member, long⟩ := fails_startTagStep?_iff.mp failed
      obtain rfl := Option.some.inj starts
      exact .value letter member long
    next => exact absurd failed Except.not_fails_ok
  · exact absurd failed Except.not_fails_ok

/-- The tokenizer stops at exactly these places. -/
theorem fails_step?_iff : (step? element t).Fails ↔ Stops element t := by
  constructor
  · intro failed
    rw [step?.eq_def] at failed
    split at failed
    · split at failed
      · exact absurd failed Except.not_fails_ok
      · split at failed <;> exact absurd failed Except.not_fails_ok
    · split at failed
      next starts =>
        rcases Except.fails_bind_iff.mp failed with opening | ⟨_ | step, opened, failed⟩
        · exact stops_of_fails_angleStep? starts opening
        · rw [Except.fails_bind_iff, fails_decoded_iff] at failed
          rcases failed with long | ⟨shown, -, failed⟩
          · exact .broken starts opened long
          · exact absurd failed Except.not_fails_pure
        · exact absurd failed Except.not_fails_pure
      next other =>
        rw [Except.fails_bind_iff, fails_decoded_iff] at failed
        rcases failed with long | ⟨shown, -, failed⟩
        · exact .text other long
        · exact absurd failed Except.not_fails_pure
  -- What the tokenizer stops at is read, or replaced, in this step, and the failure is passed on.
  · rintro (⟨sign, alien⟩ | @⟨c, t, value, letter, member, long⟩ | ⟨starts, opened, long⟩ |
      ⟨other, long⟩)
    · have declared := fails_declarationStep?_iff.mpr ⟨sign, alien⟩
      obtain ⟨rest, rfl⟩ := sign
      exact Except.fails_bind_iff.mpr (.inl declared)
    · have tagged := fails_startTagStep?_iff.mpr ⟨_, member, long⟩
      rw [← angleStep?_letter t letter] at tagged
      rw [step?, if_pos List.head?_cons, Except.fails_bind_iff]
      exact .inl tagged
    · rw [step?, if_pos starts, opened, Except.fails_bind_iff]
      refine .inr ⟨none, rfl, Except.fails_bind_iff.mpr (.inl ?_)⟩
      exact fails_decoded_iff.mpr long
    · rw [step?, if_neg other]
      exact Except.fails_bind_iff.mpr (.inl (fails_decoded_iff.mpr long))

end SfcLint.Markup
