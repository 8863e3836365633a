/-
# Steps of the tokenizer

Whatever the tokenizer reads, it moves on and stays inside the text, and a tag or a comment starts
with its sign. The text of a token shows what is written there. So the places between the steps are
known, and from each of them the rest of the tokens follows.
-/

import SfcLint.Markup.Token
import SfcLint.Proofs.Markup.Piece
import SfcLint.Proofs.Pattern.Hits
import SfcLint.Proofs.Text.Except

namespace SfcLint

theorem Text.offsetOf?_eq_some {part t : Text} {n : Nat} (found : offsetOf? part t = some n) :
    part <+: t.drop n := by
  induction t generalizing n with
  | nil =>
    rw [offsetOf?] at found
    split at found
    next empty =>
      rw [List.isEmpty_iff] at empty
      simp [empty]
    next => contradiction
  | cons c t ih =>
    rw [offsetOf?] at found
    split at found
    next starts =>
      obtain rfl := Option.some.inj found
      exact List.isPrefixOf_iff_prefix.mp starts
    next =>
      rw [Option.map_eq_some_iff] at found
      obtain ⟨m, found, rfl⟩ := found
      exact ih found

/-- A part that stands somewhere is found, there or earlier. -/
theorem Text.exists_offsetOf? {part t : Text} {n : Nat} (stands : part <+: t.drop n) :
    ∃ m, offsetOf? part t = some m ∧ m ≤ n := by
  induction t generalizing n with
  | nil =>
    rw [List.drop_nil, List.prefix_nil] at stands
    exact ⟨0, by rw [offsetOf?, stands]; rfl, Nat.zero_le n⟩
  | cons c t ih =>
    rw [offsetOf?]
    split
    · exact ⟨0, rfl, Nat.zero_le n⟩
    next other =>
      cases n with
      | zero => exact absurd (List.isPrefixOf_iff_prefix.mpr stands) other
      | succ n =>
        obtain ⟨m, found, first⟩ := ih stands
        exact ⟨m + 1, by rw [found]; rfl, Nat.succ_le_succ first⟩

theorem Text.lt_of_offsetOf?_eq_some {part t : Text} {n : Nat} (wanted : part ≠ [])
    (found : offsetOf? part t = some n) : n < t.length := by
  have stands := (offsetOf?_eq_some found).length_le
  have positive := List.length_pos_iff.mpr wanted
  rw [List.length_drop] at stands
  omega

/-- A sign is found where it stands first. -/
theorem Text.offsetOf?_of_not_mem {c : Char} {t : Text} (absent : c ∉ t) (rest : Text) :
    offsetOf? [c] (t ++ c :: rest) = some t.length := by
  induction t with
  | nil => simp [offsetOf?]
  | cons d t ih =>
    rw [List.mem_cons, not_or] at absent
    rw [List.cons_append, offsetOf?, if_neg (by simpa using absent.1), ih absent.2]
    rfl

theorem Text.offsetOf?_eq_none {c : Char} {t : Text} (absent : c ∉ t) : offsetOf? [c] t = none := by
  induction t with
  | nil => rfl
  | cons d t ih =>
    rw [List.mem_cons, not_or] at absent
    rw [offsetOf?, if_neg (by simpa using absent.1), ih absent.2]
    rfl

namespace Markup

open Pattern

variable {t : Text} {element : Option Text} {step : Step}

/-- What a token tells about the text from which it is read. -/
def TokenContent.Fits (t : Text) (length : Nat) : TokenContent → Prop
  | startTag _ _ raw => t.head? = some '<' ∧ raw = t.take length
  | selfClosing _ raw => t.head? = some '<' ∧ raw = t.take length
  | endTag _ => t.head? = some '<'
  | text shown => ∃ pieces, Showing (t.take length) pieces ∧ shownAs pieces = shown
  | comment _ => t.head? = some '<'

/-- The element with plain text in which the tokenizer is after a token, or after none. -/
def elementAfter (element : Option Text) : Option TokenContent → Option Text
  | some (.startTag name _ _) => if plainTextElements.contains name then some name else none
  | some (.text _) => element
  | _ => none

/-- The step moves on inside the text, its token fits, and only start tags and their end tags enter
and leave an element with plain text. -/
structure Step.Fits (element : Option Text) (t : Text) (step : Step) : Prop where
  onward : 0 < step.length
  within : step.length ≤ t.length
  content : ∀ content ∈ step.content, content.Fits t step.length
  next : step.element = elementAfter element step.content

theorem fits_text (t : Text) (length : Nat) :
    (TokenContent.text (t.take length)).Fits t length :=
  ⟨_, .inl rfl, shownAs_letters _⟩

theorem fits_decoded {length : Nat} {shown : Text} (found : decoded (t.take length) = .ok shown) :
    (TokenContent.text shown).Fits t length := by
  rw [decoded] at found
  cases unescaped : unescape (t.take length) with
  | error failure =>
    rw [unescaped] at found
    contradiction
  | ok result =>
    rw [unescaped] at found
    obtain ⟨pieces, cut, shows⟩ := unescape_eq_ok_iff.mp unescaped
    exact ⟨pieces, .inr cut, shows.trans (Except.ok.inj found)⟩

/-! ## What starts with its sign -/

theorem throughAngle?_eq_some {length : Nat} (found : throughAngle? t = some length) :
    3 ≤ length ∧ length ≤ t.length := by
  rw [throughAngle?, Option.map_eq_some_iff] at found
  obtain ⟨n, found, rfl⟩ := found
  have inside := Text.lt_of_offsetOf?_eq_some (by simp) found
  rw [List.length_drop] at inside
  omega

/-- A match that starts with a literal starts with its first character. -/
theorem leading?_literal_seq {front : Text} {p : Pattern} {hit : Hit}
    (found : (seq (literal front) p).leading? t = some hit) :
    front <+: t ∧ front.length ≤ hit.stop := by
  rw [leading?_eq] at found
  obtain ⟨next, member, rfl⟩ := hitAt?_eq_some found
  rw [ways, List.mem_flatMap] at member
  obtain ⟨middle, first, later⟩ := member
  rw [ways, Option.mem_toList, afterText_eq_some_iff] at first
  obtain ⟨taken, onward⟩ := exists_reaches_of_mem_ways later
  refine ⟨⟨middle.rest, ?_⟩, ?_⟩
  · simpa using first.1.rest.symm
  · have middlePlace := first.1.offset
    have nextPlace := onward.offset
    simp only [Cursor.within_offset, Nat.zero_add] at middlePlace
    rw [Hit.between, nextPlace, middlePlace]
    exact Nat.le_add_right _ _

/-- What is read where an end tag may stand: an end tag, and in an element with plain text only its
own; any other one in such an element, as text; an end tag without a name and with nothing else in
it, which is passed over; and one with something else in it, as a comment. -/
inductive EndTagReading (t : Text) (length : Nat) : Option Text → Step → Prop
  | endTag {element : Option Text} {name : Text} : (∀ outer ∈ element, name = outer) →
      EndTagReading t length element ⟨some (.endTag name), length, none⟩
  | text {name : Text} :
      EndTagReading t length (some name) ⟨some (.text (t.take length)), length, some name⟩
  | nothing : length = 3 → EndTagReading t length none ⟨none, length, none⟩
  | comment {shown : Text} : EndTagReading t length none ⟨some (.comment shown), length, none⟩

theorem endTagStep?_eq_some (found : endTagStep? element t = some step) :
    ∃ length, throughAngle? t = some length ∧ EndTagReading t length element step := by
  rw [endTagStep?, Option.map_eq_some_iff] at found
  obtain ⟨length, angle, rfl⟩ := found
  refine ⟨length, angle, ?_⟩
  split
  · exact .endTag (by simp)
  · split
    · exact .endTag (by simp)
    · exact .text
  · exact .text
  · split
    · exact .endTag (by simp)
    · split
      next three =>
        subst three
        exact .nothing rfl
      next => exact .comment

theorem endTagStep?_fits (starts : t.head? = some '<')
    (found : endTagStep? element t = some step) : step.Fits element t := by
  obtain ⟨length, angle, reading⟩ := endTagStep?_eq_some found
  obtain ⟨atLeast, within⟩ := throughAngle?_eq_some angle
  have positive : 0 < length := by omega
  cases reading with
  | endTag own => exact ⟨positive, within, by simp [TokenContent.Fits, starts], rfl⟩
  | text =>
    refine ⟨positive, within, ?_, rfl⟩
    rintro _ ⟨⟩
    exact fits_text t length
  | nothing three => exact ⟨positive, within, by simp, rfl⟩
  | comment => exact ⟨positive, within, by simp [TokenContent.Fits, starts], rfl⟩

theorem first?_bounds {p : Pattern} {hit : Hit} (found : p.first? t = some hit) :
    hit.start ≤ hit.stop ∧ hit.stop ≤ t.length := by
  obtain ⟨n, inside, here, -⟩ := first?_eq_some found
  obtain ⟨start, stop, -, within, -⟩ := hitAt?_within inside here
  exact ⟨by omega, within⟩

theorem commentStep?_fits (starts : ['<', '!', '-', '-'] <+: t)
    (found : commentStep? t = some step) : step.Fits none t := by
  rw [commentStep?, Option.map_eq_some_iff] at found
  obtain ⟨hit, found, rfl⟩ := found
  obtain ⟨-, within⟩ := first?_bounds found
  obtain ⟨rest, rfl⟩ := starts
  refine ⟨by simp, ?_, by simp [TokenContent.Fits], rfl⟩
  simp only [List.length_drop] at within
  simp only [List.length_append, List.length_cons, List.length_nil] at within ⊢
  omega

/-- A marked section is passed over up to what closes it. -/
theorem markedSectionStep?_eq_ok (found : markedSectionStep? t = .ok (some step)) :
    ∃ (closing : Pattern) (hit : Hit), closing.first? (t.drop 3) = some hit ∧
      step = ⟨none, hit.stop + 3, none⟩ := by
  have past {closing : Pattern}
      (found : (closing.first? (t.drop 3)).map
        (fun hit => (⟨none, hit.stop + 3, none⟩ : Step)) = some step) :
      ∃ (closing : Pattern) (hit : Hit), closing.first? (t.drop 3) = some hit ∧
        step = ⟨none, hit.stop + 3, none⟩ := by
    obtain ⟨hit, found, same⟩ := Option.map_eq_some_iff.mp found
    exact ⟨closing, hit, found, same.symm⟩
  rw [markedSectionStep?] at found
  split at found
  · simp at found
  · split at found
    · contradiction
    · split at found
      · simp at found
      · dsimp only at found
        split at found
        · exact past (Except.ok.inj found)
        · split at found
          · exact past (Except.ok.inj found)
          · contradiction

theorem markedSectionStep?_fits (starts : ['<', '!', '['] <+: t)
    (found : markedSectionStep? t = .ok (some step)) : step.Fits none t := by
  obtain ⟨closing, hit, closes, rfl⟩ := markedSectionStep?_eq_ok found
  obtain ⟨-, within⟩ := first?_bounds closes
  have length := starts.length_le
  simp only [List.length_drop, List.length_cons, List.length_nil] at within length
  exact ⟨by simp, by simp only; omega, by simp, rfl⟩

/-- What is read where a declaration may stand: a comment, a marked section, or what ends with the
next `>`, which is passed over or a comment. -/
inductive DeclarationReading (t : Text) : Step → Prop
  | comment {step : Step} : ['<', '!', '-', '-'] <+: t → commentStep? t = some step →
      DeclarationReading t step
  | markedSection {step : Step} : ['<', '!', '['] <+: t →
      markedSectionStep? t = .ok (some step) → DeclarationReading t step
  | passed {length : Nat} : throughAngle? t = some length →
      DeclarationReading t ⟨none, length, none⟩
  | other {length : Nat} {shown : Text} : throughAngle? t = some length →
      DeclarationReading t ⟨some (.comment shown), length, none⟩

theorem declarationStep?_eq_ok (found : declarationStep? t = .ok (some step)) :
    DeclarationReading t step := by
  rw [declarationStep?] at found
  split at found
  next comment =>
    exact .comment (List.isPrefixOf_iff_prefix.mp comment) (Except.ok.inj found)
  next =>
    split at found
    next marked => exact .markedSection (List.isPrefixOf_iff_prefix.mp marked) found
    next =>
      obtain ⟨length, angle, rfl⟩ := Option.map_eq_some_iff.mp (Except.ok.inj found)
      split
      · exact .passed angle
      · exact .other angle

theorem declarationStep?_fits (starts : t.head? = some '<')
    (found : declarationStep? t = .ok (some step)) : step.Fits none t := by
  cases declarationStep?_eq_ok found with
  | comment sign read => exact commentStep?_fits sign read
  | markedSection sign read => exact markedSectionStep?_fits sign read
  | passed angle =>
    obtain ⟨atLeast, within⟩ := throughAngle?_eq_some angle
    exact ⟨by simp only; omega, within, by simp, rfl⟩
  | other angle =>
    obtain ⟨atLeast, within⟩ := throughAngle?_eq_some angle
    exact ⟨by simp only; omega, within, by simp [TokenContent.Fits, starts], rfl⟩

/-! ## Start tags -/

theorem startTagLength?_eq_some {length : Nat} (found : startTagLength? t = some length) :
    t.head? = some '<' ∧ 0 < length ∧ length ≤ t.length := by
  rw [startTagLength?, Option.bind_eq_some_iff] at found
  obtain ⟨hit, extent, found⟩ := found
  obtain ⟨sign, atLeast⟩ := leading?_literal_seq extent
  obtain ⟨-, stop, split, within⟩ := leading?_eq_some extent
  have lengths := congrArg List.length split
  rw [List.length_append] at lengths
  have starts : t.head? = some '<' := by
    obtain ⟨rest, rfl⟩ := sign
    rfl
  refine ⟨starts, ?_⟩
  have positive : 1 ≤ hit.stop := atLeast
  split at found
  next _ rest =>
    obtain rfl := Option.some.inj found
    simp only [rest, List.length_cons] at lengths
    omega
  next _ rest =>
    obtain rfl := Option.some.inj found
    simp only [rest, List.length_cons] at lengths
    omega
  · contradiction
  · split at found
    · contradiction
    · obtain rfl := Option.some.inj found
      omega

theorem startTagStep?_fits (found : startTagStep? t = .ok (some step)) : step.Fits none t := by
  rw [startTagStep?] at found
  split at found
  · simp at found
  next length extent =>
    obtain ⟨starts, onward, within⟩ := startTagLength?_eq_some extent
    split at found
    · simp at found
    next cursor _ =>
      obtain ⟨result, -, found⟩ := Except.bind_eq_ok_iff.mp found
      dsimp only at found
      split at found
      · obtain rfl := Option.some.inj (Except.pure_eq_ok_iff.mp found)
        exact ⟨onward, within, by simp [TokenContent.Fits, starts], rfl⟩
      · obtain rfl := Option.some.inj (Except.pure_eq_ok_iff.mp found)
        exact ⟨onward, within, by simp [TokenContent.Fits, starts], rfl⟩
      · obtain rfl := Option.some.inj (Except.pure_eq_ok_iff.mp found)
        refine ⟨onward, within, ?_, rfl⟩
        rintro _ ⟨⟩
        exact fits_text t length

/-! ## Every step -/

theorem angleStep?_cons {c : Char} (t : Text) (slash : c ≠ '/') (bang : c ≠ '!')
    (query : c ≠ '?') :
    angleStep? none ('<' :: c :: t) =
      if Text.isLetter c then startTagStep? ('<' :: c :: t)
      else .ok (some ⟨some (.text ['<']), 1, none⟩) := by
  rw [angleStep?]
  all_goals simp_all

/-- A sign before a letter opens a start tag. -/
theorem angleStep?_letter {c : Char} (t : Text) (letter : Text.isLetter c = true) :
    angleStep? none ('<' :: c :: t) = startTagStep? ('<' :: c :: t) := by
  have other {sign : Char} (symbol : Text.isLetter sign = false) : c ≠ sign := by
    rintro rfl
    simp [symbol] at letter
  rw [angleStep?_cons t (other (by decide)) (other (by decide)) (other (by decide)), if_pos letter]

theorem angleStep?_fits (starts : t.head? = some '<')
    (found : angleStep? none t = .ok (some step)) : step.Fits none t := by
  rw [angleStep?.eq_def] at found
  split at found
  · exact endTagStep?_fits starts (Except.ok.inj found)
  · exact declarationStep?_fits starts found
  · have found := Except.ok.inj found
    rw [Option.map_eq_some_iff] at found
    obtain ⟨length, angle, rfl⟩ := found
    obtain ⟨atLeast, within⟩ := throughAngle?_eq_some angle
    exact ⟨by simp only; omega, within, by simp, rfl⟩
  · split at found
    · exact startTagStep?_fits found
    · obtain rfl := Option.some.inj (Except.ok.inj found)
      obtain rfl := Option.some.inj starts
      refine ⟨by simp, by simp, ?_, rfl⟩
      rintro _ ⟨⟩
      exact fits_text _ 1
  next other =>
    obtain rfl := Option.some.inj (Except.ok.inj found)
    have short : t = ['<'] := by
      rcases t with _ | ⟨sign, _ | ⟨c, rest⟩⟩
      · simp at starts
      · simpa using starts
      · exact absurd rfl (other sign c rest)
    subst short
    refine ⟨by simp, by simp, ?_, rfl⟩
    rintro _ ⟨⟩
    exact fits_text _ 1

theorem brokenLength_bounds (some : t ≠ []) : 0 < brokenLength t ∧ brokenLength t ≤ t.length := by
  have positive := List.length_pos_iff.mpr some
  rw [brokenLength]
  split
  next n found =>
    have inside := Text.lt_of_offsetOf?_eq_some (by simp) found
    rw [List.length_drop] at inside
    omega
  · split
    next n found =>
      have inside := Text.lt_of_offsetOf?_eq_some (by simp) found
      rw [List.length_drop] at inside
      omega
    · omega

/-- What a step reads. In an element with plain text that is the text up to what looks like its end
tag, or what stands there. Outside that is what starts with its sign, such a thing that never ends,
as text, and the text up to the next sign. -/
inductive Reading (t : Text) : Option Text → Step → Prop
  | enclosed {name : Text} {hit : Hit} : (elementEnd name).first? t = some hit → 0 < hit.start →
      Reading t (some name) ⟨some (.text (t.take hit.start)), hit.start, some name⟩
  | leaving {name : Text} {hit : Hit} {step : Step} : (elementEnd name).first? t = some hit →
      hit.start = 0 → endTagStep? (some name) t = some step → Reading t (some name) step
  | angle {step : Step} : t.head? = some '<' → angleStep? none t = .ok (some step) →
      Reading t none step
  | broken {shown : Text} : t.head? = some '<' → angleStep? none t = .ok none →
      decoded (t.take (brokenLength t)) = .ok shown →
        Reading t none ⟨some (.text shown), brokenLength t, none⟩
  | run {shown : Text} : t.head? ≠ some '<' → decoded (t.takeWhile (· != '<')) = .ok shown →
      Reading t none ⟨some (.text shown), (t.takeWhile (· != '<')).length, none⟩

theorem reading_of_step? (found : step? element t = .ok (some step)) : Reading t element step := by
  rw [step?.eq_def] at found
  split at found
  next name =>
    split at found
    · simp at found
    next hit ends =>
      split at found
      next later =>
        obtain rfl := Option.some.inj (Except.ok.inj found)
        exact .enclosed ends later
      next first => exact .leaving ends (Nat.eq_zero_of_not_pos first) (Except.ok.inj found)
  next =>
    split at found
    next starts =>
      obtain ⟨result, opened, found⟩ := Except.bind_eq_ok_iff.mp found
      cases result with
      | some result =>
        obtain rfl := Option.some.inj (Except.pure_eq_ok_iff.mp found)
        exact .angle starts opened
      | none =>
        obtain ⟨shown, shows, found⟩ := Except.bind_eq_ok_iff.mp found
        obtain rfl := Option.some.inj (Except.pure_eq_ok_iff.mp found)
        exact .broken starts opened shows
    next other =>
      obtain ⟨shown, shows, found⟩ := Except.bind_eq_ok_iff.mp found
      obtain rfl := Option.some.inj (Except.pure_eq_ok_iff.mp found)
      exact .run other shows

theorem takeWhile_sign_ne_nil (nonempty : t ≠ []) (other : t.head? ≠ some '<') :
    t.takeWhile (· != '<') ≠ [] := by
  cases t with
  | nil => exact absurd rfl nonempty
  | cons c t =>
    have plain : c ≠ '<' := by simpa using other
    simp [plain]

/-- Every step moves on inside the text, and its token fits. -/
theorem step?_fits (nonempty : t ≠ []) (found : step? element t = .ok (some step)) :
    step.Fits element t := by
  cases reading_of_step? found with
  | @enclosed _ hit ends later =>
    obtain ⟨ordered, within⟩ := first?_bounds ends
    refine ⟨later, Nat.le_trans ordered within, ?_, rfl⟩
    rintro _ ⟨⟩
    exact fits_text t hit.start
  | leaving ends first read =>
    -- What looks like the end tag stands at the beginning.
    obtain ⟨n, inside, here, -⟩ := first?_eq_some ends
    obtain ⟨start, -⟩ := hitAt?_within inside here
    obtain rfl : n = 0 := start.symm.trans first
    obtain ⟨⟨rest, rfl⟩, -⟩ := leading?_literal_seq here
    exact endTagStep?_fits rfl read
  | angle starts read => exact angleStep?_fits starts read
  | broken starts never shows =>
    obtain ⟨onward, within⟩ := brokenLength_bounds nonempty
    refine ⟨onward, within, ?_, rfl⟩
    rintro _ ⟨⟩
    exact fits_decoded shows
  | run other shows =>
    have run : t.takeWhile (· != '<') = t.take (t.takeWhile (· != '<')).length :=
      List.prefix_iff_eq_take.mp (List.takeWhile_prefix _)
    refine ⟨List.length_pos_iff.mpr (takeWhile_sign_ne_nil nonempty other),
      (List.takeWhile_prefix _).length_le, ?_, rfl⟩
    rintro _ ⟨⟩
    rw [run] at shows
    exact fits_decoded shows

end Markup

end SfcLint
