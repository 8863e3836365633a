/-
# Blanks

Blanks stand between words and are no part of one. A text is stripped of those at its two ends,
and keeps all that stands between its first and its last other character.
-/

import SfcLint.Text.Word

namespace SfcLint.Text

variable {t front back : Text} {c : Char}

theorem toNat_of_isLetter (letter : isLetter c = true) :
    97 ≤ c.toNat ∧ c.toNat ≤ 122 ∨ 65 ≤ c.toNat ∧ c.toNat ≤ 90 := by
  simp only [isLetter, Char.le_def, UInt32.le_iff_toNat_le, Bool.or_eq_true, Bool.and_eq_true,
    decide_eq_true_eq] at letter
  exact letter

theorem isNameChar_of_isNameStart {c : Char} (starts : isNameStart c = true) :
    isNameChar c = true := by
  have letter (letter : isLetter c = true) : isAlphanumeric c = true := by
    have bounds := toNat_of_isLetter letter
    have small : c.toNat < 128 := by omega
    rw [isAlphanumeric, if_pos small]
    change ((decide ('A'.val ≤ c.val ∧ c.val ≤ 'Z'.val) ||
      (decide ('a'.val ≤ c.val) && decide (c.val ≤ 'z'.val))) || c.isDigit) = true
    simp only [Bool.or_eq_true, Bool.and_eq_true, decide_eq_true_eq, UInt32.le_iff_toNat_le]
    exact .inl bounds.symm
  simp only [isNameStart, isNameChar, isWordChar, Bool.or_eq_true] at starts ⊢
  rcases starts with (isLetter | underscore) | dollar
  · exact .inl (.inl (letter isLetter))
  · exact .inl (.inr underscore)
  · exact .inr dollar

theorem isNameChar_of_isBlank (blank : isBlank c = true) : isNameChar c = false := by
  have known : ∀ code ∈ [9, 10, 11, 12, 13, 28, 29, 30, 31, 32, 0x85, 0xa0, 0x1680, 0x2000, 0x2001,
      0x2002, 0x2003, 0x2004, 0x2005, 0x2006, 0x2007, 0x2008, 0x2009, 0x200a, 0x2028, 0x2029,
      0x202f, 0x205f, 0x3000], isNameChar (Char.ofNat code) = false := by
    decide +kernel
  have listed := known c.toNat (by
    simp only [isBlank, Bool.or_eq_true, Bool.and_eq_true, decide_eq_true_eq,
      beq_iff_eq] at blank
    simp only [List.mem_cons, List.not_mem_nil, or_false]
    omega)
  rwa [Char.ofNat_toNat] at listed

theorem isWordChar_of_isBlank (blank : isBlank c = true) : isWordChar c = false := by
  have other := isNameChar_of_isBlank blank
  rw [isNameChar, Bool.or_eq_false_iff] at other
  exact other.1

theorem isBlank_space : ∀ d ∈ [' '], isBlank d = true :=
  List.forall_mem_singleton.mpr (by decide)

theorem not_mem_of_blanks (visible : isBlank c = false) (blank : ∀ d ∈ t, isBlank d = true) :
    c ∉ t := by
  intro member
  rw [blank c member] at visible
  contradiction

/-! ## At the start -/

theorem exists_blanks_stripStart (t : Text) :
    ∃ blanks, (∀ c ∈ blanks, isBlank c = true) ∧ t = blanks ++ stripStart t :=
  ⟨t.takeWhile isBlank, fun _ member => List.all_eq_true.mp List.all_takeWhile _ member,
    List.takeWhile_append_dropWhile.symm⟩

theorem stripStart_blanks (blank : ∀ c ∈ front, isBlank c = true) (t : Text) :
    stripStart (front ++ t) = stripStart t :=
  List.dropWhile_append_of_pos blank

theorem stripStart_cons_of_not_blank (visible : isBlank c = false) (t : Text) :
    stripStart (c :: t) = c :: t :=
  List.dropWhile_cons_of_neg (by rw [visible]; decide)

theorem stripStart_eq_self (visible : ∀ c ∈ t.head?, isBlank c = false) : stripStart t = t := by
  cases t with
  | nil => rfl
  | cons c t => exact stripStart_cons_of_not_blank (visible c rfl) t

theorem stripStart_head (t : Text) :
    stripStart t = [] ∨ ∃ c rest, stripStart t = c :: rest ∧ isBlank c = false := by
  have head := List.head?_dropWhile_not isBlank t
  rw [stripStart]
  cases stripped : t.dropWhile isBlank with
  | nil => exact .inl rfl
  | cons c rest =>
    rw [stripped] at head
    exact .inr ⟨c, rest, rfl, head⟩

/-- Nothing is stripped behind the first character that is not blank. -/
theorem stripStart_append (some : stripStart front ≠ []) (back : Text) :
    stripStart (front ++ back) = stripStart front ++ back := by
  obtain ⟨blanks, blank, split⟩ := exists_blanks_stripStart front
  rcases stripStart_head front with none | ⟨c, rest, stripped, visible⟩
  · exact absurd none some
  · rw [stripped] at split ⊢
    rw [split, List.append_assoc, stripStart_blanks blank, List.cons_append,
      stripStart_cons_of_not_blank visible]

/-! ## At the end -/

theorem stripEnd_cons (c : Char) (t : Text) :
    stripEnd (c :: t) = if (stripEnd t).isEmpty && isBlank c then [] else c :: stripEnd t := rfl

theorem stripEnd_prefix (t : Text) : stripEnd t <+: t := by
  induction t with
  | nil => exact List.nil_prefix
  | cons c t ih =>
    rw [stripEnd_cons]
    split
    · exact List.nil_prefix
    · exact (List.prefix_cons_inj c).mpr ih

/-- Nothing is stripped before the last character that is not blank. -/
theorem stripEnd_append (visible : isBlank c = false) (front back : Text) :
    stripEnd (front ++ c :: back) = front ++ c :: stripEnd back := by
  induction front with
  | nil => rw [List.nil_append, stripEnd_cons, visible, Bool.and_false, if_neg (by decide),
      List.nil_append]
  | cons d front ih =>
    rw [List.cons_append, stripEnd_cons, ih, List.isEmpty_eq_false_iff.mpr (by simp),
      Bool.false_and, if_neg (by decide), List.cons_append]

theorem not_isBlank_of_getLast?_stripEnd (last : (stripEnd t).getLast? = some c) :
    isBlank c = false := by
  induction t with
  | nil => contradiction
  | cons d t ih =>
    rw [stripEnd_cons] at last
    split at last
    · contradiction
    next visible =>
      cases stripped : stripEnd t with
      | nil =>
        rw [stripped, List.isEmpty_nil, Bool.true_and, Bool.not_eq_true] at visible
        rw [stripped] at last
        obtain rfl := Option.some.inj last
        exact visible
      | cons e rest =>
        rw [stripped, List.getLast?_cons_cons, ← stripped] at last
        exact ih last

theorem exists_blanks_stripEnd (t : Text) :
    ∃ blanks, (∀ c ∈ blanks, isBlank c = true) ∧ t = stripEnd t ++ blanks := by
  induction t with
  | nil => exact ⟨[], by simp, rfl⟩
  | cons c t ih =>
    obtain ⟨blanks, blank, split⟩ := ih
    rw [stripEnd_cons]
    split
    next stripped =>
      -- Nothing is left behind the character, and it is blank itself.
      rw [Bool.and_eq_true, List.isEmpty_iff] at stripped
      rw [stripped.1, List.nil_append] at split
      exact ⟨c :: blanks, List.forall_mem_cons.mpr ⟨stripped.2, blank⟩, by rw [split]; rfl⟩
    next => exact ⟨blanks, blank, congrArg (c :: ·) split⟩

/-! ## At both ends -/

theorem exists_blanks_strip (t : Text) :
    ∃ front back, (∀ c ∈ front, isBlank c = true) ∧ (∀ c ∈ back, isBlank c = true) ∧
      t = front ++ (strip t ++ back) ∧ front.length = blankWidth t := by
  obtain ⟨back, blank, split⟩ := exists_blanks_stripEnd (stripStart t)
  refine ⟨t.takeWhile isBlank, back, ?_, blank, ?_, rfl⟩
  · intro c member
    exact List.all_eq_true.mp List.all_takeWhile c member
  · rw [strip, ← split]
    exact List.takeWhile_append_dropWhile.symm

/-- A text that holds something and has no blanks around it. -/
structure Trimmed (t : Text) : Prop where
  nonempty : t ≠ []
  ends : ∀ c, t.head? = some c ∨ t.getLast? = some c → isBlank c = false

theorem trimmed_strip (some : strip t ≠ []) : Trimmed (strip t) where
  nonempty := some
  ends := by
    rintro c (first | last)
    · obtain ⟨rest, stripped⟩ := List.head?_eq_some_iff.mp first
      have front : c :: rest <+: stripStart t := stripped ▸ stripEnd_prefix (stripStart t)
      rcases stripStart_head t with none | ⟨d, later, starts, visible⟩
      · rw [none, List.prefix_nil] at front
        contradiction
      · rw [starts, List.cons_prefix_cons] at front
        exact front.1 ▸ visible
    · exact not_isBlank_of_getLast?_stripEnd last

theorem trimmed_of_ends {rest : Text} {first last : Char} (starts : t = first :: rest)
    (ends : t = front ++ [last]) (visible : isBlank first = false)
    (visible' : isBlank last = false) : Trimmed t where
  nonempty := by simp [starts]
  ends := by
    rintro c (here | here)
    · rw [starts] at here
      exact Option.some.inj here ▸ visible
    · rw [ends, List.getLast?_concat] at here
      exact Option.some.inj here ▸ visible'

theorem trimmed_between {first last : Char} (visible : isBlank first = false)
    (visible' : isBlank last = false) (t : Text) : Trimmed (first :: (t ++ [last])) :=
  trimmed_of_ends rfl (List.cons_append ..).symm visible visible'

theorem Trimmed.exists_concat (trimmed : Trimmed t) :
    ∃ front last, t = front ++ [last] ∧ isBlank last = false := by
  rcases List.eq_nil_or_concat t with none | ⟨front, last, split⟩
  · exact absurd none trimmed.nonempty
  · refine ⟨front, last, split.trans List.concat_eq_append, trimmed.ends last (.inr ?_)⟩
    rw [split, List.concat_eq_append, List.getLast?_concat]

/-- Wherever a trimmed text is cut, something visible is left. -/
theorem Trimmed.exists_visible (trimmed : Trimmed (front ++ back)) (held : back ≠ []) :
    ∃ c ∈ back, isBlank c = false := by
  refine ⟨back.getLast held, List.getLast_mem held, trimmed.ends _ (.inr ?_)⟩
  rw [List.getLast?_append, List.getLast?_eq_some_getLast held, Option.some_or]

/-- No blank stands where a trimmed text begins, whatever follows it. -/
theorem Trimmed.not_isBlank_head? (trimmed : Trimmed t) (rest : Text) :
    ∀ c ∈ (t ++ rest).head?, isBlank c = false := by
  intro c first
  obtain ⟨d, later, rfl⟩ := List.exists_cons_of_ne_nil trimmed.nonempty
  exact trimmed.ends c (.inl first)

/-- Nothing is stripped from a text without blanks around it. -/
theorem Trimmed.strip_eq (trimmed : Trimmed t) : strip t = t ∧ blankWidth t = 0 := by
  obtain ⟨front, back, blankFront, blankBack, split, width⟩ := exists_blanks_strip t
  have noFront : front = [] := by
    cases front with
    | nil => rfl
    | cons c front =>
      have visible := trimmed.ends c (.inl (by rw [split]; rfl))
      exact absurd (blankFront c List.mem_cons_self) (by simp [visible])
  have noBack : back = [] := by
    rcases List.eq_nil_or_concat back with none | ⟨back, c, rfl⟩
    · exact none
    · have visible := trimmed.ends c (.inr (by rw [split]; simp))
      exact absurd (blankBack c (by simp)) (by simp [visible])
  subst noFront noBack
  rw [List.nil_append, List.append_nil] at split
  exact ⟨split.symm, width.symm⟩

theorem stripEnd_blanks (blank : ∀ c ∈ back, isBlank c = true) : stripEnd back = [] := by
  induction back with
  | nil => rfl
  | cons c back ih =>
    rw [List.forall_mem_cons] at blank
    rw [stripEnd_cons, ih blank.2, blank.1]
    rfl

/-- Blanks around a text without blanks around it are stripped. -/
theorem Trimmed.strip_around (trimmed : Trimmed t) (blankFront : ∀ c ∈ front, isBlank c = true)
    (blankBack : ∀ c ∈ back, isBlank c = true) : strip (front ++ (t ++ back)) = t := by
  obtain ⟨init, last, ends, visible⟩ := trimmed.exists_concat
  have first : stripStart (t ++ back) = t ++ back :=
    stripStart_eq_self (trimmed.not_isBlank_head? back)
  rw [strip, stripStart_blanks blankFront, first, ends, List.append_assoc, List.singleton_append,
    stripEnd_append visible, stripEnd_blanks blankBack]

/-- Further blanks around a text change nothing of what is left when it is stripped. -/
theorem strip_blanks (some : strip t ≠ []) (blankFront : ∀ c ∈ front, isBlank c = true)
    (blankBack : ∀ c ∈ back, isBlank c = true) : strip (front ++ (t ++ back)) = strip t := by
  obtain ⟨front', back', blankFront', blankBack', split, -⟩ := exists_blanks_strip t
  have around := (trimmed_strip some).strip_around
    (List.forall_mem_append.mpr ⟨blankFront, blankFront'⟩)
    (List.forall_mem_append.mpr ⟨blankBack', blankBack⟩)
  have whole : front ++ (t ++ back) = (front ++ front') ++ (strip t ++ (back' ++ back)) := by
    rw [List.append_assoc, ← List.append_assoc (strip t), ← List.append_assoc front',
      ← split]
  rw [whole, around]

/-- What is not blank is not stripped. -/
theorem within_strip_of_visible {place : Nat} (here : t[place]? = some c)
    (visible : isBlank c = false) :
    blankWidth t ≤ place ∧ place < blankWidth t + (strip t).length := by
  obtain ⟨front, back, blankFront, blankBack, split, width⟩ := exists_blanks_strip t
  rw [← width]
  rw [split] at here
  constructor
  · refine Nat.le_of_not_lt fun before => ?_
    rw [List.getElem?_append_left (by omega)] at here
    have blank := blankFront c (List.mem_of_getElem? here)
    simp [visible] at blank
  · refine Nat.lt_of_not_le fun behind => ?_
    rw [List.getElem?_append_right (by omega), List.getElem?_append_right (by omega)] at here
    have blank := blankBack c (List.mem_of_getElem? here)
    simp [visible] at blank

end SfcLint.Text
