/-
# References and the signs that end them

No name and no number of a character holds a sign of markup or the sign that masks one. A text may
be cut at such a sign: replacing the references of the parts replaces those of the whole. So it does
not matter for the references of a text whether its signs are masked.
-/

import SfcLint.Proofs.Markup.Mask
import SfcLint.Proofs.Markup.Piece
import SfcLint.Proofs.Pattern.Ways
import SfcLint.Proofs.Text.Except

namespace SfcLint.Markup

open Pattern (dropFront?_eq_some_iff)

/-- A character that belongs to no reference. -/
def Barrier (c : Char) : Prop := isNameSign c = false ∧ c ∉ ['&', '#', ';']

instance (c : Char) : Decidable (Barrier c) := inferInstanceAs (Decidable (_ ∧ _))

namespace Barrier

variable {c : Char}

theorem ne_amp (barrier : Barrier c) : c ≠ '&' := fun same => barrier.2 (by simp [same])

theorem ne_hash (barrier : Barrier c) : c ≠ '#' := fun same => barrier.2 (by simp [same])

theorem ne_semicolon (barrier : Barrier c) : c ≠ ';' := fun same => barrier.2 (by simp [same])

theorem not_digit (barrier : Barrier c) : isTenDigit c = false := by
  have sign := barrier.1
  rw [isNameSign, Bool.or_eq_false_iff] at sign
  exact sign.2

theorem not_letter (barrier : Barrier c) : Text.isLetter c = false := by
  have sign := barrier.1
  rw [isNameSign, Bool.or_eq_false_iff] at sign
  exact sign.1

theorem not_sixteen (barrier : Barrier c) : isSixteenDigit c = false := by
  have letter := barrier.not_letter
  rw [Text.isLetter, Bool.or_eq_false_iff, Bool.and_eq_false_iff, Bool.and_eq_false_iff] at letter
  have below : ('a' ≤ c && c ≤ 'f') = false := by
    rw [Bool.and_eq_false_iff]
    rcases letter.1 with low | high
    · exact .inl low
    · right
      rw [decide_eq_false_iff_not] at high ⊢
      exact fun within => high (Char.le_trans within (by decide))
  have above : ('A' ≤ c && c ≤ 'F') = false := by
    rw [Bool.and_eq_false_iff]
    rcases letter.2 with low | high
    · exact .inl low
    · right
      rw [decide_eq_false_iff_not] at high ⊢
      exact fun within => high (Char.le_trans within (by decide))
  rw [isSixteenDigit, barrier.not_digit, below, above]
  rfl

end Barrier

theorem takeWhile_append_barrier {p : Char → Bool} {c : Char} (stops : p c = false)
    (u v : Text) : (u ++ c :: v).takeWhile p = u.takeWhile p := by
  rw [List.takeWhile_append]
  split
  next whole =>
    have all : u.takeWhile p = u := (List.takeWhile_prefix p).eq_of_length whole
    rw [all, List.takeWhile_cons_of_neg (by simp [stops]), List.append_nil]
  next => rfl

theorem withSemicolon_append {c : Char} (barrier : Barrier c) (u v : Text) (length : Nat)
    (within : length ≤ u.length) :
    withSemicolon length (u ++ c :: v) = withSemicolon length u := by
  rw [withSemicolon, withSemicolon, List.drop_append_of_le_length within]
  cases u.drop length with
  | nil => simp [barrier.ne_semicolon]
  | cons d rest => rfl

theorem withSemicolon_le {length : Nat} {u : Text} (within : length ≤ u.length) :
    withSemicolon length u ≤ u.length := by
  rw [withSemicolon]
  split
  next follows =>
    have more : 0 < (u.drop length).length := by
      cases split : u.drop length with
      | nil => simp [split] at follows
      | cons => simp
    rw [List.length_drop] at more
    omega
  next => exact within

/-! ## Numbers -/

theorem reference?_number_append {c : Char} (barrier : Barrier c) (digits v : Text) :
    reference? ('#' :: digits ++ c :: v) = reference? ('#' :: digits) := by
  have ten := takeWhile_append_barrier barrier.not_digit digits v
  have short := (List.takeWhile_prefix isTenDigit (l := digits)).length_le
  have place := withSemicolon_append barrier ('#' :: digits) v
    ((digits.takeWhile isTenDigit).length + 1) (by simpa using short)
  rw [List.cons_append] at place ⊢
  cases digits with
  | nil =>
    simp only [List.nil_append] at ten place ⊢
    have noX : (c == 'x' || c == 'X') = false := by
      have letter := barrier.not_letter
      rw [Bool.or_eq_false_iff, beq_eq_false_iff_ne, beq_eq_false_iff_ne]
      constructor
      · rintro rfl
        simp [Text.isLetter] at letter
      · rintro rfl
        simp [Text.isLetter] at letter
    simp [reference?, barrier.not_digit, noX]
  | cons x digits =>
    have sixteen := takeWhile_append_barrier barrier.not_sixteen digits v
    have short' := (List.takeWhile_prefix isSixteenDigit (l := digits)).length_le
    have place' := withSemicolon_append barrier ('#' :: x :: digits) v
      ((digits.takeWhile isSixteenDigit).length + 2) (by simpa using short')
    simp only [List.cons_append] at ten place place' ⊢
    simp only [reference?, ten, place, place', sixteen]

/-! ## Names -/

/-- No name that stands for something holds a barrier. -/
theorem charactersNamed?_eq_none {c : Char} {name : Text} (barrier : Barrier c)
    (within : c ∈ name) : charactersNamed? name = none := by
  rw [charactersNamed?]
  split
  next reversed split =>
    have whole := dropFront?_eq_some_iff.mp split
    have member : c ∈ reversed := by
      have inReverse := List.mem_reverse.mpr within
      rw [whole, List.singleton_append, List.mem_cons] at inReverse
      exact inReverse.resolve_left barrier.ne_semicolon
    rw [if_neg]
    intro all
    rw [List.all_eq_true] at all
    exact absurd (all c member) (by simp [barrier.1])
  next =>
    rw [if_neg]
    intro both
    rw [Bool.and_eq_true, List.all_eq_true] at both
    exact absurd (both.1 c within) (by simp [barrier.1])

theorem two_le_of_mem_openNames {name : String} (member : name ∈ openNames) :
    2 ≤ name.toList.length := by
  have all : (openNames.all fun name => decide (2 ≤ name.toList.length)) = true := by
    decide
  rw [List.all_eq_true] at all
  exact of_decide_eq_true (all name member)

/-- A single character is no name. -/
theorem charactersNamed?_singleton {c : Char} (letter : c ≠ ';') :
    charactersNamed? [c] = none := by
  have noFront : Text.dropFront? [';'] [c].reverse = none := by
    simp [Text.dropFront?, Ne.symm letter]
  rw [charactersNamed?, noFront]
  dsimp only
  rw [if_neg]
  intro both
  rw [Bool.and_eq_true, List.contains_iff_mem] at both
  have long := two_le_of_mem_openNames both.2
  simp at long

/-- Cuts that hold a barrier are no names, so they are passed over. -/
theorem namedFrom_barrier {c : Char} (barrier : Barrier c) (u w : Text) (more : Nat) :
    namedFrom (u ++ c :: w) (u.length + more) = namedFrom (u ++ c :: w) u.length := by
  induction more with
  | zero => rfl
  | succ more ih =>
    rw [← Nat.add_assoc, namedFrom]
    split
    next short =>
      have none : u.length = 0 := by omega
      rw [none, namedFrom]
    next =>
      have within : c ∈ (u ++ c :: w).take (u.length + more + 1) := by
        rw [Nat.add_assoc, List.take_length_add_append, List.take_succ_cons]
        simp
      rw [charactersNamed?_eq_none barrier within]
      exact ih

theorem namedFrom_append (u w : Text) {cut : Nat} (within : cut ≤ u.length) :
    namedFrom (u ++ w) cut = namedFrom u cut ++ w := by
  induction cut with
  | zero => rfl
  | succ cut ih =>
    rw [namedFrom, namedFrom, List.take_append_of_le_length within,
      List.drop_append_of_le_length within, ih (by omega)]
    split
    · rfl
    · split
      · rw [List.append_assoc]
      · rfl

/-- What an ampersand and the name behind it show. -/
def namedOrSign (name : Text) : Text := if name.isEmpty then ['&'] else named name

theorem namedFrom_length {name : Text} (open? : ∀ c ∈ name, c ≠ ';') :
    namedFrom name name.length = namedOrSign name := by
  rcases name with _ | ⟨first, _ | ⟨second, rest⟩⟩
  · rfl
  · have unnamed := charactersNamed?_singleton (open? first List.mem_cons_self)
    simp [namedOrSign, named, unnamed, namedFrom]
  · rw [List.length_cons, namedFrom, if_neg (by simp), ← List.length_cons, List.take_length,
      List.drop_length, namedOrSign, if_neg (by simp), named]
    cases charactersNamed? (first :: second :: rest) with
    | none => rfl
    | some characters => exact List.append_nil characters

/-- A name is read up to the barrier in it. -/
theorem named_append {c : Char} (barrier : Barrier c) {name : Text}
    (open? : ∀ c ∈ name, c ≠ ';') (w : Text) :
    named (name ++ c :: w) = namedOrSign name ++ c :: w := by
  have last : (name ++ c :: w).length - 1 = name.length + w.length := by simp
  rw [named, charactersNamed?_eq_none barrier (by simp), last]
  dsimp only
  rw [namedFrom_barrier barrier, namedFrom_append _ _ (Nat.le_refl _), namedFrom_length open?]

/-- The name that a text starts with, at most 32 characters of it. -/
def leadingName (t : Text) : Text := (t.take 32).takeWhile isReferenceChar

theorem reference?_name {t : Text} (other : t.head? ≠ some '#') :
    reference? t =
      if (leadingName t).isEmpty then .ok none
      else
        .ok (some (named (t.take (withSemicolon (leadingName t).length t)),
          withSemicolon (leadingName t).length t)) := by
  rw [reference?.eq_def]
  split
  · simp at other
  · rfl

theorem leadingName_starts (t : Text) : leadingName t <+: t :=
  (List.takeWhile_prefix _).trans (List.take_prefix _ _)

/-- The name in front of a barrier is the same without what follows, or the barrier itself is read
as part of it. -/
theorem leadingName_append (c : Char) (u v : Text) :
    leadingName (u ++ c :: v) = leadingName u ∨
      (leadingName u = u ∧ isReferenceChar c = true ∧
        ∃ r, r <+: v ∧ (∀ d ∈ r, isReferenceChar d = true) ∧
          leadingName (u ++ c :: v) = u ++ c :: r) := by
  by_cases long : 32 ≤ u.length
  · left
    rw [leadingName, List.take_append_of_le_length long, leadingName]
  · have short : u.take 32 = u := List.take_of_length_le (by omega)
    obtain ⟨more, room⟩ : ∃ more, 32 - u.length = more + 1 := ⟨31 - u.length, by omega⟩
    have taken : (u ++ c :: v).take 32 = u ++ c :: v.take more := by
      rw [List.take_append, short, room, List.take_succ_cons]
    rw [leadingName, leadingName, taken, short, List.takeWhile_append]
    split
    next whole =>
      have all := (List.takeWhile_prefix isReferenceChar (l := u)).eq_of_length whole
      by_cases reads : isReferenceChar c
      · right
        refine ⟨all, reads, (v.take more).takeWhile isReferenceChar, ?_, ?_, ?_⟩
        · exact (List.takeWhile_prefix _).trans (List.take_prefix _ _)
        · exact fun d member => List.all_eq_true.mp List.all_takeWhile d member
        · rw [List.takeWhile_cons_of_pos reads]
      · left
        rw [List.takeWhile_cons_of_neg reads, List.append_nil, all]
    next => exact .inl rfl

theorem withSemicolon_length_add (u v : Text) (n : Nat) :
    withSemicolon (u.length + n) (u ++ v) = u.length + withSemicolon n v := by
  rw [withSemicolon, withSemicolon, List.drop_length_add_append]
  split <;> omega

theorem take_withSemicolon_mem {t r : Text} (starts : r <+: t) {d : Char}
    (member : d ∈ t.take (withSemicolon r.length t)) : d ∈ r ∨ d = ';' := by
  obtain ⟨rest, rfl⟩ := starts
  have place := withSemicolon_length_add r rest 0
  rw [Nat.add_zero] at place
  rw [place, List.take_length_add_append, List.mem_append] at member
  rcases member with member | member
  · exact .inl member
  · right
    rw [withSemicolon] at member
    split at member
    next semicolon =>
      cases rest with
      | nil => simp at member
      | cons e rest => simp_all
    next => simp at member

theorem reference?_number (x : Char) (digits : Text) :
    reference? ('#' :: x :: digits) =
      if !((x :: digits).takeWhile isTenDigit).isEmpty then do
        let code ← Text.numeral ((x :: digits).takeWhile isTenDigit)
        return some (numbered code,
          withSemicolon (((x :: digits).takeWhile isTenDigit).length + 1) ('#' :: x :: digits))
      else if (x == 'x' || x == 'X') && !(digits.takeWhile isSixteenDigit).isEmpty then
        .ok (some (numbered (baseSixteen ((digits.takeWhile isSixteenDigit).map Char.toLower)),
          withSemicolon ((digits.takeWhile isSixteenDigit).length + 2) ('#' :: x :: digits)))
      else .ok none := rfl

theorem reference?_length_le {t characters : Text} {length : Nat}
    (found : reference? t = .ok (some (characters, length))) : length ≤ t.length := by
  by_cases number : t.head? = some '#'
  · obtain ⟨rest, rfl⟩ := List.head?_eq_some_iff.mp number
    rcases rest with _ | ⟨x, digits⟩
    · simp [reference?] at found
    · rw [reference?_number] at found
      split at found
      · obtain ⟨code, -, made⟩ := Except.bind_eq_ok_iff.mp found
        obtain ⟨-, rfl⟩ := Prod.mk.inj (Option.some.inj (Except.pure_eq_ok_iff.mp made))
        apply withSemicolon_le
        have short := (List.takeWhile_prefix isTenDigit (l := x :: digits)).length_le
        simpa using short
      · split at found
        · obtain ⟨-, rfl⟩ := Prod.mk.inj (Option.some.inj (Except.ok.inj found))
          apply withSemicolon_le
          have short := (List.takeWhile_prefix isSixteenDigit (l := digits)).length_le
          simpa using short
        · simp at found
  · rw [reference?_name number] at found
    split at found
    · simp at found
    · obtain ⟨-, rfl⟩ := Prod.mk.inj (Option.some.inj (Except.ok.inj found))
      exact withSemicolon_le (leadingName_starts t).length_le

theorem not_amp_of_isReferenceChar {c : Char} (reads : isReferenceChar c = true) : c ≠ '&' := by
  rintro rfl
  simp [isReferenceChar] at reads

theorem ne_semicolon_of_isReferenceChar {c : Char} (reads : isReferenceChar c = true) :
    c ≠ ';' := by
  rintro rfl
  simp [isReferenceChar] at reads

/-- Where there is nothing but a name behind an ampersand, all of it is read as one. -/
theorem unescape_name {u : Text} (number : u.head? ≠ some '#') (whole : leadingName u = u) :
    unescape ('&' :: u) = .ok (namedOrSign u) := by
  have ends : withSemicolon u.length u = u.length := by simp [withSemicolon]
  rcases Classical.em (u = []) with rfl | nonempty
  · rfl
  · have read : reference? u = .ok (some (named u, u.length)) := by
      rw [reference?_name number, whole, ends, List.take_length, if_neg (by simpa using nonempty)]
    rw [unescape, unescapeFrom_reference read, List.drop_length, namedOrSign,
      if_neg (by simpa using nonempty)]
    exact congrArg Except.ok (List.append_nil _)

/-- A name that goes on behind a barrier counts up to the barrier, and what follows it of the name
stays as it is. -/
theorem reference?_longer {c : Char} (barrier : Barrier c) {u v r : Text}
    (other : (u ++ c :: v).head? ≠ some '#') (open? : ∀ d ∈ u, d ≠ ';') (starts : r <+: v)
    (longer : leadingName (u ++ c :: v) = u ++ c :: r) :
    reference? (u ++ c :: v) =
      .ok (some (namedOrSign u ++ c :: v.take (withSemicolon r.length v),
        u.length + 1 + (v.take (withSemicolon r.length v)).length)) := by
  have place : withSemicolon (u ++ c :: r).length (u ++ c :: v) =
      (u ++ [c]).length + withSemicolon r.length v := by
    have added := withSemicolon_length_add (u ++ [c]) v r.length
    simpa [Nat.add_assoc, Nat.add_comm 1] using added
  have taken : (u ++ c :: v).take ((u ++ [c]).length + withSemicolon r.length v) =
      u ++ c :: v.take (withSemicolon r.length v) := by
    have split : u ++ c :: v = (u ++ [c]) ++ v := by simp
    rw [split, List.take_length_add_append]
    simp
  have shorter : withSemicolon r.length v ≤ v.length := withSemicolon_le starts.length_le
  rw [reference?_name other, longer, if_neg (by simp), place, taken, named_append barrier open?,
    List.length_take, Nat.min_eq_left shorter, List.length_append]
  rfl

/-- What is read behind an ampersand in front of a barrier: the same as without what follows, or
what is read without it, the barrier, and some letters behind it as they are. -/
theorem reference?_append {c : Char} (barrier : Barrier c) (u v : Text) :
    reference? (u ++ c :: v) = reference? u ∨
      (unescape ('&' :: u) = .ok (namedOrSign u) ∧
        ∃ w rest, v = w ++ rest ∧ '&' ∉ w ∧
          reference? (u ++ c :: v) =
            .ok (some (namedOrSign u ++ c :: w, u.length + 1 + w.length))) := by
  by_cases number : u.head? = some '#'
  · obtain ⟨digits, rfl⟩ := List.head?_eq_some_iff.mp number
    exact .inl (reference?_number_append barrier digits v)
  have other : (u ++ c :: v).head? ≠ some '#' := by
    cases u with
    | nil => simpa using barrier.ne_hash
    | cons d u => exact number
  rcases leadingName_append c u v with same | ⟨whole, reads, r, starts, all, longer⟩
  · left
    have within := (leadingName_starts u).length_le
    rw [reference?_name other, reference?_name number, same,
      withSemicolon_append barrier u v _ within,
      List.take_append_of_le_length (withSemicolon_le within)]
  · right
    have letters : ∀ d ∈ u, isReferenceChar d = true := by
      rw [← whole]
      exact fun d member => List.all_eq_true.mp List.all_takeWhile d member
    have open? : ∀ d ∈ u, d ≠ ';' := fun d member =>
      ne_semicolon_of_isReferenceChar (letters d member)
    refine ⟨unescape_name number whole, v.take (withSemicolon r.length v),
      v.drop (withSemicolon r.length v), (List.take_append_drop _ _).symm, ?_,
      reference?_longer barrier other open? starts longer⟩
    intro member
    rcases take_withSemicolon_mem starts member with inName | semicolon
    · exact not_amp_of_isReferenceChar (all _ inName) rfl
    · exact absurd semicolon (by decide)

/-! ## Cutting a text -/

/-- Letters without an ampersand stay as they are. -/
theorem unescape_append_plain {w : Text} (plain : '&' ∉ w) (t : Text) :
    unescape (w ++ t) = (w ++ ·) <$> unescape t := by
  induction w with
  | nil =>
    rw [List.nil_append]
    cases unescape t <;> rfl
  | cons c w ih =>
    rw [List.mem_cons, not_or] at plain
    have letter : c = '&' → reference? (w ++ t) = .ok none :=
      fun same => absurd same.symm plain.1
    rw [List.cons_append, unescape, unescapeFrom_letter letter, ← unescape, ih plain.2]
    cases unescape t <;> rfl

theorem unescape_letter {c : Char} {t : Text} (plain : c = '&' → reference? t = .ok none) :
    unescape (c :: t) = (c :: ·) <$> unescape t := unescapeFrom_letter plain

theorem unescape_reference {t characters : Text} {length : Nat}
    (found : reference? t = .ok (some (characters, length))) :
    unescape ('&' :: t) = (characters ++ ·) <$> unescape (t.drop length) :=
  unescapeFrom_reference found

/-- A text may be cut before a barrier. -/
theorem unescape_append_barrier {c : Char} (barrier : Barrier c) (u v : Text) :
    unescape (u ++ c :: v) = do
      let front ← unescape u
      let back ← unescape v
      return front ++ c :: back := by
  induction size : u.length using Nat.strongRecOn generalizing u with
  | ind n ih =>
  subst size
  rcases u with _ | ⟨d, u⟩
  · rw [List.nil_append, unescape_letter (fun same => absurd same barrier.ne_amp)]
    cases unescape v <;> rfl
  -- A letter is the same on both sides, and so is a sign that starts no reference in either text.
  · have letter (alone : d = '&' → reference? u = .ok none)
        (longer : d = '&' → reference? (u ++ c :: v) = .ok none) :
        unescape (d :: u ++ c :: v) = do
          let front ← unescape (d :: u)
          let back ← unescape v
          return front ++ c :: back := by
      rw [List.cons_append, unescape_letter longer, unescape_letter alone, ih _ (by simp) u rfl]
      cases unescape u <;> cases unescape v <;> rfl
    by_cases sign : d = '&'
    · subst sign
      rcases reference?_append barrier u v with same | ⟨front, w, rest, rfl, plain, read⟩
      · rcases alone : reference? u with failure | _ | ⟨characters, length⟩
        · rw [List.cons_append, unescape, unescapeFrom_failing (same.trans alone), unescape,
            unescapeFrom_failing alone]
          rfl
        · exact letter (fun _ => alone) (fun _ => same.trans alone)
        · have within := reference?_length_le alone
          have shorter : (u.drop length).length < ('&' :: u).length := by
            rw [List.length_drop, List.length_cons]
            omega
          rw [List.cons_append, unescape_reference (same.trans alone), unescape_reference alone,
            List.drop_append_of_le_length within, ih _ shorter (u.drop length) rfl]
          cases unescape (u.drop length) <;> cases unescape v <;>
            simp [Functor.map, Except.map, bind, Except.bind, pure, Except.pure]
      -- Here the name goes on behind the barrier, and what is read of it there stays as it is.
      · have behind : (u ++ c :: (w ++ rest)).drop (u.length + 1 + w.length) = rest := by
          rw [Nat.add_assoc, List.drop_length_add_append, Nat.add_comm 1, List.drop_succ_cons,
            List.drop_left]
        rw [List.cons_append, unescape_reference read, behind, front, unescape_append_plain plain]
        cases unescape rest <;>
          simp [Functor.map, Except.map, bind, Except.bind, pure, Except.pure]
    · exact letter (fun same => absurd same sign) (fun same => absurd same sign)

/-! ## Masked signs -/

theorem barrier_sign : Barrier '<' := by decide

theorem barrier_mask : Barrier mask := by decide

theorem barrier_angle : Barrier '>' := by decide

/-- Either nothing is masked, or the texts are the same up to the first sign that is. -/
theorem Hides.eq_or_exists {s t : Text} (hides : Hides s t) :
    t = s ∨ ∃ front later masked, s = front ++ '<' :: later ∧ t = front ++ mask :: masked ∧
      Hides later masked := by
  induction hides with
  | nil => exact .inl rfl
  | same c _ ih =>
    rcases ih with rfl | ⟨front, later, masked, rfl, rfl, rest⟩
    · exact .inl rfl
    · exact .inr ⟨c :: front, later, masked, rfl, rfl, rest⟩
  | hidden rest ih => exact .inr ⟨[], _, _, rfl, rfl, rest⟩

/-- Masked signs do not matter for the references of a text. -/
theorem Hides.unescape_eq {s t : Text} (hides : Hides s t) :
    (unescape t).map unmasked = (unescape s).map unmasked := by
  induction size : s.length using Nat.strongRecOn generalizing s t with
  | ind n ih =>
  subst size
  rcases hides.eq_or_exists with rfl | ⟨front, later, masked, rfl, rfl, rest⟩
  · rfl
  · have behind := ih later.length (by simp; omega) rest rfl
    rw [unescape_append_barrier barrier_sign, unescape_append_barrier barrier_mask]
    cases unescape front with
    | error failure => rfl
    | ok shown =>
      cases hidden : unescape masked <;> cases plain : unescape later <;>
        simp_all [bind, Except.bind, pure, Except.pure, Except.map, unmasked]

end SfcLint.Markup
