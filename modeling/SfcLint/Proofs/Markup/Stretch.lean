/-
# Stretches of text

Between two tags the tokenizer may read a stretch of text in several steps, for a sign `<` that
opens nothing ends a step. The steps show together what the whole stretch shows, because no
character reference reaches over the end of a step.
-/

import SfcLint.Proofs.Component.Reached
import SfcLint.Proofs.Markup.Reference
import SfcLint.Proofs.Text.Except

namespace SfcLint.Markup

open Pattern

/-- From one offset to another the tokenizer reads nothing but text, which shows `shown`. -/
inductive Stretch (t : Text) (element : Option Text) : Nat → Text → Nat → Prop
  | nil (n : Nat) : Stretch t element n [] n
  | text {n m length : Nat} {shown later : Text} :
      t.drop n ≠ [] →
        step? element (t.drop n) = .ok (some ⟨some (.text shown), length, element⟩) →
          Stretch t element (n + length) later m → Stretch t element n (shown ++ later) m

theorem Stretch.between {t shown : Text} {element : Option Text} {n m : Nat}
    (stretch : Stretch t element n shown m) (between : Between t n element) :
    Between t m element := by
  induction stretch with
  | nil => exact between
  | text nonempty found _ ih => exact ih (between.step nonempty found)

theorem Stretch.le {t shown : Text} {element : Option Text} {n m : Nat}
    (stretch : Stretch t element n shown m) : n ≤ m := by
  induction stretch with
  | nil => exact Nat.le_refl _
  | text _ _ _ ih => omega

/-! ## Cuts -/

/-- No reference reaches over the end of the first text. -/
def Cut (u v : Text) : Prop :=
  v = [] ∨ v.head? = some '<' ∨ u.getLast? = some '>' ∨ u = ['<']

theorem unescape_append_of_cut {u v : Text} (cut : Cut u v) :
    unescape (u ++ v) = do
      let front ← unescape u
      let back ← unescape v
      return front ++ back := by
  have sign (t : Text) : unescape ('<' :: t) = ('<' :: ·) <$> unescape t :=
    unescape_letter (fun same => absurd same (by decide))
  have nothing : unescape [] = .ok [] := rfl
  rcases cut with rfl | opens | closes | rfl
  · rw [List.append_nil, nothing]
    cases unescape u <;> simp [bind, Except.bind, pure, Except.pure]
  · obtain ⟨rest, rfl⟩ := List.head?_eq_some_iff.mp opens
    rw [unescape_append_barrier barrier_sign, sign]
    cases unescape u <;> cases unescape rest <;> rfl
  · obtain ⟨front, rfl⟩ := List.getLast?_eq_some_iff.mp closes
    rw [List.append_assoc, List.singleton_append, unescape_append_barrier barrier_angle,
      unescape_append_barrier barrier_angle, nothing]
    cases unescape front <;> cases unescape v <;>
      simp [bind, Except.bind, pure, Except.pure]
  · have alone : unescape ['<'] = .ok ['<'] := rfl
    rw [List.singleton_append, sign, alone]
    cases unescape v <;> rfl

/-! ## Steps over text -/

/-- The tokenizer reads the given number of characters as text, with references replaced, and no
reference reaches over their end. -/
structure TextStep (u : Text) (length : Nat) : Prop where
  onward : 0 < length
  within : length ≤ u.length
  reads : step? none u =
    (decoded (u.take length)).map fun shown => some ⟨some (.text shown), length, none⟩
  cut : Cut (u.take length) (u.drop length)

variable {u : Text}

/-- Text without a sign goes on to the end or to a sign. -/
theorem stops_at_sign (u : Text) :
    u.drop (u.takeWhile (· != '<')).length = [] ∨
      (u.drop (u.takeWhile (· != '<')).length).head? = some '<' := by
  have parts : u.takeWhile (· != '<') ++ u.dropWhile (· != '<') = u :=
    List.takeWhile_append_dropWhile
  have rest : u.drop (u.takeWhile (· != '<')).length = u.dropWhile (· != '<') :=
    calc u.drop (u.takeWhile (· != '<')).length
        = (u.takeWhile (· != '<') ++ u.dropWhile (· != '<')).drop
            (u.takeWhile (· != '<')).length := by rw [parts]
      _ = u.dropWhile (· != '<') := List.drop_left
  rw [rest]
  cases behind : u.dropWhile (· != '<') with
  | nil => exact .inl rfl
  | cons c more =>
    have stops := List.head?_dropWhile_not (· != '<') u
    rw [behind, List.head?_cons] at stops
    exact .inr (by simpa using stops)

theorem textStep_plain (nonempty : u ≠ []) (other : u.head? ≠ some '<') :
    TextStep u (u.takeWhile (· != '<')).length := by
  have run : u.takeWhile (· != '<') = u.take (u.takeWhile (· != '<')).length :=
    List.prefix_iff_eq_take.mp (List.takeWhile_prefix _)
  refine ⟨?_, (List.takeWhile_prefix _).length_le, ?_, ?_⟩
  · cases u with
    | nil => exact absurd rfl nonempty
    | cons c u =>
      have plain : c ≠ '<' := by simpa using other
      simp [plain]
  · rw [step?, if_neg other, ← run]
    dsimp only
    cases decoded (u.takeWhile (· != '<')) <;> rfl
  · exact (stops_at_sign u).imp_right .inl

theorem textStep_lone (starts : u.head? = some '<')
    (lone : angleStep? none u = .ok (some ⟨some (.text ['<']), 1, none⟩)) : TextStep u 1 := by
  obtain ⟨rest, rfl⟩ := List.head?_eq_some_iff.mp starts
  refine ⟨Nat.one_pos, by simp, ?_, .inr (.inr (.inr rfl))⟩
  have alone : decoded ['<'] = .ok ['<'] := rfl
  rw [step?, if_pos starts, lone, List.take_succ_cons, List.take_zero, alone]
  rfl

/-- A tag in which the text ends is text up to the next place where something may end or start. -/
theorem textStep_broken (starts : u.head? = some '<') (broken : angleStep? none u = .ok none) :
    TextStep u (brokenLength u) := by
  have nonempty : u ≠ [] := by
    rintro rfl
    simp at starts
  obtain ⟨onward, within⟩ := brokenLength_bounds nonempty
  refine ⟨onward, within, ?_, ?_⟩
  · rw [step?, if_pos starts, broken]
    cases read : decoded (u.take (brokenLength u)) <;>
      simp [read, bind, Except.bind, pure, Except.pure, Except.map]
  · obtain ⟨rest, rfl⟩ := List.head?_eq_some_iff.mp starts
    rw [brokenLength, List.drop_succ_cons, List.drop_zero]
    split
    next n found =>
      obtain ⟨more, split⟩ := Text.offsetOf?_eq_some found
      refine .inr (.inr (.inl ?_))
      rw [List.take_succ_cons, List.take_add_one, ← List.head?_drop, ← split]
      simp [List.getLast?_cons]
    · split
      next n found =>
        obtain ⟨more, split⟩ := Text.offsetOf?_eq_some found
        refine .inr (.inl ?_)
        rw [List.drop_succ_cons, ← split]
        rfl
      · exact .inr (.inr (.inr rfl))

/-- A step over plain text does not pass a sign. -/
theorem length_takeWhile_le {i : Nat} (sign : (u.drop i).head? = some '<') :
    (u.takeWhile (· != '<')).length ≤ i := by
  induction i generalizing u with
  | zero =>
    rw [List.drop_zero] at sign
    obtain ⟨rest, rfl⟩ := List.head?_eq_some_iff.mp sign
    simp
  | succ i ih =>
    cases u with
    | nil => simp at sign
    | cons c u =>
      rw [List.takeWhile_cons]
      split
      · exact Nat.succ_le_succ (ih sign)
      · exact Nat.zero_le _

/-- A tag that never ends does not pass a sign when it is read as text. -/
theorem brokenLength_le {i : Nat} (endless : Text.offsetOf? ['>'] (u.drop 1) = none)
    (later : 0 < i) (sign : (u.drop i).head? = some '<') : brokenLength u ≤ i := by
  obtain ⟨i, rfl⟩ : ∃ j, i = j + 1 := ⟨i - 1, by omega⟩
  rw [Nat.add_comm, ← List.drop_drop] at sign
  obtain ⟨rest, split⟩ := List.head?_eq_some_iff.mp sign
  have stands : ['<'] <+: (u.drop 1).drop i := ⟨rest, by rw [split]; rfl⟩
  obtain ⟨n, found, first⟩ := Text.exists_offsetOf? stands
  rw [brokenLength, endless, found]
  exact Nat.succ_le_succ first

/-- Up to the next sign, or to the end, plain text is read in steps over text. -/
theorem exists_textStep_plain {j m : Nat} (less : j < m) (within : m ≤ u.length)
    (next : m < u.length → (u.drop m).head? = some '<') (other : (u.drop j).head? ≠ some '<') :
    ∃ length, TextStep (u.drop j) length ∧ j + length ≤ m := by
  have nonempty : u.drop j ≠ [] := by
    rw [Ne, List.drop_eq_nil_iff]
    omega
  have step := textStep_plain nonempty other
  refine ⟨_, step, ?_⟩
  by_cases ended : m < u.length
  · have sign : ((u.drop j).drop (m - j)).head? = some '<' := by
      rw [List.drop_drop, Nat.add_sub_cancel' (Nat.le_of_lt less)]
      exact next ended
    have passed := length_takeWhile_le sign
    omega
  · have bound := step.within
    rw [List.length_drop] at bound
    omega

/-- So is a sign that opens what never ends. -/
theorem exists_textStep_broken {j m : Nat} (less : j < m) (within : m ≤ u.length)
    (next : m < u.length → (u.drop m).head? = some '<') (starts : (u.drop j).head? = some '<')
    (opens : angleStep? none (u.drop j) = .ok none)
    (endless : Text.offsetOf? ['>'] ((u.drop j).drop 1) = none) :
    ∃ length, TextStep (u.drop j) length ∧ j + length ≤ m := by
  have step := textStep_broken starts opens
  refine ⟨_, step, ?_⟩
  by_cases ended : m < u.length
  · have sign : ((u.drop j).drop (m - j)).head? = some '<' := by
      rw [List.drop_drop, Nat.add_sub_cancel' (Nat.le_of_lt less)]
      exact next ended
    have passed := brokenLength_le endless (by omega) sign
    omega
  · have bound := step.within
    rw [List.length_drop] at bound
    omega

/-- What a step over text that fails says of the text before a cut. -/
theorem decoded_eq_error_iff {t : Text} :
    (∃ failure, decoded t = .error failure) ↔ ∃ failure, unescape t = .error failure := by
  rw [decoded]
  cases unescape t <;> simp [Except.mapError]

theorem decoded_eq_ok_iff {t shown : Text} : decoded t = .ok shown ↔ unescape t = .ok shown := by
  rw [decoded]
  cases unescape t <;> simp [Except.mapError]

/-- No reference reaches over the end of a step over text into the text up to a later place. -/
theorem TextStep.cut_slice {k m length : Nat} (step : TextStep (u.drop k) length)
    (reaches : k + length ≤ m) : Cut ((u.drop k).take length) (u.slice (k + length) m) := by
  have rest := step.cut
  rw [List.drop_drop] at rest
  rcases rest with ended | opens | closes | lone
  · exact .inl (by rw [Text.slice, ended, List.take_nil])
  · by_cases last : k + length = m
    · refine .inl ?_
      rw [last, Text.slice, Nat.sub_self, List.take_zero]
    · refine .inr (.inl ?_)
      rw [Text.slice, List.head?_take, if_neg (by omega), opens]
  · exact .inr (.inr (.inl closes))
  · exact .inr (.inr (.inr lone))

/-- Where there are only steps over text, either the text between is shown as a whole, or it cannot
be, and then one of the steps fails. -/
theorem stretch_or_failing {k m : Nat} (ordered : k ≤ m) (within : m ≤ u.length)
    (steps : ∀ j, k ≤ j → j < m → Between u j none →
      ∃ length, TextStep (u.drop j) length ∧ j + length ≤ m)
    (between : Between u k none) :
    (∃ shown, unescape (u.slice k m) = .ok shown ∧ Stretch u none k shown m) ∨
      (∃ failure, unescape (u.slice k m) = .error failure) ∧
        ∃ shown j failure, Stretch u none k shown j ∧ u.drop j ≠ [] ∧
          step? none (u.drop j) = .error failure := by
  -- Each step leaves less of the text between.
  induction left : m - k using Nat.strongRecOn generalizing k with
  | ind size ih =>
  subst left
  rcases Nat.eq_or_lt_of_le ordered with rfl | open?
  · refine .inl ⟨[], ?_, .nil k⟩
    rw [Text.slice, Nat.sub_self, List.take_zero]
    rfl
  · obtain ⟨length, step, reaches⟩ := steps k (Nat.le_refl k) open? between
    have onward := step.onward
    have nonempty : u.drop k ≠ [] := by
      rw [Ne, List.drop_eq_nil_iff]
      omega
    -- The text between is the text of the step and what is left, and no reference is cut.
    have parts : u.slice k m = (u.drop k).take length ++ u.slice (k + length) m := by
      have sizes : m - k = length + (m - (k + length)) := by omega
      rw [Text.slice, Text.slice, sizes, List.take_add, List.drop_drop]
    rw [parts, unescape_append_of_cut (step.cut_slice reaches)]
    have reads := step.reads
    cases front : unescape ((u.drop k).take length) with
    | error failure =>
      obtain ⟨failing, fails⟩ := decoded_eq_error_iff.mpr ⟨failure, front⟩
      rw [fails] at reads
      exact .inr ⟨⟨failure, rfl⟩, [], k, failing, .nil k, nonempty, reads⟩
    | ok shown =>
      rw [decoded_eq_ok_iff.mpr front] at reads
      have later := ih _ (by omega) reaches
        (fun j atLeast less => steps j (by omega) less) (between.step nonempty reads) rfl
      rcases later with ⟨more, back, stretch⟩ | ⟨⟨failure, back⟩, more, j, failing, stretch, fails⟩
      · refine .inl ⟨shown ++ more, ?_, stretch.text nonempty reads⟩
        rw [back]
        rfl
      · refine .inr ⟨⟨failure, ?_⟩, shown ++ more, j, failing, stretch.text nonempty reads, fails⟩
        rw [back]
        rfl

end SfcLint.Markup
