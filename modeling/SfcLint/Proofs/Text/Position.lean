/-
# Where a text leads

Reading a text moves a position down by its line breaks, and across by its last line. So two texts
lead to the same position exactly when they have as many line breaks and last lines of one length.

The line of a place in a text is counted by the line breaks before it, its column from the last of
them. So positions can be counted in parts: what lies behind a line break keeps its column wherever
the part starts, and what lies before the first one is moved across. Places further behind have
later positions, and every line of the text has a place.
-/

import SfcLint.Text.Position

namespace SfcLint

namespace Text

theorem splitAt_ne_nil (separator : Char) (t : Text) : splitAt separator t ≠ [] := by
  cases t with
  | nil => simp [splitAt]
  | cons c t =>
    rw [splitAt]
    split
    · simp
    · split <;> simp

theorem lastLine_cons_break (t : Text) : lastLine ('\n' :: t) = lastLine t := by
  have pieces := splitAt_ne_nil '\n' t
  rw [lastLine, splitAt, if_pos rfl, List.getLast?_cons_of_ne_nil pieces, lastLine]

theorem splitAt_of_not_mem {separator : Char} {t : Text} (absent : separator ∉ t) :
    splitAt separator t = [t] := by
  induction t with
  | nil => rfl
  | cons c t ih =>
    rw [List.mem_cons, not_or] at absent
    rw [splitAt, if_neg (Ne.symm absent.1), ih absent.2]

theorem lastLine_of_not_mem {t : Text} (absent : '\n' ∉ t) : lastLine t = t := by
  rw [lastLine, splitAt_of_not_mem absent]
  rfl

theorem two_le_length_splitAt {separator : Char} {t : Text} (present : separator ∈ t) :
    2 ≤ (splitAt separator t).length := by
  induction t with
  | nil => simp at present
  | cons c t ih =>
    rw [splitAt]
    split
    · have pieces := List.length_pos_iff.mpr (splitAt_ne_nil separator t)
      simp only [List.length_cons]
      omega
    next other =>
      have later : separator ∈ t := by
        rcases List.mem_cons.mp present with rfl | later
        · exact absurd rfl other
        · exact later
      have two := ih later
      split
      next none => simp [none] at two
      next _ _ split => simpa [split] using two

theorem lastLine_cons_of_mem {c : Char} {t : Text} (present : '\n' ∈ t) :
    lastLine (c :: t) = lastLine t := by
  by_cases isBreak : c = '\n'
  · subst isBreak
    exact lastLine_cons_break t
  · have two := two_le_length_splitAt present
    rw [lastLine, lastLine, splitAt, if_neg isBreak]
    rcases split : splitAt '\n' t with _ | ⟨piece, _ | ⟨second, pieces⟩⟩
    · simp [split] at two
    · simp [split] at two
    · simp [List.getLast?_cons_cons]

/-- The texts have as many line breaks and last lines of the same length. -/
def SameExtent (s t : Text) : Prop :=
  s.lineCount = t.lineCount ∧ s.lastLine.length = t.lastLine.length

instance (s t : Text) : Decidable (SameExtent s t) := inferInstanceAs (Decidable (_ ∧ _))

end Text

namespace Position

theorem after_line (p : Position) (t : Text) : (p.after t).line + 1 = p.line + t.lineCount := by
  induction t generalizing p with
  | nil => rfl
  | cons c t ih =>
    rw [after_cons, ih, Text.lineCount, Text.lineCount, List.count_cons, advance]
    by_cases isBreak : c = '\n'
    · simp only [isBreak, if_true, beq_self_eq_true]
      omega
    · simp [isBreak]

/-- Without a line break a text leads across by its length. -/
theorem after_column_of_not_mem (p : Position) {t : Text} (absent : '\n' ∉ t) :
    (p.after t).column = p.column + t.length := by
  induction t generalizing p with
  | nil => rfl
  | cons c t ih =>
    rw [List.mem_cons, not_or] at absent
    rw [after_cons, ih _ absent.2, advance, if_neg (Ne.symm absent.1), List.length_cons]
    simp only
    omega

/-- With a line break a text leads to the end of its last line. -/
theorem after_column_of_mem (p : Position) {t : Text} (present : '\n' ∈ t) :
    (p.after t).column = 1 + t.lastLine.length := by
  induction t generalizing p with
  | nil => simp at present
  | cons c t ih =>
    rw [after_cons]
    by_cases later : '\n' ∈ t
    · rw [ih _ later, Text.lastLine_cons_of_mem later]
    · have isBreak : c = '\n' := by
        rcases List.mem_cons.mp present with same | later'
        · exact same.symm
        · exact absurd later' later
      subst isBreak
      rw [after_column_of_not_mem _ later, Text.lastLine_cons_break,
        Text.lastLine_of_not_mem later]
      rfl

/-- Two texts lead from a position to the same one exactly when they have the same extent. -/
theorem after_eq_after_iff (p : Position) {s t : Text} :
    p.after s = p.after t ↔ s.SameExtent t := by
  have lines : (p.after s).line = (p.after t).line ↔ s.lineCount = t.lineCount := by
    have first := after_line p s
    have second := after_line p t
    omega
  have breaks : s.lineCount = t.lineCount → ('\n' ∈ s ↔ '\n' ∈ t) := by
    intro same
    rw [← List.count_pos_iff, ← List.count_pos_iff]
    simp only [Text.lineCount] at same
    omega
  have columns (same : s.lineCount = t.lineCount) :
      (p.after s).column = (p.after t).column ↔ s.lastLine.length = t.lastLine.length := by
    by_cases present : '\n' ∈ s
    · rw [after_column_of_mem p present, after_column_of_mem p ((breaks same).mp present)]
      omega
    · have absent : '\n' ∉ t := mt (breaks same).mpr present
      rw [after_column_of_not_mem p present, after_column_of_not_mem p absent,
        Text.lastLine_of_not_mem present, Text.lastLine_of_not_mem absent]
      omega
  constructor
  · intro same
    have lineCounts := lines.mp (congrArg Position.line same)
    exact ⟨lineCounts, (columns lineCounts).mp (congrArg Position.column same)⟩
  · rintro ⟨lineCounts, lastLines⟩
    have sameLine := lines.mpr lineCounts
    have sameColumn := (columns lineCounts).mpr lastLines
    cases first : p.after s
    cases second : p.after t
    simp_all

end Position

/-! ## Counting in parts -/

namespace Position

/-- As far behind a position as another one lies behind the start of a text. Only on the first line
are columns counted on. -/
def onward (p q : Position) : Position :=
  ⟨p.line + q.line - 1, if 1 < q.line then q.column else p.column + q.column - 1⟩

/-- On an earlier line, or further to the left on the same line. -/
def Before (p q : Position) : Prop := p.line < q.line ∨ p.line = q.line ∧ p.column < q.column

instance (p q : Position) : Decidable (p.Before q) := inferInstanceAs (Decidable (_ ∨ _))

theorem Before.trans {p q r : Position} (first : p.Before q) (second : q.Before r) :
    p.Before r := by
  unfold Before at *
  omega

theorem Before.irrefl (p : Position) : ¬ p.Before p := by
  unfold Before
  omega

theorem before_advance (p : Position) (c : Char) : p.Before (p.advance c) := by
  unfold Before advance
  split <;> simp

theorem before_after (p : Position) {t : Text} (nonempty : t ≠ []) : p.Before (p.after t) := by
  induction t generalizing p with
  | nil => contradiction
  | cons c t ih =>
    rw [after_cons]
    by_cases last : t = []
    · simpa [last] using before_advance p c
    · exact (before_advance p c).trans (ih _ last)

/-- A text leads from any position as far as from the start. -/
theorem after_eq_onward (p : Position) (t : Text) : p.after t = p.onward (start.after t) := by
  have line := after_line p t
  have lineFromStart : (start.after t).line + 1 = 1 + t.lineCount := after_line start t
  have lines : t.lineCount = t.count '\n' + 1 := rfl
  rw [onward, Position.mk.injEq]
  refine ⟨by omega, ?_⟩
  by_cases present : '\n' ∈ t
  · have breaks := List.count_pos_iff.mpr present
    rw [if_pos (by omega), after_column_of_mem p present, after_column_of_mem start present]
  · have breaks := List.count_eq_zero.mpr present
    have across := after_column_of_not_mem p present
    have acrossFromStart : (start.after t).column = 1 + t.length :=
      after_column_of_not_mem start present
    rw [if_neg (by omega)]
    omega

/-- The column is counted from the last line break, or on from where the text starts. -/
theorem after_column_eq (p : Position) (t : Text) :
    match Text.lastOffsetOf? ['\n'] t with
    | some last => (p.after t).column + last = t.length
    | none => (p.after t).column = p.column + t.length := by
  induction t generalizing p with
  | nil => rfl
  | cons c t ih =>
    have later := ih (p.advance c)
    rw [after_cons, Text.lastOffsetOf?]
    cases last : Text.lastOffsetOf? ['\n'] t with
    | some offset =>
      rw [last] at later
      simp only [List.length_cons] at later ⊢
      omega
    | none =>
      have column : ((p.advance c).after t).column = (p.advance c).column + t.length := by
        simpa only [last] using later
      by_cases isBreak : c = '\n'
      · simpa [advance, isBreak, Nat.add_comm] using column
      · simpa [advance, isBreak, Ne.symm isBreak, Nat.add_comm, Nat.add_left_comm] using column

end Position

namespace Text

/-! ## Places of a text -/

theorem positionAt_natCast (t : Text) (i : Nat) :
    t.positionAt i = Position.start.after (t.take i) := by
  rw [positionAt, Int.toNat_natCast]

/-- The line is one more than there are line breaks before the place. -/
theorem positionAt_line (t : Text) (i : Nat) :
    (t.positionAt i).line = (t.take i).count '\n' + 1 := by
  have line : (Position.start.after (t.take i)).line + 1 = 1 + Text.lineCount (t.take i) :=
    Position.after_line _ _
  have lines : Text.lineCount (t.take i) = (t.take i).count '\n' + 1 := rfl
  rw [positionAt_natCast]
  omega

/-- The column is how far it is from the last line break before the place. Without one, it is as
if it stood right before the text. -/
theorem positionAt_column {t : Text} {i : Nat} (within : i ≤ t.length) :
    ((t.positionAt i).column : Int) =
      i - ((lastOffsetOf? ['\n'] (t.take i)).map Int.ofNat).getD (-1) := by
  have column := Position.after_column_eq Position.start (t.take i)
  have length : (t.take i).length = i := List.length_take_of_le within
  rw [positionAt_natCast]
  cases last : lastOffsetOf? ['\n'] (t.take i) with
  | some offset =>
    rw [last] at column
    simp only [length, Option.map_some, Option.getD_some, Int.ofNat_eq_natCast] at column ⊢
    omega
  | none =>
    rw [last] at column
    simp only [length, Position.start, Option.map_none, Option.getD_none] at column ⊢
    omega

theorem positionAt_append (a b : Text) (i : Nat) :
    Text.positionAt (a ++ b) (a.length + i : Nat) =
      (a.positionAt a.length).onward (b.positionAt i) := by
  rw [positionAt_natCast, positionAt_natCast, positionAt_natCast, List.take_length_add_append,
    Position.after_append, List.take_length]
  exact Position.after_eq_onward _ _

/-- A place outside the text counts as the nearest end. -/
theorem positionAt_clamp (t : Text) (index : Int) :
    t.positionAt index = t.positionAt (max 0 (min index t.length)) := by
  have same : t.take index.toNat = t.take (max 0 (min index (t.length : Int))).toNat := by
    rw [List.take_eq_take_iff]
    omega
  rw [positionAt, positionAt, same]

theorem before_positionAt {t : Text} {i j : Nat} (less : i < j) (within : j ≤ t.length) :
    (t.positionAt i).Before (t.positionAt j) := by
  obtain ⟨n, rfl⟩ := Nat.exists_eq_add_of_lt less
  have split : t.take (i + n + 1) = t.take i ++ (t.drop i).take (n + 1) := by
    rw [Nat.add_assoc, List.take_add]
  have read : (t.drop i).take (n + 1) ≠ [] := by
    rw [← List.length_pos_iff, List.length_take, List.length_drop]
    omega
  rw [positionAt_natCast, positionAt_natCast, split, Position.after_append]
  exact Position.before_after _ read

theorem before_positionAt_iff {t : Text} {i j : Nat} (withinFirst : i ≤ t.length)
    (within : j ≤ t.length) : (t.positionAt i).Before (t.positionAt j) ↔ i < j := by
  refine ⟨fun before => Nat.lt_of_not_le fun le => ?_, fun less => before_positionAt less within⟩
  rcases Nat.eq_or_lt_of_le le with rfl | less
  · exact Position.Before.irrefl _ before
  · exact Position.Before.irrefl _ (before.trans (before_positionAt less withinFirst))

/-- Any number of line breaks, up to all of them, stand before some place. -/
theorem exists_count_take {t : Text} {k : Nat} (few : k ≤ t.count '\n') :
    ∃ i, i ≤ t.length ∧ (t.take i).count '\n' = k := by
  induction t generalizing k with
  | nil => exact ⟨0, Nat.le_refl 0, (Nat.le_zero.mp few).symm⟩
  | cons c t ih =>
    rcases k with _ | k
    · exact ⟨0, Nat.zero_le _, rfl⟩
    · by_cases isBreak : c = '\n'
      · obtain ⟨i, within, count⟩ := ih (k := k) (by simpa [isBreak] using few)
        exact ⟨i + 1, by simpa using within, by simpa [isBreak] using count⟩
      · obtain ⟨i, within, count⟩ := ih (k := k + 1) (by simpa [isBreak] using few)
        exact ⟨i + 1, by simpa using within, by simpa [isBreak] using count⟩

theorem exists_line_iff (t : Text) (line : Nat) :
    (∃ i, i ≤ t.length ∧ (t.positionAt (i : Nat)).line = line) ↔ 1 ≤ line ∧ line ≤ t.lineCount := by
  simp only [positionAt_line, lineCount]
  constructor
  · rintro ⟨i, -, rfl⟩
    have fewer := (List.take_sublist i t).count_le '\n'
    omega
  · rintro ⟨first, last⟩
    obtain ⟨i, within, count⟩ := exists_count_take (t := t) (k := line - 1) (by omega)
    exact ⟨i, within, by omega⟩

/-- **Positions are counted by line breaks, and can be counted in parts.** Reading on from any
position leads as far behind it as the text leads behind its start, so the position of a place in
the second of two texts follows from the end of the first text and the place in the second. Along a
text positions get later from place to place and come to every line, and a place outside the text
has the position of the nearest end. -/
theorem positionAt_composes :
    (∀ (t : Text) (i : Nat), i ≤ t.length →
      (t.positionAt i).line = (t.take i).count '\n' + 1 ∧
        ((t.positionAt i).column : Int) =
          i - ((lastOffsetOf? ['\n'] (t.take i)).map Int.ofNat).getD (-1)) ∧
    (∀ (p : Position) (t : Text) (i : Nat), p.after (t.take i) = p.onward (t.positionAt i)) ∧
    (∀ (a b : Text) (i : Nat), i ≤ b.length →
      Text.positionAt (a ++ b) (a.length + i : Nat) =
        ⟨(a.positionAt a.length).line + (b.positionAt i).line - 1,
          if 1 < (b.positionAt i).line then (b.positionAt i).column
          else (a.positionAt a.length).column + (b.positionAt i).column - 1⟩) ∧
    (∀ (t : Text) (i j : Nat), i ≤ t.length → j ≤ t.length →
      ((t.positionAt i).Before (t.positionAt j) ↔ i < j)) ∧
    (∀ (t : Text) (line : Nat),
      (∃ i, i ≤ t.length ∧ (t.positionAt (i : Nat)).line = line) ↔
        1 ≤ line ∧ line ≤ t.lineCount) ∧
    ∀ (t : Text) (index : Int), t.positionAt index = t.positionAt (max 0 (min index t.length)) := by
  refine ⟨fun t i within => ⟨positionAt_line t i, positionAt_column within⟩, ?_, ?_, ?_,
    exists_line_iff, positionAt_clamp⟩
  · intro p t i
    rw [positionAt_natCast]
    exact Position.after_eq_onward p _
  · intro a b i _
    exact positionAt_append a b i
  · intro t i j withinFirst within
    exact before_positionAt_iff withinFirst within

/-- A text that ends within its second line. -/
def brokenFront : Text := "a\nb"

/-- A text that starts behind it. -/
def brokenBack : Text := "c\nd"

/-- The first line of the text behind is moved across, and its second line is not. -/
theorem positionAt_composes_broken :
    1 ≤ brokenBack.length ∧ 2 ≤ brokenBack.length ∧
      Text.positionAt (brokenFront ++ brokenBack) (3 + 1 : Nat) = ⟨2, 3⟩ ∧
      Text.positionAt (brokenFront ++ brokenBack) (3 + 2 : Nat) = ⟨3, 1⟩ ∧
      (brokenBack.positionAt (1 : Nat)).Before (brokenBack.positionAt (2 : Nat)) := by
  have composes := positionAt_composes
  exact ⟨by decide, by decide, composes.2.2.1 brokenFront brokenBack 1 (by decide),
    composes.2.2.1 brokenFront brokenBack 2 (by decide),
    (composes.2.2.2.1 brokenBack 1 2 (by decide) (by decide)).mpr (by decide)⟩

end Text

end SfcLint
