/-
# Lower and higher thresholds

Thresholds are compared limit by limit, and nothing is assumed about the limits of one set. Every
test of a measure against a limit that the measure passes for a higher limit it passes for a lower
one, so a measure is never judged less severely under lower thresholds.
-/

import Mathlib.Algebra.Order.Ring.Rat
import Mathlib.Order.WithBot
import SfcLint.Threshold.Basic

namespace SfcLint

/-! ## Limits as numbers -/

namespace Binary64

variable {x y z : Binary64} {r : ℚ}

/-- Where a number stands on the line of rationals with its two ends. The missing number stands
nowhere and is set aside. -/
def place : Binary64 → WithBot (WithTop ℚ)
  | nan => ⊥
  | infinite true => ⊥
  | infinite false => ⊤
  | x => ((x.toRat?.getD 0 : ℚ) : WithTop ℚ)

theorem lt_iff : x.lt y = true ↔ x ≠ nan ∧ y ≠ nan ∧ x.place < y.place := by
  match x, y with
  | nan, _ => simp [lt]
  | infinite true, nan => simp [lt]
  | infinite true, infinite true => simp [lt]
  | infinite true, infinite false => simp [lt, place]
  | infinite true, finite _ _ _ => simp [lt, place, WithBot.bot_lt_coe]
  | infinite false, nan => simp [lt]
  | infinite false, infinite true => simp [lt, place]
  | infinite false, infinite false => simp [lt]
  | infinite false, finite _ _ _ => simp [lt, place]
  | finite _ _ _, nan => simp [lt]
  | finite _ _ _, infinite true => simp [lt, place]
  | finite _ _ _, infinite false =>
    simpa [lt, place] using WithBot.coe_lt_coe.mpr (WithTop.coe_lt_top _)
  | finite _ _ _, finite _ _ _ => simp [lt, place]

theorem le_iff : x.le y = true ↔ x ≠ nan ∧ y ≠ nan ∧ x.place ≤ y.place := by
  have negated : x.le y = true ↔ x ≠ nan ∧ y ≠ nan ∧ ¬ y.lt x = true := by
    cases x <;> cases y <;> simp [Binary64.le]
  rw [negated, lt_iff, ← not_lt]
  tauto

theorem le_self (known : x ≠ nan) : x.le x = true := le_iff.mpr ⟨known, known, le_rfl⟩

theorem isBelow_iff : x.isBelow r = true ↔ x ≠ nan ∧ x.place < (r : WithTop ℚ) := by
  match x with
  | nan => simp [isBelow]
  | infinite true => simp [isBelow, place]
  | infinite false => simp [isBelow, place]
  | finite _ _ _ => simp [isBelow, place]

theorem isAtLeast_iff : x.isAtLeast r = true ↔ x ≠ nan ∧ (r : WithTop ℚ) ≤ x.place := by
  match x with
  | nan => simp [isAtLeast]
  | infinite true => simp [isAtLeast, place]
  | infinite false => simp [isAtLeast, place]
  | finite _ _ _ => simp [isAtLeast, place]

theorem isBelow_of_le (le : x.le y = true) (below : y.isBelow r = true) : x.isBelow r = true := by
  obtain ⟨known, -, le⟩ := le_iff.mp le
  obtain ⟨-, below⟩ := isBelow_iff.mp below
  exact isBelow_iff.mpr ⟨known, le.trans_lt below⟩

theorem isAtLeast_of_le (le : x.le y = true) (reaches : x.isAtLeast r = true) :
    y.isAtLeast r = true := by
  obtain ⟨-, known, le⟩ := le_iff.mp le
  obtain ⟨-, reaches⟩ := isAtLeast_iff.mp reaches
  exact isAtLeast_iff.mpr ⟨known, reaches.trans le⟩

theorem lt_of_le (le : x.le y = true) (below : y.lt z = true) : x.lt z = true := by
  obtain ⟨known, -, le⟩ := le_iff.mp le
  obtain ⟨-, also, below⟩ := lt_iff.mp below
  exact lt_iff.mpr ⟨known, also, le.trans_lt below⟩

end Binary64

/-! ## Sets of thresholds -/

/-- No limit of a table is above the same limit of another table. -/
structure Tiers.AtMost (lower higher : Tiers) : Prop where
  low : lower.low.le higher.low = true
  medium : lower.medium.le higher.medium = true
  high : lower.high.le higher.high = true
  critical : lower.critical.le higher.critical = true

/-- No threshold of a set is above the same threshold of another set, and their markers are the
same. A missing number is neither above nor below anything, so no limit is missing. -/
structure Thresholds.AtMost (lower higher : Thresholds) : Prop where
  limit : ∀ limit, lower.limit limit ≤ higher.limit limit
  tiers : ∀ table, (lower.tiers table).AtMost (higher.tiers table)
  ratio : ∀ ratio, (lower.ratio ratio).le (higher.ratio ratio) = true
  marker : lower.marker = higher.marker

/-! ## Severity of a measure -/

namespace Severity

/-- How heavy a judgement is. Saying nothing is lighter than any severity. -/
def rank (severity : Option Severity) : Nat := (severity.map weight).getD 0

@[simp] theorem rank_none : rank none = 0 := rfl

@[simp] theorem rank_some (severity : Severity) : rank (some severity) = severity.weight := rfl

@[simp] theorem weight_critical : critical.weight = 4 := rfl

@[simp] theorem weight_high : high.weight = 3 := rfl

@[simp] theorem weight_medium : medium.weight = 2 := rfl

@[simp] theorem weight_low : low.weight = 1 := rfl

theorem weight_pos (severity : Severity) : 0 < severity.weight := by
  cases severity <;> decide

/-- Of two judgements the heavier one counts. -/
theorem rank_stronger? (first second : Option Severity) :
    rank (stronger? first second) = max (rank first) (rank second) := by
  cases first with
  | none => simp [stronger?]
  | some first =>
    cases second with
    | none => simp [stronger?]
    | some second =>
      rw [stronger?]
      split
      · rw [rank_some, rank_some]
        omega
      · rw [rank_some, rank_some]
        omega

end Severity

namespace Tiers

variable {lower higher : Tiers}

/-- A value is graded at least as high by lower limits, whatever their order. -/
theorem rank_classify_le (atMost : lower.AtMost higher) (value : Int) :
    Severity.rank (higher.classify value) ≤ Severity.rank (lower.classify value) := by
  have low := Binary64.isBelow_of_le (r := value) atMost.low
  have medium := Binary64.isBelow_of_le (r := value) atMost.medium
  have high := Binary64.isBelow_of_le (r := value) atMost.high
  have critical := Binary64.isBelow_of_le (r := value) atMost.critical
  rw [classify, classify, classifyBy, classifyBy]
  split_ifs <;> simp_all

end Tiers

end SfcLint
