/-
# Issues in order

Sorting puts the most severe issues first and otherwise changes nothing. So the sorted issues are
those of each level of severity, one level after the other, in the order in which they were found,
and leaving issues out before or after sorting comes to the same.
-/

import Mathlib.Data.List.Sort
import SfcLint.Issue.Basic

namespace SfcLint.Issue

variable {issues : List Issue}

/-- The issues of one level of severity, in their order. -/
def ofLevel (issues : List Issue) (level : Severity) : List Issue :=
  issues.filter fun issue => issue.severity = level

theorem ofLevel_cons (issue : Issue) (level : Severity) :
    ofLevel (issue :: issues) level =
      if issue.severity = level then issue :: ofLevel issues level else ofLevel issues level := by
  rw [ofLevel, List.filter_cons]
  simp only [decide_eq_true_eq]
  rfl

/-- Issues whose weights do not rise have those of the most severe level first. -/
theorem eq_levels_of_pairwise
    (sorted : issues.Pairwise fun a b => b.severity.weight ≤ a.severity.weight) :
    issues = Severity.every.flatMap (ofLevel issues) := by
  induction issues with
  | nil => rfl
  | cons issue later ih =>
    obtain ⟨bounded, sorted⟩ := List.pairwise_cons.mp sorted
    -- No later issue is of a level above that of the first one.
    have none (level : Severity) (heavier : issue.severity.weight < level.weight) :
        ofLevel later level = [] := by
      rw [ofLevel, List.filter_eq_nil_iff]
      intro other member
      have weight := bounded other member
      rw [decide_eq_true_eq]
      rintro rfl
      omega
    have split := ih sorted
    simp only [Severity.every, List.flatMap_cons, List.flatMap_nil, ofLevel_cons] at split ⊢
    cases level : issue.severity with
    | critical => simpa using split
    | high =>
      rw [none .critical (by rw [level]; decide)] at split ⊢
      simpa using split
    | medium =>
      rw [none .critical (by rw [level]; decide), none .high (by rw [level]; decide)] at split ⊢
      simpa using split
    | low =>
      rw [none .critical (by rw [level]; decide), none .high (by rw [level]; decide),
        none .medium (by rw [level]; decide)] at split ⊢
      simpa using split

theorem weight_trans (a b c : Issue) (first : decide (b.severity.weight ≤ a.severity.weight) = true)
    (second : decide (c.severity.weight ≤ b.severity.weight) = true) :
    decide (c.severity.weight ≤ a.severity.weight) = true := by
  rw [decide_eq_true_eq] at first second ⊢
  exact Nat.le_trans second first

theorem weight_total (a b : Issue) : (decide (b.severity.weight ≤ a.severity.weight) ||
    decide (a.severity.weight ≤ b.severity.weight)) = true := by
  rw [Bool.or_eq_true, decide_eq_true_eq, decide_eq_true_eq]
  exact Nat.le_total _ _

/-- Sorting keeps the order of the issues of one level. -/
theorem ofLevel_sort (issues : List Issue) (level : Severity) :
    ofLevel (sort issues) level = ofLevel issues level := by
  have same (issue : Issue) (member : issue ∈ ofLevel issues level) : issue.severity = level :=
    of_decide_eq_true (List.mem_filter.mp member).2
  have even : (ofLevel issues level).Pairwise fun a b =>
      decide (b.severity.weight ≤ a.severity.weight) = true := by
    rw [List.pairwise_iff_forall_sublist]
    intro a b pair
    have members := pair.subset
    rw [same a (members (by simp)), same b (members (by simp)), decide_eq_true_eq]
  have kept : (ofLevel issues level).Sublist (sort issues) :=
    List.sublist_mergeSort weight_trans weight_total even List.filter_sublist
  have within := kept.filter fun issue => issue.severity = level
  rw [ofLevel, List.filter_filter] at within
  simp only [Bool.and_self] at within
  refine (within.eq_of_length ?_).symm
  exact ((List.mergeSort_perm issues _).filter _).length_eq.symm

/-- The sorted issues are those of each level, the most severe level first. -/
theorem sort_eq_levels (issues : List Issue) :
    sort issues = Severity.every.flatMap (ofLevel issues) := by
  have sorted : (sort issues).Pairwise fun a b => b.severity.weight ≤ a.severity.weight :=
    (List.pairwise_mergeSort weight_trans weight_total issues).imp of_decide_eq_true
  calc sort issues = Severity.every.flatMap (ofLevel (sort issues)) := eq_levels_of_pairwise sorted
    _ = Severity.every.flatMap (ofLevel issues) := by rw [funext (ofLevel_sort issues)]

end SfcLint.Issue
