/-
# Guards that do too much

A guard is reported exactly when it has more duties than the middle limit of one table, or more
lines than that of another. The gate looks at these two limits only and the grades look at all
eight, which may stand in any order. But what is above the middle limit of a table has at least the
middle grade by that table, so whatever passes the gate has a severity: the stronger of its grades.
-/

import SfcLint.Proofs.Rule.Totality
import SfcLint.Proofs.Threshold.Order

namespace SfcLint

/-! ## Grades -/

namespace Severity

/-- One of two grades, of which either may be missing, and no lighter than the other. -/
structure IsStronger (severity : Severity) (first second : Option Severity) : Prop where
  among : first = some severity ∨ second = some severity
  first : rank first ≤ severity.weight
  second : rank second ≤ severity.weight

theorem isStronger_of_stronger? {severity : Severity} {first second : Option Severity}
    (stronger : stronger? first second = some severity) : severity.IsStronger first second := by
  have heaviest : severity.weight = max (rank first) (rank second) := by
    rw [← rank_stronger?, stronger, rank_some]
  refine ⟨?_, by omega, by omega⟩
  cases first with
  | none => exact .inr stronger
  | some first =>
    cases second with
    | none => exact .inl stronger
    | some second =>
      rw [stronger?] at stronger
      split at stronger
      · exact .inl stronger
      · exact .inr stronger

end Severity

/-- A value above the middle limit has at least the middle grade, whatever the other limits are. -/
theorem Tiers.medium_le_rank_classify {tiers : Tiers} {value : Int}
    (above : tiers.medium.isBelow value = true) :
    Severity.medium.weight ≤ Severity.rank (tiers.classify value) := by
  rw [classify, classifyBy, if_pos above]
  split_ifs <;> decide

namespace Binary64

theorem isAtLeast_of_isBelow {x : Binary64} {r : ℚ} (below : x.isBelow r = true) :
    x.isAtLeast r = false := by
  rw [← Bool.not_eq_true, isAtLeast_iff]
  rintro ⟨-, reaches⟩
  exact absurd reaches (not_le.mpr (isBelow_iff.mp below).2)

/-- A limit is below a number or reaches it, unless it is missing. -/
theorem isAtLeast_of_not_isBelow {x : Binary64} {r : ℚ} (known : x ≠ nan)
    (notBelow : x.isBelow r = false) : x.isAtLeast r = true := by
  rw [← Bool.not_eq_true, isBelow_iff, not_and] at notBelow
  exact isAtLeast_iff.mpr ⟨known, not_lt.mp (notBelow known)⟩

end Binary64

namespace Rule

/-! ## The gate -/

variable {component : Component} {thresholds : Thresholds}

/-- The guard has more duties or more lines than the middle limits. -/
def isOverloaded (thresholds : Thresholds) (guard : Script.NamedBody) : Bool :=
  (thresholds.tiers .guardResponsibility).medium.isBelow ((duties guard.body).length : Int) ||
    (thresholds.tiers .guardLine).medium.isBelow (Text.lineCount guard.body : Int)

/-- The grade of a guard by its duties. -/
def dutyGrade (thresholds : Thresholds) (guard : Script.NamedBody) : Option Severity :=
  (thresholds.tiers .guardResponsibility).classify (duties guard.body).length

/-- The grade of a guard by its lines. -/
def lineGrade (thresholds : Thresholds) (guard : Script.NamedBody) : Option Severity :=
  (thresholds.tiers .guardLine).classify (Text.lineCount guard.body)

theorem medium_le_rank_of_isOverloaded {guard : Script.NamedBody}
    (overloaded : isOverloaded thresholds guard = true) :
    Severity.medium.weight ≤
      Severity.rank (Severity.stronger? (dutyGrade thresholds guard)
        (lineGrade thresholds guard)) := by
  rw [Severity.rank_stronger?]
  rcases Bool.or_eq_true_iff.mp overloaded with above | above
  · exact le_max_of_le_left (Tiers.medium_le_rank_classify above)
  · exact le_max_of_le_right (Tiers.medium_le_rank_classify above)

/-- Behind the gate a guard has the stronger of its grades. -/
theorem guardSeverity?_of_isOverloaded {guard : Script.NamedBody}
    (overloaded : isOverloaded thresholds guard = true) :
    guardSeverity? (duties guard.body).length (Text.lineCount guard.body) thresholds =
      Severity.stronger? (dutyGrade thresholds guard) (lineGrade thresholds guard) := by
  have passes :
      ((thresholds.tiers .guardResponsibility).medium.isAtLeast
          ((duties guard.body).length : Int) &&
        (thresholds.tiers .guardLine).medium.isAtLeast (Text.lineCount guard.body : Int)) =
        false := by
    rw [Bool.and_eq_false_iff]
    rcases Bool.or_eq_true_iff.mp overloaded with above | above
    · exact .inl (Binary64.isAtLeast_of_isBelow above)
    · exact .inr (Binary64.isAtLeast_of_isBelow above)
  simp only [guardSeverity?, passes, Bool.false_eq_true, if_false]
  rfl

theorem guardSeverity?_of_not_isOverloaded {guard : Script.NamedBody}
    (dutyLimit : (thresholds.tiers .guardResponsibility).medium ≠ .nan)
    (lineLimit : (thresholds.tiers .guardLine).medium ≠ .nan)
    (small : isOverloaded thresholds guard = false) :
    guardSeverity? (duties guard.body).length (Text.lineCount guard.body) thresholds = none := by
  obtain ⟨fewDuties, fewLines⟩ := Bool.or_eq_false_iff.mp small
  have stays : ((thresholds.tiers .guardResponsibility).medium.isAtLeast
        ((duties guard.body).length : Int) &&
      (thresholds.tiers .guardLine).medium.isAtLeast (Text.lineCount guard.body : Int)) = true :=
    Bool.and_eq_true_iff.mpr ⟨Binary64.isAtLeast_of_not_isBelow dutyLimit fewDuties,
      Binary64.isAtLeast_of_not_isBelow lineLimit fewLines⟩
  simp only [guardSeverity?, stays, if_true]

/-! ## The issues -/

/-- The issue stands at the guard and has the stronger of its grades. -/
structure ReportsGuard (component : Component) (thresholds : Thresholds)
    (guard : Script.NamedBody) (issue : Issue) : Prop where
  pattern : issue.pattern = AntiPattern.godGuardAntipattern.id
  position : issue.position = component.scriptPosition guard.offset
  severity : issue.severity.IsStronger (dutyGrade thresholds guard) (lineGrade thresholds guard)
  notMinor : Severity.medium.weight ≤ issue.severity.weight

theorem exists_issue_of_isOverloaded {guard : Script.NamedBody}
    (overloaded : isOverloaded thresholds guard = true) :
    ∃ issue, (guardSuspect component guard).issue? AntiPattern.godGuardAntipattern.id thresholds =
      some issue ∧ ReportsGuard component thresholds guard issue := by
  have atLeast := medium_le_rank_of_isOverloaded overloaded
  cases judged : Severity.stronger? (dutyGrade thresholds guard) (lineGrade thresholds guard) with
  | none =>
    rw [judged] at atLeast
    contradiction
  | some severity =>
    rw [judged] at atLeast
    have said := (guardSeverity?_of_isOverloaded overloaded).trans judged
    simp only [Suspect.issue?, guardSuspect, said, Option.map_some, Option.some.injEq,
      exists_eq_left']
    exact ⟨rfl, rfl, Severity.isStronger_of_stronger? judged, atLeast⟩

/-- Without code there are no guards. -/
theorem guards_nil : Script.guards [] = [] := by
  have declared : Script.guardDeclaration.hits [] = [] := rfl
  have registered : Script.calls Script.guardRegistration false [] = [] := rfl
  rw [Script.guards, declared, registered]
  exact List.mergeSort_nil

theorem godGuardAntipattern_eq (component : Component) (path : Text) :
    godGuardAntipattern component path =
      .ok ((Script.guards component.code).map (guardSuspect component)) := by
  rw [godGuardAntipattern, inScript, onScript, Component.code]
  rcases component.script? with _ | _ | ⟨c, code⟩
  · simp [guards_nil]
  · simp [guards_nil]
  · rfl

/-- What a function gives for some of a row's items and for no others, in order. -/
theorem forall₂_filter_filterMap {α β : Type} {f : α → Option β} {p : α → Bool}
    {R : α → β → Prop} {xs : List α} (gives : ∀ x, p x = true → ∃ y, f x = some y ∧ R x y)
    (passes : ∀ x, p x = false → f x = none) : List.Forall₂ R (xs.filter p) (xs.filterMap f) := by
  induction xs with
  | nil => exact .nil
  | cons x xs ih =>
    cases kept : p x with
    | false =>
      rw [List.filter_cons_of_neg (by simp [kept]), List.filterMap_cons_none (passes x kept)]
      exact ih
    | true =>
      obtain ⟨y, given, related⟩ := gives x kept
      rw [List.filter_cons_of_pos kept, List.filterMap_cons_some given]
      exact .cons related ih

/-- **A guard is reported exactly when it is above one of the two middle limits.** The issues are,
in order and one for one, those of the guards that are, each has the stronger of the two grades,
and this is at least the middle one. No guard passes the gate without having a severity. Of all limits
only the two that the gate looks at have to be numbers, and no order of them is asked for. -/
theorem issues_godGuardAntipattern (component : Component) (path : String)
    (thresholds : Thresholds)
    (dutyLimit : (thresholds.tiers .guardResponsibility).medium ≠ .nan)
    (lineLimit : (thresholds.tiers .guardLine).medium ≠ .nan) :
    (∃ issues, AntiPattern.godGuardAntipattern.issues component path thresholds = .ok issues ∧
      List.Forall₂ (ReportsGuard component thresholds)
        ((Script.guards component.code).filter (isOverloaded thresholds)) issues) ∧
    ∀ guard ∈ Script.guards component.code,
      (guardSeverity? (duties guard.body).length (Text.lineCount guard.body) thresholds = none ↔
          isOverloaded thresholds guard = false) ∧
        (isOverloaded thresholds guard = true →
          Severity.stronger? (dutyGrade thresholds guard) (lineGrade thresholds guard) ≠ none) := by
  have passedOver (guard : Script.NamedBody) (small : isOverloaded thresholds guard = false) :
      (guardSuspect component guard).issue? AntiPattern.godGuardAntipattern.id thresholds =
        none := by
    simp only [Suspect.issue?, guardSuspect,
      guardSeverity?_of_not_isOverloaded dutyLimit lineLimit small, Option.map_none]
  have judged {guard : Script.NamedBody} (overloaded : isOverloaded thresholds guard = true) :
      Severity.stronger? (dutyGrade thresholds guard) (lineGrade thresholds guard) ≠ none := by
    intro silent
    have atLeast := medium_le_rank_of_isOverloaded overloaded
    rw [silent] at atLeast
    contradiction
  constructor
  · refine ⟨_, Except.bind_eq_ok_iff.mpr ⟨_, godGuardAntipattern_eq component _, rfl⟩, ?_⟩
    rw [List.filterMap_map]
    exact forall₂_filter_filterMap (fun _ => exists_issue_of_isOverloaded) passedOver
  · intro guard _
    refine ⟨⟨fun silent => ?_, guardSeverity?_of_not_isOverloaded dutyLimit lineLimit⟩, judged⟩
    rw [← Bool.not_eq_true]
    intro overloaded
    exact judged overloaded (guardSeverity?_of_isOverloaded overloaded ▸ silent)

/-- Limits of guards in no order, one of them beyond all numbers. -/
def unorderedThresholds : Thresholds :=
  { Thresholds.standard with
    tiers := fun
      | .guardResponsibility => ⟨.infinite false, .ofInt 1, .ofInt 0, .ofInt 7⟩
      | table => table.standard }

/-- The body of a guard with two duties in one line. -/
def loginBody : Text := " if (!isLoggedIn) return '/login' "

/-- A script that registers the guard. -/
def loginGuard : Component :=
  .ofScript (("router.beforeEach(() => \x7b" : Text) ++ loginBody ++ ("\x7d)" : Text)) none

theorem guards_loginGuard : Script.guards loginGuard.code = [⟨"beforeEach", loginBody, 0⟩] := by
  decide +kernel

/-- Two duties are above a middle limit of one, and by the high limit they have a high grade. -/
theorem issues_godGuardAntipattern_login :
    (unorderedThresholds.tiers .guardResponsibility).medium ≠ .nan ∧
      (unorderedThresholds.tiers .guardLine).medium ≠ .nan ∧
      ∃ issue, AntiPattern.godGuardAntipattern.issues loginGuard "A.vue" unorderedThresholds =
          .ok [issue] ∧
        ReportsGuard loginGuard unorderedThresholds ⟨"beforeEach", loginBody, 0⟩ issue ∧
        issue.severity = .high := by
  have dutyLimit : (unorderedThresholds.tiers .guardResponsibility).medium ≠ .nan := by decide
  have lineLimit : (unorderedThresholds.tiers .guardLine).medium ≠ .nan := by decide
  obtain ⟨⟨issues, found, reports⟩, -⟩ :=
    issues_godGuardAntipattern loginGuard "A.vue" unorderedThresholds dutyLimit lineLimit
  have duties : dutyGrade unorderedThresholds ⟨"beforeEach", loginBody, 0⟩ = some .high := by
    decide +kernel
  have lines : lineGrade unorderedThresholds ⟨"beforeEach", loginBody, 0⟩ = none := by
    decide +kernel
  have overloaded : isOverloaded unorderedThresholds ⟨"beforeEach", loginBody, 0⟩ = true := by
    decide +kernel
  rw [guards_loginGuard, List.filter_cons_of_pos overloaded, List.filter_nil,
    List.forall₂_cons_left_iff] at reports
  obtain ⟨issue, later, report, noOther, rfl⟩ := reports
  obtain rfl := List.forall₂_nil_left_iff.mp noOther
  refine ⟨dutyLimit, lineLimit, issue, found, report, ?_⟩
  rcases report.severity.among with high | missing
  · exact Option.some.inj (high.symm.trans duties)
  · rw [lines] at missing
    contradiction

end Rule

end SfcLint
