/-
# Checks on their own

A check that fails takes nothing from the others. Whatever checks are run, the issues of all that
return are reported, level by level and in the order in which they were found, and each that fails
leaves one error and one event, in the order of the checks. So the others come to the same without
it.
-/

import SfcLint.Proofs.Analysis.Course
import SfcLint.Proofs.Issue.Sorting

namespace SfcLint.Check

variable {component : Component} {path : String} {thresholds : Thresholds}

/-- The issues that the check returns, if it does. -/
def returned? (component : Component) (path : String) (thresholds : Thresholds) (check : Check) :
    Option (List Issue) :=
  (check.run component path thresholds).toOption

/-- The name of the check and the reason why it fails, if it does. -/
def raised? (component : Component) (path : String) (thresholds : Thresholds) (check : Check) :
    Option (String × String) :=
  match check.run component path thresholds with
  | .ok _ => none
  | .error reason => some (check.id, reason)

theorem flatMap_issues_outcomes (checks : List Check) :
    (outcomes checks component path thresholds).flatMap Outcome.issues =
      (checks.filterMap (returned? component path thresholds)).flatten := by
  rw [outcomes, List.flatMap_map]
  induction checks with
  | nil => rfl
  | cons check later ih =>
    rw [List.flatMap_cons, ih, List.filterMap_cons, returned?]
    cases check.run component path thresholds <;> rfl

theorem filterMap_failure?_outcomes (checks : List Check) :
    (outcomes checks component path thresholds).filterMap Outcome.failure? =
      checks.filterMap (raised? component path thresholds) := by
  rw [outcomes, List.filterMap_map]
  refine List.filterMap_congr fun check _ => ?_
  rw [Function.comp_apply, raised?]
  cases check.run component path thresholds <;> rfl

/-- The course of the checks, in what each of them returns or raises. -/
theorem run_attemptAll_eq (checks : List Check) :
    (attemptAll component path thresholds checks).run =
      ⟨(checks.filterMap (raised? component path thresholds)).map fun (id, reason) =>
          .checkFailed path id reason,
        path,
        Severity.every.flatMap
          (Issue.ofLevel (checks.filterMap (returned? component path thresholds)).flatten),
        (checks.filterMap (raised? component path thresholds)).map fun (id, reason) =>
          id ++ ": " ++ reason⟩ := by
  rw [run_attemptAll, runAll, collect, flatMap_issues_outcomes, filterMap_failure?_outcomes,
    Issue.sort_eq_levels]

/-- The checks that return, and of the others those that are kept. -/
def spared (component : Component) (path : String) (thresholds : Thresholds)
    (kept : Check → Bool) (checks : List Check) : List Check :=
  checks.filter fun check => (check.returned? component path thresholds).isSome || kept check

theorem filterMap_returned?_spared (kept : Check → Bool) (checks : List Check) :
    (spared component path thresholds kept checks).filterMap
        (returned? component path thresholds) =
      checks.filterMap (returned? component path thresholds) := by
  rw [spared, List.filterMap_filter]
  refine List.filterMap_congr fun check _ => ?_
  cases returned? component path thresholds check with
  | none => exact ite_self none
  | some issues => rfl

theorem filterMap_raised?_spared (kept : Check → Bool) (checks : List Check) :
    (spared component path thresholds kept checks).filterMap (raised? component path thresholds) =
      (checks.filter kept).filterMap (raised? component path thresholds) := by
  rw [spared, List.filterMap_filter, List.filterMap_filter]
  refine List.filterMap_congr fun check _ => ?_
  rw [raised?, returned?]
  cases check.run component path thresholds with
  | error reason => rfl
  | ok issues => exact (ite_self none).symm

/-- Whatever the checks do, running them one after the other, as the analysis of a component does,
comes to the issues of those that return, for each level of severity in the order of the checks,
and to one error and one event for each that fails, in the same order. Without any of the checks
that fail the issues are the same, and so are the errors and the events of the others. -/
theorem attemptAll_isolates (checks : List Check) (component : Component) (path : String)
    (thresholds : Thresholds) :
    let course := attemptAll component path thresholds checks
    let issues := (checks.filterMap (returned? component path thresholds)).flatten
    let failures := checks.filterMap (raised? component path thresholds)
    course.run = runAll checks component path thresholds ∧
    course.result.path = path ∧
    course.result.issues = Issue.ofLevel issues .critical ++ Issue.ofLevel issues .high ++
      Issue.ofLevel issues .medium ++ Issue.ofLevel issues .low ∧
    course.result.errors = failures.map (fun (id, reason) => id ++ ": " ++ reason) ∧
    course.events = failures.map (fun (id, reason) => .checkFailed path id reason) ∧
    ∀ kept : Check → Bool,
      let others := attemptAll component path thresholds
        (spared component path thresholds kept checks)
      let remaining := (checks.filter kept).filterMap (raised? component path thresholds)
      others.result = ⟨path, course.result.issues,
        remaining.map fun (id, reason) => id ++ ": " ++ reason⟩ ∧
      others.events = remaining.map fun (id, reason) => .checkFailed path id reason := by
  intro course issues failures
  have whole : course.run = _ := run_attemptAll_eq checks
  have result : course.result = _ := congrArg Run.result whole
  refine ⟨run_attemptAll checks, congrArg FileResult.path result, ?_,
    congrArg FileResult.errors result, congrArg Run.events whole, fun kept => ?_⟩
  · calc course.result.issues = Severity.every.flatMap (Issue.ofLevel issues) :=
          congrArg FileResult.issues result
      _ = _ := by simp [Severity.every]
  · intro others remaining
    have part : others.run = _ := run_attemptAll_eq _
    rw [filterMap_returned?_spared, filterMap_raised?_spared] at part
    refine ⟨?_, congrArg Run.events part⟩
    rw [result]
    exact congrArg Run.result part

end SfcLint.Check
