/-
# Checks that fail and files without a result

A check fails on a component exactly when its rule comes to something in the script that cannot be
read: an object with an empty key in single quotes, or a number with too many digits. The result of
an analysis has an error for each check that fails and for no other.

A file with a fault in its structure has one issue, which says so, and no check is run on it. A file
that cannot be cut into tokens has no result at all. It is known which files these are: no script
files, and of the others those whose reading comes to a marked section of no known kind, or to a
character's number that is too long.
-/

import SfcLint.Analysis.File
import SfcLint.Proofs.Analysis.Selection
import SfcLint.Proofs.Component.Unreadable
import SfcLint.Proofs.Rule.Totality

namespace SfcLint

namespace AntiPattern

/-- All that the rule of the anti-pattern reads in the component can be read. -/
structure Legible (component : Component) (pattern : AntiPattern) : Prop where
  members : ∀ body, pattern.Reads component.code body → ¬ Script.HoldsEmptyKey body
  numbers : ∀ digits, pattern.ReadsNumber component digits → digits.length ≤ 4300

variable {component : Component} {path : String} {thresholds : Thresholds}

theorem legible_iff (path : String) (pattern : AntiPattern) :
    pattern.Legible component ↔ ¬ (pattern.rule component path.toList).Fails := by
  rw [fails_rule_iff, not_or]
  constructor
  · rintro ⟨members, numbers⟩
    refine ⟨?_, ?_⟩
    · rintro ⟨body, reads, empty⟩
      exact members body reads empty
    · rintro ⟨digits, reads, long⟩
      exact Nat.not_lt.mpr (numbers digits reads) long
  · rintro ⟨members, numbers⟩
    refine ⟨fun body reads empty => members ⟨body, reads, empty⟩, fun digits reads => ?_⟩
    exact Nat.not_lt.mp fun long => numbers ⟨digits, reads, long⟩

/-- The issues of an anti-pattern are found exactly when all that its rule reads can be read. -/
theorem exists_issues_iff (pattern : AntiPattern) :
    (∃ issues, pattern.issues component path thresholds = .ok issues) ↔
      pattern.Legible component := by
  rw [← Except.not_fails_iff, legible_iff path, issues, bind_pure_comp, Except.fails_map_iff]

theorem failure?_eq_none_iff (pattern : AntiPattern) :
    (outcome component path thresholds pattern).failure? = none ↔ pattern.Legible component := by
  have readable : (∃ issues, pattern.issues component path thresholds = .ok issues) ↔
      pattern.Legible component := pattern.exists_issues_iff
  rw [← readable, outcome]
  cases pattern.issues component path thresholds with
  | error failure => exact iff_of_false (by rintro ⟨⟩) (by rintro ⟨issues, ⟨⟩⟩)
  | ok issues => exact iff_of_true rfl ⟨issues, rfl⟩

end AntiPattern

namespace Plan

/-- Whatever the thresholds, a detector returns issues for a component exactly when all that it
reads in it can be read, and the analysis of the component's file has no errors exactly when this
holds for every anti-pattern that is looked for. -/
theorem errors_of_analyze {path source : String} {component : Component}
    (parses : Component.read path.toList source.toList = .ok component) :
    (∀ (pattern : AntiPattern) (thresholds : Thresholds),
      (∃ issues, pattern.issues component path thresholds = .ok issues) ↔
        pattern.Legible component) ∧
    ∀ plan : Plan, ∃ result, (plan.analyze path source).result = .ok result ∧
      (result.errors = [] ↔ ∀ pattern ∈ plan.patterns, pattern.Legible component) := by
  refine ⟨fun pattern thresholds => pattern.exists_issues_iff, fun plan => ?_⟩
  refine ⟨_, analyze_of_read plan parses, ?_⟩
  rw [Check.runAll, Check.outcomes_checks, Check.collect_errors, List.map_eq_nil_iff,
    List.filterMap_eq_nil_iff, List.forall_mem_map]
  exact forall₂_congr fun pattern _ => pattern.failure?_eq_none_iff

/-- Options with an empty key in double quotes. -/
def emptyDoubleKey : String := "<script>export default \x7b \"\": 1, 'name': 'div' \x7d</script>"

theorem errors_of_analyze_emptyDoubleKey :
    ∃ component, Component.read "A.vue".toList emptyDoubleKey.toList = .ok component ∧
      (∀ (pattern : AntiPattern) (thresholds : Thresholds),
        (∃ issues, pattern.issues component "A.vue" thresholds = .ok issues) ↔
          pattern.Legible component) ∧
      ∀ plan : Plan, ∃ result, (plan.analyze "A.vue" emptyDoubleKey).result = .ok result ∧
        (result.errors = [] ↔ ∀ pattern ∈ plan.patterns, pattern.Legible component) := by
  have made : (Component.read "A.vue".toList emptyDoubleKey.toList).toOption.isSome = true := by
    decide +kernel
  obtain ⟨component, parses⟩ := Option.isSome_iff_exists.mp made
  have parses := Except.toOption_eq_some_iff.mp parses
  exact ⟨component, parses, errors_of_analyze parses⟩

/-- Options with an empty key in single quotes. -/
def emptySingleKey : String := "<script>export default \x7b '': 1 \x7d</script>"

/-- A detector that reads an empty key in single quotes does not return. -/
theorem detector_fails_on_emptySingleKey :
    ¬ ∀ (path source : String) (component : Component) (pattern : AntiPattern)
        (thresholds : Thresholds), Component.read path.toList source.toList = .ok component →
      ∃ issues, pattern.issues component path thresholds = .ok issues := by
  intro always
  have failing : ((Component.read "A.vue".toList emptySingleKey.toList).toOption.any
      fun component => (AntiPattern.singleWordComponentName.issues component "A.vue"
        .standard).toOption.isNone) = true := by
    decide +kernel
  cases parses : Component.read "A.vue".toList emptySingleKey.toList with
  | error failure =>
    rw [parses] at failing
    contradiction
  | ok component =>
    obtain ⟨issues, found⟩ :=
      always _ _ component .singleWordComponentName .standard parses
    rw [parses] at failing
    simp only [Except.toOption, Option.any_some, found, Option.isNone_some,
      Bool.false_eq_true] at failing

/-! ## Files without a result -/

open Markup (maskInterpolations)

/-- The file is a script by the suffix of its path. -/
def IsScript (path : String) : Prop :=
  Component.scriptSuffixes.contains (Text.lower (Path.ofText path.toList).suffix) = true

theorem unreadable_read_iff {path source : String} :
    Unreadable (Component.read path.toList source.toList) ↔
      ¬ IsScript path ∧ Unreadable (Component.ofSource source.toList) := by
  rw [Component.read, IsScript]
  split
  next script => exact iff_of_false Unreadable.not_ok fun both => both.1 script
  next other => exact (and_iff_right other).symm

/-- The analysis has no result exactly when the file is no script and its reading comes to a place
that stops it. A result is that of the checks on the component that was read, or it is one critical
issue at the start of the file for a fault in its structure, and then no check was run. -/
theorem analyze_result (plan : Plan) (path source : String) :
    ((∃ failure, (plan.analyze path source).result = .error failure) ↔
      ¬ IsScript path ∧ ∃ n element state,
        Assembly.Reached source.toList (maskInterpolations source.toList) n element state ∧
          Assembly.Stops state element ((maskInterpolations source.toList).drop n)) ∧
    ∀ result, (plan.analyze path source).result = .ok result →
      (∃ component, Component.read path.toList source.toList = .ok component ∧
        result = (plan.analyzeComponent component path).result) ∨
      ∃ fault place, Component.read path.toList source.toList = .error (.malformed fault place) ∧
        (plan.analyze path source).events =
          [.parseStarted path, .parseFailed path fault.message] ∧
        result = ⟨path, [⟨"PARSE_ERROR", .critical, "Failed to parse Vue SFC: " ++ fault.message,
          ⟨1, 1⟩, none⟩], []⟩ := by
  rw [← Component.unreadable_ofSource_iff, ← unreadable_read_iff, analyze]
  split
  next component read =>
    refine ⟨iff_of_false ?_ (read ▸ Unreadable.not_ok), fun result said => .inl ⟨component, read, ?_⟩⟩
    · rintro ⟨failure, failed⟩
      contradiction
    · exact (Except.ok.inj said).symm
  next fault place read =>
    refine ⟨iff_of_false ?_ (read ▸ Unreadable.not_malformed),
      fun result said => .inr ⟨fault, place, read, rfl, (Except.ok.inj said).symm⟩⟩
    rintro ⟨failure, failed⟩
    contradiction
  next failure read =>
    refine ⟨iff_of_true ⟨failure, rfl⟩ ⟨failure, read⟩, fun result said => ?_⟩
    contradiction

/-- A marked section of a kind of its own leaves a file without a result. -/
theorem no_result_for_section :
    ¬ ∀ (plan : Plan) (path source : String),
      ∃ result, (plan.analyze path source).result = .ok result := by
  intro always
  obtain ⟨result, said⟩ := always ⟨Thresholds.standard, []⟩ "A.vue" "<![foo["
  have unread : Component.read "A.vue".toList "<![foo[".toList =
      .error (.unreadable (.unknownSection "foo".toList)) := by
    rfl
  rw [analyze, unread] at said
  contradiction

end Plan

end SfcLint
