/-
# Analysing a file

A plan says what to look for and under which thresholds. A file that cannot be read as a component
has one issue that says so; one that cannot even be cut into tokens has no result.
-/

import SfcLint.Analysis.Check
import SfcLint.Component.Source
import SfcLint.Threshold.Resolve

namespace SfcLint

/-- What to look for, and under which thresholds. -/
structure Plan where
  thresholds : Thresholds
  patterns : List AntiPattern

/-- Why there is no plan. -/
inductive PlanError
  | thresholds (failure : OverrideError)
  | categories (failure : Category.UnknownNames)

/-- How the failure is reported. -/
def PlanError.message : PlanError → String
  | thresholds failure => failure.message
  | categories failure => failure.message

/-- The name under which a file that is no component is reported. -/
def parseErrorId : String := "PARSE_ERROR"

/-- The result for a file whose structure has a fault. -/
def FileResult.ofFault (path reason : String) : FileResult :=
  ⟨path, [⟨parseErrorId, .critical, s!"Failed to parse Vue SFC: {reason}", Position.start, none⟩],
    []⟩

namespace Plan

/-- The plan for some values of thresholds and some categories. Without values the standard
thresholds hold, and without categories everything is looked for. -/
def make (overrides : Option Overrides) (categories : List String) : Except PlanError Plan := do
  let thresholds ← ((overrides.getD []).resolve Thresholds.standard).mapError .thresholds
  let patterns ← (AntiPattern.select categories).mapError .categories
  return ⟨thresholds, patterns⟩

/-- The checks of the plan. -/
def checks (plan : Plan) : List Check := plan.patterns.map AntiPattern.check

/-- The result for a component. -/
def analyzeComponent (plan : Plan) (component : Component) (path : String) : Run FileResult :=
  Check.runAll plan.checks component path plan.thresholds

/-- The result for a file, given its text. -/
def analyze (plan : Plan) (path source : String) : Run (Except Markup.TokenFailure FileResult) :=
  match Component.read path.toList source.toList with
  | .ok component =>
      let run := plan.analyzeComponent component path
      ⟨.parseStarted path :: run.events, .ok run.result⟩
  | .error (.malformed fault _) =>
      ⟨[.parseStarted path, .parseFailed path fault.message],
        .ok (.ofFault path fault.message)⟩
  | .error (.unreadable failure) => ⟨[.parseStarted path], .error failure⟩

end Plan

end SfcLint
