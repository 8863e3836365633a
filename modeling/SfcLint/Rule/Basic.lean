/-
# Rules

A rule finds the places of a component that are worth judging. What it says about a place, if
anything, is decided by the thresholds alone: a component is measured once, and the same measures
can be judged under other thresholds.
-/

import SfcLint.Component.Basic
import SfcLint.Issue.Basic
import SfcLint.Pattern.Search
import SfcLint.Script.Entry
import SfcLint.Threshold.Basic

namespace SfcLint

/-- What is said about a place. -/
structure Verdict where
  severity : Severity
  message : String
  refactoring : String
  deriving DecidableEq, Repr

/-- A place that has been measured, with what the thresholds make of the measures. -/
structure Suspect where
  position : Position
  verdict? : Thresholds → Option Verdict

namespace Suspect

/-- A place about which the same is said under all thresholds. -/
def certain (position : Position) (severity : Severity) (message refactoring : String) : Suspect :=
  ⟨position, fun _ => some ⟨severity, message, refactoring⟩⟩

/-- The issue at the place, under the name of an anti-pattern. -/
def issue? (suspect : Suspect) (pattern : String) (thresholds : Thresholds) : Option Issue :=
  (suspect.verdict? thresholds).map fun verdict =>
    ⟨pattern, verdict.severity, verdict.message, suspect.position, some verdict.refactoring⟩

end Suspect

/-- A way to find suspect places in a component that a file with the given path holds. -/
abbrev Rule := Component → Text → Except Script.Failure (List Suspect)

namespace Rule

/-- A rule that never fails. -/
def ofSuspects (suspects : Component → Text → List Suspect) : Rule := fun component path =>
  .ok (suspects component path)

/-- A rule about the script. It has nothing to say where there is no code. -/
def onScript (rule : Component → Text → Except Script.Failure (List Suspect)) : Rule :=
  fun component _ =>
    match component.script? with
    | some (c :: code) => rule component (c :: code)
    | _ => .ok []

/-- A rule about the script that never fails. -/
def inScript (suspects : Component → Text → List Suspect) : Rule :=
  onScript fun component code => .ok (suspects component code)

/-- A suspect at every match of a pattern in the script, whatever the thresholds. -/
def atHits (pattern : Pattern) (severity : Severity) (message refactoring : String)
    (component : Component) (code : Text) : List Suspect :=
  (pattern.hits code).map fun hit =>
    .certain (component.scriptPosition hit.start) severity message refactoring

end Rule

end SfcLint
