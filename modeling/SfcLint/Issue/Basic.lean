/-
# Issues

An issue says something about a place of a file, under the name of the anti-pattern that was found
there. The result for a file holds its issues, the most severe first, and the errors of rules that
failed.
-/

import SfcLint.Issue.Severity
import SfcLint.Json.Value
import SfcLint.Text.Position

namespace SfcLint

/-- What is said about a place of a file, under the name of an anti-pattern. -/
structure Issue where
  pattern : String
  severity : Severity
  message : String
  position : Position
  refactoring : Option String
  deriving DecidableEq, Repr

namespace Issue

/-- The issue as a data value. An empty refactoring is left out. -/
def toJson (issue : Issue) : Json :=
  .object ([
    ("pattern", .string issue.pattern),
    ("severity", .string issue.severity.name),
    ("message", .string issue.message),
    ("location", .object [
      ("line", .int issue.position.line), ("column", .int issue.position.column)])] ++
    match issue.refactoring with
    | some text => if text.isEmpty then [] else [("refactoring", .string text)]
    | none => [])

/-- Issues by severity, the most severe first; issues of one severity keep their order. -/
def sort (issues : List Issue) : List Issue :=
  issues.mergeSort fun a b => b.severity.weight ≤ a.severity.weight

end Issue

/-- The issues of a file, and the errors of rules that failed on it. -/
structure FileResult where
  path : String
  issues : List Issue
  errors : List String
  deriving DecidableEq, Repr

/-- The result as a data value. Without errors there is no list of errors. -/
def FileResult.toJson (result : FileResult) : Json :=
  .object ([
    ("filePath", .string result.path),
    ("issues", .list (result.issues.map Issue.toJson))] ++
    if result.errors.isEmpty then []
    else [("errors", .list (result.errors.map Json.string))])

end SfcLint
