/-
# Events of an analysis

What an analysis tells while it runs: that a file is being read or could not be, that a check
failed on it, and, in a batch, that its turn has come, is over, or has failed. A run is a result
with the events on the way to it.
-/

import SfcLint.Json.Value

namespace SfcLint

/-- What happens while files are analysed. -/
inductive Event
  | parseStarted (path : String)
  | parseFailed (path reason : String)
  | checkFailed (path check reason : String)
  | fileStarted (path : String)
  | fileCompleted (path : String) (issues : Nat)
  | fileFailed (path reason : String)
  deriving DecidableEq, Repr

/-- The event as a data value. Events of a stage of the analysis of one file name that stage. -/
def Event.toJson : Event → Json
  | parseStarted path =>
      .object [("stage", .string "parse"), ("file", .string path), ("status", .string "started")]
  | parseFailed path reason =>
      .object [("stage", .string "parse"), ("file", .string path), ("status", .string "failed"),
        ("error", .string reason)]
  | checkFailed path check reason =>
      .object [("stage", .string "detector"), ("file", .string path), ("pattern", .string check),
        ("status", .string "failed"), ("error", .string reason)]
  | fileStarted path => .object [("file", .string path), ("status", .string "started")]
  | fileCompleted path issues =>
      .object [("file", .string path), ("status", .string "completed"), ("issues", .int issues)]
  | fileFailed path reason =>
      .object [("file", .string path), ("status", .string "failed"), ("error", .string reason)]

/-- A result and what happened on the way to it. -/
structure Run (α : Type) where
  events : List Event
  result : α

end SfcLint
