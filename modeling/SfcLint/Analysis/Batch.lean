/-
# Analysing many files

The files of a batch are analysed one after the other in the order in which they are given. One
that fails or never runs leaves an error in its own result, and the others are not disturbed. The
events of all files come first, and then one for each file that failed.
-/

import SfcLint.Analysis.File
import SfcLint.Json.Printer

namespace SfcLint

/-- A file of a batch. -/
structure SourceFile where
  path : String
  content : String
  deriving DecidableEq, Repr

/-- Why there is no batch. -/
inductive BatchError
  /-- An entry is neither an object nor a pair. -/
  | notEntry (value : Json)
  /-- The path or the text of an entry is missing or no text. -/
  | notTexts (value : Json)
  | plan (failure : PlanError)
  /-- There is nobody to do the work. -/
  | noWorkers

/-- How the failure is reported. -/
def BatchError.message : BatchError → String
  | notEntry value => "Invalid file entry: " ++ value.shown
  | notTexts value => "File entries need string 'path' and 'content': " ++ value.shown
  | plan failure => failure.message
  | noWorkers => "max_workers must be greater than 0"

namespace SourceFile

/-- The file that a value describes: an object with a path under either of two keys, or a pair. -/
def read (value : Json) : Except BatchError SourceFile := do
  let parts ← match value with
    | .object members =>
        .ok ((members.lookup "path").or (members.lookup "file_path"), members.lookup "content")
    | .list [path, content] => .ok (some path, some content)
    | _ => .error (.notEntry value)
  match parts with
  | (some (.string path), some (.string content)) => return ⟨path, content⟩
  | _ => .error (.notTexts value)

end SourceFile

/-- What became of a file in a batch. -/
inductive Turn
  /-- It never ran. -/
  | stuck
  | ran (run : Run (Except Markup.TokenFailure FileResult))

namespace Turn

/-- The turn of a file under a plan, unless its path is one of those that never run. -/
def take (plan : Plan) (stuck : List String) (file : SourceFile) : Turn :=
  if stuck.contains file.path then .stuck else .ran (plan.analyze file.path file.content)

/-- The events while the file had its turn. -/
def events (path : String) : Turn → List Event
  | stuck => []
  | ran ⟨events, .ok result⟩ =>
      .fileStarted path :: events ++ [.fileCompleted path result.issues.length]
  | ran ⟨events, .error _⟩ => .fileStarted path :: events

/-- The event after all turns, if the file failed. -/
def failure? (path : String) : Turn → Option Event
  | stuck => some (.fileFailed path "timed out")
  | ran ⟨_, .ok _⟩ => none
  | ran ⟨_, .error failure⟩ => some (.fileFailed path failure.message)

/-- The result for the file. -/
def result (path : String) : Turn → FileResult
  | stuck => ⟨path, [], ["Analysis timed out"]⟩
  | ran ⟨_, .ok result⟩ => result
  | ran ⟨_, .error failure⟩ => ⟨path, [], [failure.message]⟩

end Turn

namespace Plan

/-- The results for some files, in order. -/
def analyzeAll (plan : Plan) (stuck : List String) (files : List SourceFile) :
    Run (List FileResult) :=
  let turns := files.map fun file => (file.path, Turn.take plan stuck file)
  ⟨turns.flatMap (fun (path, turn) => turn.events path) ++
      turns.filterMap (fun (path, turn) => turn.failure? path),
    turns.map fun (path, turn) => turn.result path⟩

end Plan

/-- A batch as it is asked for. -/
structure BatchRequest where
  files : List Json
  overrides : Option Overrides
  categories : List String
  workers : Option Int
  stuck : List String

/-- The results for the files of a batch, in order. Nothing runs unless all of the request is
accepted. The number of workers counts only when there is something to do. -/
def BatchRequest.run (request : BatchRequest) : Except BatchError (Run (List FileResult)) := do
  let files ← request.files.mapM SourceFile.read
  let plan ← (Plan.make request.overrides request.categories).mapError .plan
  if !files.isEmpty && request.workers.any (· ≤ 0) then .error .noWorkers
  else return plan.analyzeAll request.stuck files

end SfcLint
