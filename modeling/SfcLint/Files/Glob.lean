/-
# Finding files by wildcards

A pattern is a row of steps between slashes. The steps before the first wildcard lead to a place
as they stand; from there a wildcard leads to the names in a folder that it matches, a double star
to the folder and all folders below it, and a plain name to itself where it is found. Names that
start with a dot are found only by a wildcard that does, and never by a double star. Steps lead
through folders; only the last one leads to files as well.
-/

import SfcLint.Files.Disk
import SfcLint.Files.Wildcard

namespace SfcLint

namespace Glob

/-- The steps of a pattern. A slash at the end asks for a folder, as a dot does. -/
def steps (pattern : Text) : List Text :=
  (Text.splitAt '/' pattern).filter (fun step => !step.isEmpty) ++
    if pattern.getLast? = some '/' then [['.']] else []

/-- The name starts with a dot. -/
def isHidden (name : Text) : Bool := name.head? == some '.'

/-- What lies below a place at any depth, without hidden names on the way. -/
def visibleBelow (disk : Disk) (place : List Text) : List (List Text) :=
  (disk.below place).filter fun row => !row.any isHidden

/-- The paths that one step leads to. `last` says that no further step follows. -/
def follow (disk : Disk) (step : Text) (last : Bool) (path : Path) : List Path :=
  let open? (place : List Text) : Bool := last || disk.hasFolder place
  if step = "**".toList then
    match disk.find path with
    | .ok place =>
        (if disk.hasFolder place then [path] else []) ++
          (visibleBelow disk place).filterMap fun row =>
            if open? (place ++ row) then some ⟨path.root, path.parts ++ row⟩ else none
    | .error _ => []
  else if step.isWildcard then
    match disk.find path with
    | .ok place =>
        (disk.names place).filterMap fun name =>
          if name.matchesWildcard step && (isHidden step || !isHidden name) &&
              open? (place ++ [name]) then
            some (path.child name)
          else none
    | .error _ => []
  else if step = ['.'] then
    if disk.isFolder path then [path] else []
  else if disk.reaches (path.child step) then [path.child step]
  else []

/-- The paths that steps lead to. -/
def followAll (disk : Disk) : List Text → Path → List Path
  | [], path => [path]
  | step :: rest, path =>
      (follow disk step rest.isEmpty path).flatMap fun next => followAll disk rest next

/-- The paths that a pattern with wildcards leads to. -/
def expand (disk : Disk) (pattern : Text) : List Path :=
  let all := steps pattern
  let start := all.takeWhile fun step => !Text.isWildcard step
  let rest := all.dropWhile fun step => !Text.isWildcard step
  followAll disk rest ⟨Path.rootOf pattern, start.filter (· != ['.'])⟩

/-- The path that a pattern starts with, up to its first wildcard. -/
def base (pattern : Text) : Path :=
  let path := Path.ofText pattern
  ⟨path.root, path.parts.takeWhile fun part => !Text.isWildcard part⟩

end Glob

end SfcLint
