/-
# Searching for files

A search takes paths, folders and wildcards. A path that names a file is taken whatever its
suffix; a folder gives the files below it with one of the wanted endings, and a wildcard those that
it leads to and that can be analysed. The files found are a set, in the order of their paths.
-/

import SfcLint.Component.Source
import SfcLint.Files.Exclusion
import SfcLint.Files.Glob

namespace SfcLint

/-- A row in ascending order with one more text, unless it is there already. -/
def insertSorted (text : String) : List String → List String
  | [] => [text]
  | other :: rest =>
      if text < other then text :: other :: rest
      else if other < text then other :: insertSorted text rest
      else other :: rest

/-- The texts in ascending order, each once. -/
def sortedSet (texts : List String) : List String := texts.foldr insertSorted []

/-- What a search looks for, and what it passes over. -/
structure Search where
  patterns : List Text
  exclude : List Text
  extensions : List Text

namespace Search

/-- The endings that are wanted when nothing else is said. -/
def standardExtensions : List Text := [".vue".toList]

/-- The suffixes of files that can be analysed. -/
def analyzable : List Text := ".vue".toList :: Component.scriptSuffixes

/-- The patterns in a list of patterns between commas. -/
def splitPatterns (t : Text) : List Text :=
  ((Text.splitAt ',' t).map Text.strip).filter fun pattern => !pattern.isEmpty

/-- What a pattern leads to: where it starts, and the paths with an acceptable suffix. -/
structure Leads where
  base : Path
  paths : List Path

/-- The suffix of a path, in small letters, is one of some. -/
def hasSuffix (suffixes : List Text) (path : Path) : Bool := suffixes.contains path.suffix.lower

/-- The paths below a folder whose names have one of the wanted endings. -/
def inFolder (disk : Disk) (extensions : List Text) (path : Path) : List Path :=
  match disk.find path with
  | .error _ => []
  | .ok place =>
      (disk.below place).filterMap fun row =>
        if extensions.any fun extension =>
            Text.matchesWildcard (row.getLast?.getD []) ('*' :: extension) then
          some ⟨path.root, path.parts ++ row⟩
        else none

/-- What a pattern leads to. -/
def leads (disk : Disk) (extensions : List Text) (pattern : Text) : Leads :=
  let path := Path.ofText pattern
  if pattern.isWildcard then
    ⟨Glob.base pattern,
      (Glob.expand disk pattern).filter (hasSuffix (extensions ++ analyzable))⟩
  else if disk.isFile path then ⟨path.parent, [path]⟩
  else ⟨path, (inFolder disk extensions path).filter (hasSuffix extensions)⟩

/-- The path is passed over in a search that starts at `base`. -/
def passesOver (disk : Disk) (exclude : List Text) (base path : Path) : Bool :=
  ((path.relativeTo? base).getD path).isSkipped [] || path.isExcluded base disk.current exclude

/-- The files that a pattern gives. -/
def filesOf (search : Search) (disk : Disk) (pattern : Text) : List String :=
  let found := leads disk search.extensions pattern
  (found.paths.filter fun path =>
    disk.isFile path && !passesOver disk search.exclude found.base path).map Path.toString

/-- The files that a search finds. -/
def run (search : Search) (disk : Disk) : List String :=
  let patterns := (search.patterns.map Text.strip).filter fun pattern => !pattern.isEmpty
  sortedSet (patterns.flatMap (search.filesOf disk))

end Search

end SfcLint
