/-
# Files that are passed over

Below the place where a search starts, hidden files and folders are skipped, and so is everything
in folders that hold tools and products of a build. Beside that, wildcards exclude files by their
path as it is given, by their absolute path, and by their path below the start of the search.
-/

import SfcLint.Files.Disk
import SfcLint.Files.Wildcard
import SfcLint.Text.Case

namespace SfcLint

namespace Path

/-- Names that are skipped, in small letters. -/
def skippedNames : List Text :=
  [".git", "__pycache__", "node_modules", ".venv", "dist", "build", "coverage", ".nuxt",
    ".output"].map String.toList

/-- A name is skipped if it is hidden, or if in small letters it is one of the skipped names or of
some further ones. -/
def skipsName (further : List Text) (name : Text) : Bool :=
  (skippedNames ++ further).contains name.lower ||
    (name.startsWith ['.'] && name != ['.'] && name != ['.', '.'])

/-- A path is skipped if any of its parts is. -/
def isSkipped (path : Path) (further : List Text) : Bool :=
  path.segments.any (skipsName further)

/-- The forms of a path that wildcards are compared with. -/
def exclusionForms (path base : Path) (current : List Text) : List Text :=
  let whole := path.resolve current
  [path.toText, whole.toText] ++
    ((whole.relativeTo? (base.resolve current)).map toText).toList

/-- The forms of a wildcard: one that starts at any depth also matches at the start. -/
def exclusionWildcards (wildcard : Text) : List Text :=
  match Text.dropFront? "**/" wildcard with
  | some rest => [wildcard, rest]
  | none => [wildcard]

/-- Some wildcard excludes the path in a search that starts at `base`. -/
def isExcluded (path base : Path) (current : List Text) (wildcards : List Text) : Bool :=
  wildcards.any fun wildcard =>
    (exclusionForms path base current).any fun form =>
      (exclusionWildcards wildcard).any fun variant => form.matchesWildcard variant

end Path

end SfcLint
