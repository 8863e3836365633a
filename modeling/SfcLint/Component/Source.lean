/-
# Reading a file

A file with the suffix of a script is one script, and any other file is read as a component.
-/

import SfcLint.Component.Assembly
import SfcLint.Files.Path

namespace SfcLint.Component

/-- The suffixes of script files. -/
def scriptSuffixes : List Text :=
  [".js", ".jsx", ".ts", ".tsx", ".mjs", ".cjs", ".mts", ".cts"].map String.toList

/-- The component in a file with the given path and text. -/
def read (path source : Text) : Except ParseError Component :=
  let suffix := Text.lower (Path.ofText path).suffix
  if scriptSuffixes.contains suffix then
    .ok (ofScript source (some (if suffix.includes "ts" then "ts" else "js")))
  else ofSource source

end SfcLint.Component
