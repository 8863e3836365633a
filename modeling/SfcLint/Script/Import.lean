/-
# Imports

The modules that a script imports by a default name, whether it uses a library that renders only
the visible part of a list, and whether a file is a test by its path.
-/

import SfcLint.Json.Value
import SfcLint.Script.Phrase

namespace SfcLint.Script

open Pattern

/-- Libraries that render only the visible part of a list. -/
def virtualizationLibraries : List Text :=
  ["vue-virtual-scroller", "vue-virtual-scroll-list", "virtual-list", "@tanstack/vue-virtual",
    "vue3-virtual-scroll-list"].map String.toList

/-- A single or double quote. -/
def plainQuote : Pattern := one (among "'\"")

/-- The import of a library. -/
def libraryImport (library : Text) : Pattern :=
  all [any [all ["from", blanks], all ["require(", blanks]], plainQuote, literal library,
    plainQuote]

/-- The script imports a library that renders only the visible part of a list. -/
def usesVirtualization (t : Text) : Bool :=
  virtualizationLibraries.any fun library => (libraryImport library).occursIn t

/-- The import of a module under a default name. -/
def defaultImport : Pattern :=
  all [freshRoot, "import", blanks1, capture "name" identifier, blanks1, "from", blanks1,
    plainQuote, capture "module" (some1 (outside "'\"")), plainQuote]

/-- A module imported under a default name, and where. -/
structure ImportedModule where
  path : Text
  offset : Nat
  deriving DecidableEq, Repr

/-- The default imports by name, in the order in which the names first come; a later import of the
same name counts. -/
def defaultImports (t : Text) : List (String × ImportedModule) :=
  Json.upsertAll ((defaultImport.hits t).map fun hit =>
    (String.ofList (hit.group "name"), ⟨hit.group "module", hit.start⟩))

/-- What a path of a test file holds. -/
def testMarkers : List Text := [".spec.", ".test.", "__tests__", "/tests/"].map String.toList

/-- The file is a test, by its path. -/
def isTestFile (path : Text) : Bool :=
  let path : Text := path.map fun c => if c = '\\' then '/' else c
  testMarkers.any path.includes

end SfcLint.Script
