/-
# Calls

The places where a function of a given name is called: the name as a whole and not as a member of
something, an optional list of type arguments, and parentheses that close.
-/

import SfcLint.Pattern.Search
import SfcLint.Script.Span

namespace SfcLint.Script

/-- A call: the name as written, its offset, and the parentheses with the arguments. -/
structure Call where
  name : Text
  start : Nat
  args : Span
  deriving DecidableEq, Repr

open Pattern

/-- Type arguments, nested at most once, without parentheses. -/
def typeArguments : Pattern :=
  all ["<", star (alt (one (outside "()<>")) (all ["<", many (outside "()<>"), ">"])), ">"]

/-- A name from `names` and the parenthesis that starts its arguments. -/
def callStart (names : Pattern) (generic : Bool) : Pattern :=
  all [
    freshRoot,
    capture "name" names,
    blanks,
    if generic then optional (all [typeArguments, blanks]) else empty,
    "("]

/-- The calls of functions whose names match, and with `generic` those with type arguments too. -/
def calls (names : Pattern) (generic : Bool) (t : Text) : List Call :=
  ((callStart names generic).hits t).filterMap fun hit =>
    (spanAt? t (hit.stop - 1)).map fun args => ⟨hit.group "name", hit.start, args⟩

/-- The calls of functions with one of some plain names. -/
def plainCalls (names : List String) (t : Text) : List Call := calls (words names) false t

/-- The functions that hand a value down to descendants or take one, on any object. -/
def injectionFunction : Pattern :=
  seq (star (seq (some1 Text.isNameChar) ".")) (words ["provide", "inject"])

end SfcLint.Script
