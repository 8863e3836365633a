/-
# Destructuring declarations

Declarations that take members out of what a call gives: the keys, the names they are taken under,
the function called, and where the statement ends.
-/

import SfcLint.Script.Call
import SfcLint.Script.Entry
import SfcLint.Script.Phrase

namespace SfcLint.Script

/-- A declaration that takes members out of what a call gives. -/
structure Destructuring where
  offset : Nat
  keys : List Text
  names : List Text
  callee : Text
  stop : Nat
  deriving DecidableEq, Repr

open Pattern

/-- The keyword of a declaration before a brace. -/
def destructuringStart : Pattern := all [freshRoot, declarator, blanks, beforeBrace]

/-- What stands between the braces and the arguments of the call. -/
def destructuredCall : Pattern :=
  all [
    blanks, annotation, "=", blanks, optional (all ["await", blanks1]),
    capture "callee" (some1 fun c => Text.isNameChar c || c == '.'),
    blanks, optional (all [typeArguments, blanks]), "("]

/-- The offset of the next semicolon, or of the end. -/
def statementEnd (t : Text) (offset : Nat) : Nat :=
  offset + ((t.drop offset).takeWhile (· != ';')).length

/-- The declaration that a hit of `destructuringStart` starts. -/
def destructuringOf? (t : Text) (hit : Hit) : Except Failure (Option Destructuring) :=
  match spanAt? t hit.stop with
  | none => .ok none
  | some span =>
      match destructuredCall.leading? (t.drop (span.stop + 1)) with
      | none => .ok none
      | some call => do
          let entries ← objectEntries span.body
          let named := entries.filterMap fun entry =>
            (entry.key.filter (!·.isEmpty)).map fun key => (key, entry.value)
          return some
            ⟨hit.start, named.map (·.1), named.map (·.2), call.group "callee",
              statementEnd t (span.stop + 1 + call.stop)⟩

/-- The declarations that take members out of what calls give, in order. -/
def destructurings (t : Text) : Except Failure (List Destructuring) := do
  return (← (destructuringStart.hits t).mapM (destructuringOf? t)).filterMap id

end SfcLint.Script
