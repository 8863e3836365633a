/-
# Side effects

The kinds of side effects that the body of a function shows: it changes state, waits for
something, touches the document, or calls a method that may do any of these.
-/

import SfcLint.Script.Phrase

namespace SfcLint.Script

/-- The kinds of side effects. -/
inductive Effect
  | mutation
  | async
  | dom
  | methodCall
  deriving DecidableEq, Repr

namespace Effect

/-- All kinds, in the order in which they are reported. -/
def every : List Effect := [mutation, async, dom, methodCall]

/-- The short word for a kind. -/
def word : Effect → String
  | mutation => "mutation"
  | async => "async"
  | dom => "dom"
  | methodCall => "method_call"

/-- The kind in words. -/
def description : Effect → String
  | mutation => "state mutation"
  | async => "async operation"
  | dom => "DOM manipulation"
  | methodCall => "method call with potential side effects"

open Pattern

/-- A call of the library function that sends requests. -/
def ajaxCall : Pattern := all ["$.ajax", edge]

/-- What shows a side effect of the kind. -/
def signs : Effect → List Pattern
  | mutation =>
      [all [freshRoot, "this.", some1 Text.isNameChar, blanks, mutationOperator],
        all [freshRoot, some1 Text.isNameChar, ".value", blanks, mutationOperator]]
  | async =>
      (["async", "await", "Promise", "setTimeout", "setInterval", "fetch", "axios",
        "XMLHttpRequest"].map fun name => whole name.toList) ++ [ajaxCall]
  | dom =>
      [all [edge, "document."], all [edge, "window."], all [edge, "getElementById", edge],
        all [edge, "querySelector"], all [edge, "addEventListener", edge],
        all [edge, "removeEventListener", edge], all [edge, "innerHTML", edge],
        all [edge, "style."], all [edge, "classList."]]
  | methodCall =>
      [all [freshRoot, "this.", some1 Text.isNameChar, "("], all [edge, "console."],
        all [edge, "localStorage."], all [edge, "sessionStorage."]]

end Effect

/-- The kinds of side effects that the text shows. -/
def effects (t : Text) : List Effect :=
  if t.isEmpty then [] else Effect.every.filter fun effect => effect.signs.any (·.occursIn t)

open Pattern in
/-- A word that belongs to asynchronous code. -/
def asyncMarker : Pattern :=
  any [
    all [freshName,
      words ["async", "await", "Promise", "setTimeout", "setInterval", "fetch", "axios",
        "XMLHttpRequest", "then", "catch", "finally"],
      nameEnds],
    Effect.ajaxCall]

end SfcLint.Script
