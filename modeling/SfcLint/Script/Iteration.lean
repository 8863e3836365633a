/-
# Iteration expressions

What a repeated element iterates over: one or more names, the word `in` or `of`, and the source.
-/

import SfcLint.Pattern.Search
import SfcLint.Script.Split

namespace SfcLint.Script

/-- The names and the source of an iteration. -/
structure Iteration where
  aliases : List Text
  source : Text
  deriving DecidableEq, Repr

namespace Iteration

/-- The name of the index, when there is more than one name: the last. -/
def indexAlias? (iteration : Iteration) : Option Text :=
  match iteration.aliases with
  | _ :: _ :: _ => iteration.aliases.getLast?
  | _ => none

open Pattern

/-- The names, the word and the source, with as little as possible in the names. -/
def form : Pattern :=
  all [start, blanks, capture "alias" (few1 fun _ => true), blanks1, words ["in", "of"], blanks1,
    capture "source" (few1 fun _ => true), blanks, stop]

/-- The text without a parenthesis at its start and one at its end. -/
def namesInside (t : Text) : Text :=
  match t with
  | '(' :: rest => if t.getLast? = some ')' then rest.dropLast else t
  | _ => t

/-- The iteration that an expression writes. -/
def ofExpression? (expression : Text) : Option Iteration :=
  (form.leading? expression).map fun hit =>
    ⟨splitCommas (namesInside (Text.strip (hit.group "alias"))), Text.strip (hit.group "source")⟩

end Iteration

end SfcLint.Script
