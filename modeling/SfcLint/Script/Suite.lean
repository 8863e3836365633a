/-
# Test suites

The test cases of a script: calls of the functions that define a test, with a literal name and a
function with a block.
-/

import SfcLint.Script.Call
import SfcLint.Script.Function
import SfcLint.Script.Phrase
import SfcLint.Script.Split

namespace SfcLint.Script

open Pattern

/-- The functions that define a test. -/
def testFunction : Pattern :=
  seq (words ["it", "test"]) (optional (words [".only", ".skip", ".concurrent"]))

/-- The calls that define a test. -/
def testCalls (t : Text) : List Call := calls testFunction false t

/-- What stands between two quotes of the same kind. -/
def sameQuotes? (t : Text) : Option Text :=
  match t with
  | first :: rest =>
      if isQuote first ∧ rest.getLast? = some first then some rest.dropLast else none
  | [] => none

/-- The test case that a call defines. -/
def testCaseOf? (call : Call) : Option NamedBody :=
  match splitCommas call.args.body with
  | name :: value :: _ => do
      let name ← sameQuotes? name
      let block ← (functionBody? value).bind FunctionBody.block?
      return ⟨name, block.body, call.start⟩
  | _ => none

/-- The test cases of a script, in order. -/
def testCases (t : Text) : List NamedBody := (testCalls t).filterMap testCaseOf?

end SfcLint.Script
