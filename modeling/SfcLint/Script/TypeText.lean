/-
# Types as written

The value that a variable of a written type may start with.
-/

import SfcLint.Text.Basic

namespace SfcLint.Script

/-- The first values of some types. -/
def initialValues : List (String × String) :=
  [("string", "''"), ("number", "0"), ("boolean", "false"), ("object", "\x7b\x7d"),
    ("Array", "[]"), ("Object", "\x7b\x7d")]

/-- The value that a variable of the type may start with. -/
def initialValue (type : Text) : String :=
  let type := Text.strip type
  if type.endsWith "[]" then "[]"
  else
    let first := Text.strip (type.takeWhile (· != '|'))
    (initialValues.lookup (String.ofList first)).getD "null"

end SfcLint.Script
