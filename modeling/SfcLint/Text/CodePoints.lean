/-
# Sets of code points

A set of code points is given by the ascending list of the places where membership changes: the
first entry is the first member, the second the first code point after that run, and so on.
Membership is then the parity of the number of changes passed, found by halving.
-/

import SfcLint.Text.Basic

namespace SfcLint

/-- A set of code points, by the ascending list of the code points where membership changes. -/
structure CodePoints where
  changes : Array Nat

namespace CodePoints

/-- How many changes lie at or below `code`, when it is known that `low` of them do and that those
from `high` on do not. -/
def passed (changes : Array Nat) (code low high : Nat) : Nat :=
  if low < high then
    let middle := (low + high) / 2
    if changes.getD middle 0 ≤ code then passed changes code (middle + 1) high
    else passed changes code low middle
  else low
termination_by high - low

/-- Whether the character belongs to the set. -/
def contains (set : CodePoints) (c : Char) : Bool :=
  passed set.changes c.toNat 0 set.changes.size % 2 = 1

end CodePoints

end SfcLint
