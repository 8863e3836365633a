/-
# Severity

Four levels of severity, ordered by weight. The name of a level is written in capitals.
-/

import SfcLint.Text.Case
import SfcLint.Text.Quoted

namespace SfcLint

/-- How severe an issue is. -/
inductive Severity
  | critical
  | high
  | medium
  | low
  deriving DecidableEq, Repr

namespace Severity

/-- All levels, the most severe first. -/
def every : List Severity := [critical, high, medium, low]

/-- The weight of a level. A more severe level is heavier. -/
def weight : Severity → Nat
  | critical => 4
  | high => 3
  | medium => 2
  | low => 1

/-- The name of a level. -/
def name : Severity → String
  | critical => "CRITICAL"
  | high => "HIGH"
  | medium => "MEDIUM"
  | low => "LOW"

/-- The level of a name in capitals. -/
def ofName? (name : String) : Option Severity := every.find? (·.name == name)

/-- There is no level of a name. -/
structure UnknownName where
  name : Text
  deriving DecidableEq, Repr

/-- How an unknown name is reported. -/
def UnknownName.message (failure : UnknownName) : String :=
  String.ofList (Text.quoted failure.name) ++ " is not a valid Severity"

/-- The level of a name in any mixture of cases. -/
def read (t : Text) : Except UnknownName Severity :=
  let name := Text.upper t
  match ofName? (String.ofList name) with
  | some severity => .ok severity
  | none => .error ⟨name⟩

/-- The heavier of two levels, the first if they are equally heavy; a missing one does not
count. -/
def stronger? : Option Severity → Option Severity → Option Severity
  | none, second => second
  | first, none => first
  | some first, some second => if second.weight ≤ first.weight then some first else some second

end Severity

end SfcLint
