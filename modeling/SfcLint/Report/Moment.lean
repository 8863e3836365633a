/-
# Moments

A moment is a date and a time of day to the second, in coordinated universal time. Reports show it
in two forms, one for programs and one for people.
-/

import SfcLint.Text.Basic

namespace SfcLint

/-- A date and a time of day in coordinated universal time. -/
structure Moment where
  year : Nat
  month : Nat
  day : Nat
  hour : Nat
  minute : Nat
  second : Nat
  deriving DecidableEq, Repr

namespace Moment

/-- The year, month and day that come a number of days after the start of 1970. Years are counted
from March, so that a leap day is the last day of its year. -/
def dateOfDays (days : Nat) : Nat × Nat × Nat :=
  let shifted := days + 719468
  let ofEra := shifted % 146097
  let yearOfEra := (ofEra - ofEra / 1460 + ofEra / 36524 - ofEra / 146096) / 365
  let ofYear := ofEra - (365 * yearOfEra + yearOfEra / 4 - yearOfEra / 100)
  let monthFromMarch := (5 * ofYear + 2) / 153
  let month := if monthFromMarch < 10 then monthFromMarch + 3 else monthFromMarch - 9
  let year := yearOfEra + shifted / 146097 * 400
  (if month ≤ 2 then year + 1 else year, month, ofYear - (153 * monthFromMarch + 2) / 5 + 1)

/-- The moment that comes a number of seconds after the start of 1970. -/
def ofSeconds (seconds : Nat) : Moment :=
  let (year, month, day) := dateOfDays (seconds / 86400)
  ⟨year, month, day, seconds / 3600 % 24, seconds / 60 % 60, seconds % 60⟩

/-- A number with at least the given count of digits. -/
def padded (width number : Nat) : String :=
  let digits := toString number
  String.ofList (List.replicate (width - digits.length) '0') ++ digits

/-- The date, with the parts from the largest to the smallest. -/
def date (moment : Moment) : String :=
  "-".intercalate [padded 4 moment.year, padded 2 moment.month, padded 2 moment.day]

/-- The time of day. -/
def time (moment : Moment) : String :=
  ":".intercalate [padded 2 moment.hour, padded 2 moment.minute, padded 2 moment.second]

/-- The moment as programs read it. -/
def stamp (moment : Moment) : String := moment.date ++ "T" ++ moment.time ++ "+00:00"

/-- The moment as people read it. -/
def plain (moment : Moment) : String := moment.date ++ " " ++ moment.time ++ " UTC"

end Moment

end SfcLint
