/-
# Lenient reading

Settings take a value in more than one form: a number may be written as text, a truth value counts
as one or as nothing, and a word may stand for a truth value. A value that is not accepted has a
defect, and a problem is a defect together with the place where it was found.
-/

import SfcLint.Json.Reader

namespace SfcLint

/-- Why a value is not accepted. -/
inductive Defect
  | numeral
  | numeralSize
  | fraction
  | notWhole
  | notFinite
  | decimal
  | notNumber
  | notText
  | truthWord
  | notTruth
  | notList
  | notObject
  | notTable
  | notOption
  | missing
  | unknownKey
  deriving DecidableEq, Repr

/-- The code of a defect in messages. -/
def Defect.code : Defect → String
  | numeral => "int_parsing"
  | numeralSize => "int_parsing_size"
  | fraction => "int_from_float"
  | notWhole => "int_type"
  | notFinite => "finite_number"
  | decimal => "float_parsing"
  | notNumber => "float_type"
  | notText => "string_type"
  | truthWord => "bool_parsing"
  | notTruth => "bool_type"
  | notList => "list_type"
  | notObject => "dict_type"
  | notTable => "model_type"
  | notOption => "literal_error"
  | missing => "missing"
  | unknownKey => "extra_forbidden"

/-- A defect and the keys that lead to the value that has it, outermost first. -/
structure Problem where
  location : List String
  defect : Defect
  deriving DecidableEq, Repr

namespace Problem

/-- The problem as seen from a value that holds the faulty one under a key. -/
def within (key : String) (problem : Problem) : Problem :=
  ⟨key :: problem.location, problem.defect⟩

/-- How a problem is reported. -/
def message (problem : Problem) : String :=
  ".".intercalate problem.location ++ ": " ++ problem.defect.code

/-- How several problems are reported. -/
def summary (problems : List Problem) : String := "; ".intercalate (problems.map message)

end Problem

namespace Json

/-- Blanks around a number that is written as text. -/
def isPadding (c : Char) : Bool := Text.isBlank c && !(28 ≤ c.toNat && c.toNat ≤ 31)

/-- The text without the blanks around it. -/
def unpadded (t : Text) : Text := Text.dropEndWhile isPadding (t.dropWhile isPadding)

/-- The text without single underscores between other characters. Other texts with underscores
stay as they are. -/
def withoutUnderscores (t : Text) : Text :=
  if t.head? = some '_' || t.getLast? = some '_' || Text.includes t "__" then t
  else t.filter (· != '_')

/-- Digits without the zeros and underscores before the first other digit. A zero before a point
or at the end stays. The first argument is the character before. -/
def withoutZerosAfter (before : Char) : Text → Option Text
  | [] => some [before]
  | c :: t =>
      if c = '0' ∨ c = '_' then withoutZerosAfter c t
      else if '1' ≤ c ∧ c ≤ '9' then some (c :: t)
      else if c = '.' then some (before :: c :: t)
      else none

/-- A number without leading zeros, if it starts with a digit or a minus sign. -/
def withoutLeadingZeros : Text → Option Text
  | [] => none
  | c :: t =>
      if c = '0' then withoutZerosAfter c t
      else if isDecimal c || c == '-' then some (c :: t)
      else none

/-- A number without a point that is followed by zeros only. -/
def withoutEmptyFraction (t : Text) : Text :=
  if ((t.dropWhile (· != '.')).drop 1).all (· == '0') then t.takeWhile (· != '.') else t

/-- The digits of a whole number that is written as text, with its sign. -/
def wholeDigits? (t : Text) : Option Text :=
  let t := unpadded t
  let unsigned :=
    match t with
    | '+' :: '-' :: _ => t
    | '+' :: rest => rest
    | _ => t
  (withoutLeadingZeros unsigned).map fun t => withoutUnderscores (withoutEmptyFraction t)

/-- The whole number that digits write, without zeros before another digit. -/
def wholeOf? (digits : Text) : Option Int :=
  let (negative, digits) :=
    match digits with
    | '-' :: digits => (true, digits)
    | digits => (false, digits)
  if digits.isEmpty || !digits.all isDecimal || (digits.head? == some '0' && 1 < digits.length) then
    none
  else some (if negative then -(natOf digits : Int) else natOf digits)

/-- The whole number that a text writes. -/
def intOfText (t : Text) : Except Defect Int :=
  match wholeDigits? t with
  | none => .error .numeral
  | some digits =>
      if 4300 < digits.length then .error .numeralSize
      else
        match wholeOf? digits with
        | some n => .ok n
        | none => .error .numeral

/-- The least size that a whole number of sixty-four bits with a sign does not reach. -/
def wordBound : Nat := 9223372036854775808

/-- The whole number that a number is, within sixty-four bits. -/
def intOfFloat (x : Binary64) : Except Defect Int :=
  match x.toRat? with
  | none => .error .notFinite
  | some r =>
      if r.den ≠ 1 then .error .fraction
      else if r.num.natAbs < wordBound then .ok r.num
      else .error .numeralSize

/-- A value as a whole number. -/
def toInt : Json → Except Defect Int
  | bool value => .ok (if value then 1 else 0)
  | int n => .ok n
  | float x => intOfFloat x
  | string s => intOfText s.toList
  | _ => .error .notWhole

/-- The number that digits with an optional point and exponent write. -/
def unsignedOf? (negative : Bool) (t : Text) : Option Binary64 :=
  let (whole, rest) := digitRow t
  let (fraction, rest) :=
    match rest with
    | '.' :: rest => digitRow rest
    | rest => ([], rest)
  let (exponent, rest) := exponentPart rest
  if (whole.isEmpty && fraction.isEmpty) || !rest.isEmpty then none
  else
    some (Binary64.ofDecimal negative (natOf (whole ++ fraction))
      (exponent.getD 0 - fraction.length))

/-- The number that a text writes, which may be infinite or missing. -/
def floatOf? (t : Text) : Option Binary64 :=
  let (negative, t) :=
    match t with
    | '-' :: t => (true, t)
    | '+' :: t => (false, t)
    | t => (false, t)
  let word := String.ofList (t.map Char.toLower)
  if word = "inf" ∨ word = "infinity" then some (.infinite negative)
  else if word = "nan" then some .nan
  else unsignedOf? negative t

/-- The number that a text writes. -/
def floatOfText (t : Text) : Except Defect Binary64 :=
  match (floatOf? (unpadded t)).or (floatOf? (withoutUnderscores t)) with
  | some x => .ok x
  | none => .error .decimal

/-- A value as a number. -/
def toFloat : Json → Except Defect Binary64
  | bool value => .ok (.ofInt (if value then 1 else 0))
  | int n =>
      match Binary64.ofInt n with
      | .infinite _ => .error .notNumber
      | x => .ok x
  | float x => .ok x
  | string s => floatOfText s.toList
  | _ => .error .notNumber

/-- A value as a text. -/
def toText : Json → Except Defect String
  | string s => .ok s
  | _ => .error .notText

/-- Words that stand for a truth value. -/
def truthWords : List (String × Bool) :=
  [("1", true), ("on", true), ("t", true), ("true", true), ("y", true), ("yes", true),
    ("0", false), ("off", false), ("f", false), ("false", false), ("n", false), ("no", false)]

/-- The truth value that a whole number stands for. -/
def truthOfInt (n : Int) : Except Defect Bool :=
  if n = 0 then .ok false else if n = 1 then .ok true else .error .truthWord

/-- A value as a truth value. -/
def toBool : Json → Except Defect Bool
  | bool value => .ok value
  | string s =>
      match truthWords.lookup (String.ofList (s.toList.map Char.toLower)) with
      | some value => .ok value
      | none => .error .truthWord
  | int n => if n.natAbs < wordBound then truthOfInt n else .error .notTruth
  | float x =>
      match intOfFloat x with
      | .ok n => truthOfInt n
      | .error _ => .error .notTruth
  | _ => .error .notTruth

/-- A value that may be missing. -/
def optionally (read : Json → Except Defect α) : Json → Except Defect (Option α)
  | null => .ok none
  | value => (read value).map some

end Json

end SfcLint
