/-
# The shortest decimal

A number is written with the fewest digits that read back as the same number, and of the decimals
with that many digits with the one nearest to it. Powers of ten from minus four to fifteen are
written out; others take an exponent of at least two digits. Whole numbers keep one place.
-/

import SfcLint.Number.Binary64

namespace SfcLint.Binary64

/-- The largest `e` with `10 ^ e ≤ r`, for a positive rational. -/
def log10 (r : Rat) : Int :=
  let guess : Int :=
    ((Nat.toDigits 10 r.num.natAbs).length : Int) - (Nat.toDigits 10 r.den).length
  let reaches : Bool :=
    if 0 ≤ guess then r.den * Nat.pow 10 guess.toNat ≤ r.num.natAbs
    else r.den ≤ r.num.natAbs * Nat.pow 10 (-guess).toNat
  if reaches then guess else guess - 1

/-- A positive rational in units of a power of ten. -/
def inUnits (r : Rat) (power : Int) : Rat :=
  if 0 ≤ power then r / ((Nat.pow 10 power.toNat : Nat) : Rat)
  else r * ((Nat.pow 10 (-power).toNat : Nat) : Rat)

/-- Of the two neighbours of `r` with a last digit of the given power of ten, those that read back
as the number, the nearer one first. -/
def readsBack? (x : Binary64) (r : Rat) (power : Int) : Option Nat :=
  let scaled := inUnits r power
  let below := scaled.floor.toNat
  let belowIsNear : Bool := scaled - below ≤ ((below + 1 : Nat) : Rat) - scaled
  let candidates := if belowIsNear then [below, below + 1] else [below + 1, below]
  candidates.find? fun digits => ofDecimal false digits power == x

/-- The shortest digits that read back as a positive number and the power of ten of the last. -/
def shortestDigits (x : Binary64) (r : Rat) : Nat × Int :=
  let top := log10 r
  let tries := (List.range 17).map fun (k : Nat) => top - (k : Int)
  (tries.findSome? fun power => (readsBack? x r power).map fun digits => (digits, power)).getD
    (r.floor.toNat, 0)

/-- Digits without the zeros at their end, and the power of ten of the last one left. -/
def trimZeros : Nat → Nat → Int → Nat × Int
  | 0, digits, power => (digits, power)
  | fuel + 1, digits, power =>
      if digits % 10 = 0 ∧ digits ≠ 0 then trimZeros fuel (digits / 10) (power + 1)
      else (digits, power)

/-- Decimal digits with a point after the leading `places` of them. -/
def positional (digits : List Char) (places : Int) : List Char :=
  if places ≤ 0 then ['0', '.'] ++ List.replicate (-places).toNat '0' ++ digits
  else if digits.length ≤ places.toNat then
    digits ++ List.replicate (places.toNat - digits.length) '0' ++ ['.', '0']
  else digits.take places.toNat ++ ['.'] ++ digits.drop places.toNat

/-- Decimal digits with the point after the first and an exponent of at least two digits. -/
def scientific (digits : List Char) (exponent : Int) : List Char :=
  let whole := digits.take 1
  let rest := digits.drop 1
  let power := Nat.toDigits 10 exponent.natAbs
  whole ++ (if rest.isEmpty then [] else '.' :: rest) ++ ['e', if exponent < 0 then '-' else '+'] ++
    List.replicate (2 - power.length) '0' ++ power

/-- The digits of a positive number as a decimal. -/
def writeDigits (x : Binary64) (r : Rat) : List Char :=
  let (digits, power) := shortestDigits x r
  let (digits, power) := trimZeros 20 digits power
  let row := Nat.toDigits 10 digits
  let exponent := power + (row.length : Int) - 1
  if -4 ≤ exponent ∧ exponent < 16 then positional row (exponent + 1)
  else scientific row exponent

/-- The shortest decimal that reads back as the number. -/
def shortest : Binary64 → String
  | nan => "nan"
  | infinite true => "-inf"
  | infinite false => "inf"
  | finite negative mantissa exponent =>
      let size := finite false mantissa exponent
      let text :=
        match size.toRat? with
        | some r => if mantissa = 0 then ['0', '.', '0'] else writeDigits size r
        | none => []
      String.ofList (if negative then '-' :: text else text)

end SfcLint.Binary64
