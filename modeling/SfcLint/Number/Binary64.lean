/-
# Binary floating-point numbers

Limits and ratios are binary numbers of fifty-three significant digits. A number is held exactly,
as a signed mantissa times a power of two, so that comparing two of them, or one with a whole
number, is comparing rationals. Rounding takes the nearest such number, and of two that are
equally near the one with the even mantissa.
-/

namespace SfcLint

/-- A binary floating-point number of double width. -/
inductive Binary64
  | nan
  | infinite (negative : Bool)
  | finite (negative : Bool) (mantissa : Nat) (exponent : Int)
  deriving DecidableEq, Repr

namespace Binary64

/-- Two to a whole power. -/
def twoPow (exponent : Int) : Rat :=
  if 0 ≤ exponent then ((Nat.pow 2 exponent.toNat : Nat) : Rat)
  else 1 / ((Nat.pow 2 (-exponent).toNat : Nat) : Rat)

/-- The value of a finite number. -/
def toRat? : Binary64 → Option Rat
  | finite negative mantissa exponent =>
      some ((if negative then -1 else 1) * (mantissa : Rat) * twoPow exponent)
  | _ => none

/-- The whole number nearest to a quotient; of two, the even one. -/
def roundQuotient (numerator denominator : Nat) : Nat :=
  let quotient := numerator / denominator
  let double := 2 * (numerator % denominator)
  if denominator < double ∨ (double = denominator ∧ quotient % 2 = 1) then quotient + 1
  else quotient

/-- The quotient in units of `2 ^ exponent`, rounded to a whole number of them. -/
def roundScaled (numerator denominator : Nat) (exponent : Int) : Nat :=
  if 0 ≤ exponent then roundQuotient numerator (denominator * Nat.pow 2 exponent.toNat)
  else roundQuotient (numerator * Nat.pow 2 (-exponent).toNat) denominator

/-- The largest `e` with `2 ^ e ≤ numerator / denominator`. -/
def quotientLog2 (numerator denominator : Nat) : Int :=
  let guess : Int := (numerator.log2 : Int) - denominator.log2
  let reaches : Bool :=
    if 0 ≤ guess then denominator * Nat.pow 2 guess.toNat ≤ numerator
    else denominator ≤ numerator * Nat.pow 2 (-guess).toNat
  if reaches then guess else guess - 1

/-- The least mantissa of fifty-three binary digits. -/
def leastMantissa : Nat := 4503599627370496

/-- The number nearest to a quotient of natural numbers. -/
def ofQuotient (negative : Bool) (numerator denominator : Nat) : Binary64 :=
  if numerator = 0 then finite negative 0 0
  else
    let exponent := max (quotientLog2 numerator denominator - 52) (-1074)
    let mantissa := roundScaled numerator denominator exponent
    let carried := mantissa = 2 * leastMantissa
    let mantissa := if carried then leastMantissa else mantissa
    let exponent := if carried then exponent + 1 else exponent
    if 971 < exponent then infinite negative
    else if mantissa = 0 then finite negative 0 0
    else finite negative mantissa exponent

/-- The number nearest to a rational. -/
def ofRat (r : Rat) : Binary64 := ofQuotient (r < 0) r.num.natAbs r.den

/-- The number nearest to a whole number. -/
def ofInt (n : Int) : Binary64 := ofRat n

/-- The number nearest to a decimal with the given digits and power of ten. A power beyond the
range of the format is decided by the place of the leading digit alone. -/
def ofDecimal (negative : Bool) (digits : Nat) (power : Int) : Binary64 :=
  if digits = 0 then finite negative 0 0
  else
    let places : Int := (Nat.toDigits 10 digits).length
    if 400 < places + power then infinite negative
    else if places + power < -400 then finite negative 0 0
    else if 0 ≤ power then ofQuotient negative (digits * Nat.pow 10 power.toNat) 1
    else ofQuotient negative digits (Nat.pow 10 (-power).toNat)

/-- The number is below another. Nothing is below or above a missing number. -/
def lt : Binary64 → Binary64 → Bool
  | nan, _ => false
  | _, nan => false
  | infinite true, infinite true => false
  | infinite true, _ => true
  | _, infinite true => false
  | infinite false, _ => false
  | _, infinite false => true
  | x, y => x.toRat?.getD 0 < y.toRat?.getD 0

/-- The number is at most another. -/
def le : Binary64 → Binary64 → Bool
  | nan, _ => false
  | _, nan => false
  | x, y => !lt y x

/-- The number is below a rational. -/
def isBelow : Binary64 → Rat → Bool
  | nan, _ => false
  | infinite negative, _ => negative
  | x, r => x.toRat?.getD 0 < r

/-- The number is at least a rational. -/
def isAtLeast : Binary64 → Rat → Bool
  | nan, _ => false
  | infinite negative, _ => !negative
  | x, r => r ≤ x.toRat?.getD 0

/-- The number is missing. -/
def isNan : Binary64 → Bool
  | nan => true
  | _ => false

/-- The whole number that a number is, if it is one. -/
def toInt? (x : Binary64) : Option Int :=
  x.toRat?.bind fun r => if r.den = 1 then some r.num else none

/-- The sum, rounded. Defined on finite numbers; anything else gives a missing number. -/
def add (x y : Binary64) : Binary64 :=
  match x.toRat?, y.toRat? with
  | some a, some b => ofRat (a + b)
  | _, _ => nan

/-- The product with a whole number, rounded. Defined on finite numbers; anything else gives a
missing number. -/
def scale (x : Binary64) (factor : Int) : Binary64 :=
  match x.toRat? with
  | some a => ofRat (a * factor)
  | none => nan

/-- The largest whole number that is not above a finite number. -/
def floor? (x : Binary64) : Option Int := x.toRat?.map Rat.floor

end Binary64

end SfcLint
