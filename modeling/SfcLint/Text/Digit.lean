/-
# Decimal digits

Every script that writes decimal numbers has ten consecutive digits. A digit is known by the zero
of its script, and its value is its distance from that zero.
-/

import SfcLint.Text.Basic

namespace SfcLint.Text

/-- The zeros of all scripts with decimal digits. -/
def zeros : List Nat := [
  0x30, 0x660, 0x6f0, 0x7c0, 0x966, 0x9e6, 0xa66, 0xae6, 0xb66, 0xbe6, 0xc66, 0xce6, 0xd66, 0xde6,
  0xe50, 0xed0, 0xf20, 0x1040, 0x1090, 0x17e0, 0x1810, 0x1946, 0x19d0, 0x1a80, 0x1a90, 0x1b50,
  0x1bb0, 0x1c40, 0x1c50, 0xa620, 0xa8d0, 0xa900, 0xa9d0, 0xa9f0, 0xaa50, 0xabf0, 0xff10, 0x104a0,
  0x10d30, 0x11066, 0x110f0, 0x11136, 0x111d0, 0x112f0, 0x11450, 0x114d0, 0x11650, 0x116c0,
  0x11730, 0x118e0, 0x11950, 0x11c50, 0x11d50, 0x11da0, 0x16a60, 0x16ac0, 0x16b50, 0x1d7ce,
  0x1d7d8, 0x1d7e2, 0x1d7ec, 0x1d7f6, 0x1e140, 0x1e2f0, 0x1e950, 0x1fbf0]

/-- The value of a decimal digit of any script. -/
def digitValue? (c : Char) : Option Nat :=
  if c.toNat < 128 then
    if '0' ≤ c ∧ c ≤ '9' then some (c.toNat - '0'.toNat) else none
  else
    (zeros.find? fun base => base ≤ c.toNat && c.toNat < base + 10).map (c.toNat - ·)

/-- A decimal digit of any script. -/
def isDigit (c : Char) : Bool := (digitValue? c).isSome

/-- The number that a row of digits writes in base ten. Other characters count as zero. -/
def decimal (t : Text) : Nat :=
  t.foldl (fun value c => 10 * value + (digitValue? c).getD 0) 0

/-- A numeral has more digits than are read. -/
structure LongNumeral where
  digits : Nat
  deriving DecidableEq, Repr

/-- How a numeral with too many digits is reported. -/
def LongNumeral.message (failure : LongNumeral) : String :=
  "Exceeds the limit (4300 digits) for integer string conversion: value has " ++
    s!"{failure.digits} digits; use sys.set_int_max_str_digits() to increase the limit"

/-- The number that a row of at most 4300 digits writes in base ten. -/
def numeral (t : Text) : Except LongNumeral Nat :=
  if 4300 < t.length then .error ⟨t.length⟩ else .ok (decimal t)

/-- Digits, of which two may have an underscore between them. -/
def groupedDigits? (t : Text) : Option Text :=
  let groups := splitAt '_' t
  if groups.all fun group => !group.isEmpty && group.all isDigit then some groups.flatten else none

/-- The whole number that a text writes, with blanks around it and a sign before its digits. -/
def wholeNumber? (t : Text) : Option Int := do
  let (negative, digits) :=
    match strip t with
    | '-' :: digits => (true, digits)
    | '+' :: digits => (false, digits)
    | digits => (false, digits)
  let value : Int ← (numeral (← groupedDigits? digits)).toOption
  return if negative then -value else value

end SfcLint.Text
