/-
# Reading data values

The reader takes the standard notation, and beside it the words for infinite and missing numbers.
The first fault from the left is reported with its place. A reader is given a bound on the number
of values and separators that it may go through; the length of the text is enough.
-/

import SfcLint.Json.Value
import SfcLint.Text.Position

namespace SfcLint.Json

/-- The first fault of a notation and what follows the place where it was found. -/
structure Fault where
  reason : String
  rest : Text

/-- A fault with its place in the text. -/
structure ReadError where
  reason : String
  offset : Nat
  position : Position
  deriving Repr

/-- How a fault in a text is reported. -/
def ReadError.message (error : ReadError) : String :=
  s!"{error.reason}: line {error.position.line} column {error.position.column} " ++
    s!"(char {error.offset})"

/-- The characters between values that have no meaning. -/
def isSpace (c : Char) : Bool := c == ' ' || c == '\t' || c == '\n' || c == '\r'

/-- The text from its first character on that is no space. -/
def skip (t : Text) : Text := t.dropWhile isSpace

/-- The value of a digit in base sixteen. -/
def hexDigit? (c : Char) : Option Nat :=
  if '0' ≤ c ∧ c ≤ '9' then some (c.toNat - '0'.toNat)
  else if 'a' ≤ c ∧ c ≤ 'f' then some (c.toNat - 'a'.toNat + 10)
  else if 'A' ≤ c ∧ c ≤ 'F' then some (c.toNat - 'A'.toNat + 10)
  else none

/-- The value of four digits in base sixteen at the start of a text, which must go on after them. -/
def fourHex? : Text → Option (Nat × Text)
  | a :: b :: c :: d :: e :: t => do
      let value := (← hexDigit? a) * 4096 + (← hexDigit? b) * 256 + (← hexDigit? c) * 16 +
        (← hexDigit? d)
      return (value, e :: t)
  | _ => none

/-- The character that a letter after a backslash stands for. -/
def escaped? : Char → Option Char
  | '"' => some '"'
  | '\\' => some '\\'
  | '/' => some '/'
  | 'b' => some '\x08'
  | 'f' => some '\x0c'
  | 'n' => some '\n'
  | 'r' => some '\r'
  | 't' => some '\t'
  | _ => none

/-- The lower half of a character that is written as two halves, after the upper one. -/
def lowerHalf? : Text → Option (Nat × Text)
  | '\\' :: 'u' :: t => do
      let (low, rest) ← fourHex? t
      if 0xdc00 ≤ low ∧ low ≤ 0xdfff then some (low, rest) else none
  | _ => none

/-- The characters of a string up to its closing quote, and what follows. `opening` is the text
from the opening quote on. -/
def readString (opening : Text) : Nat → Text → Except Fault (Text × Text)
  | 0, _ => .error ⟨"Unterminated string starting at", opening⟩
  | _, [] => .error ⟨"Unterminated string starting at", opening⟩
  | fuel + 1, c :: t =>
      if c = '"' then .ok ([], t)
      else if c = '\\' then
        match t with
        | [] => .error ⟨"Unterminated string starting at", opening⟩
        | 'u' :: digits =>
            match fourHex? digits with
            | none => .error ⟨"Invalid \\uXXXX escape", t⟩
            | some (code, rest) => do
                let (code, rest) :=
                  if 0xd800 ≤ code ∧ code ≤ 0xdbff then
                    match lowerHalf? rest with
                    | some (low, rest) => (0x10000 + (code - 0xd800) * 1024 + (low - 0xdc00), rest)
                    | none => (code, rest)
                  else (code, rest)
                let (text, rest) ← readString opening fuel rest
                return (Char.ofNat code :: text, rest)
        | e :: rest =>
            match escaped? e with
            | none => .error ⟨"Invalid \\escape", c :: t⟩
            | some character => do
                let (text, rest) ← readString opening fuel rest
                return (character :: text, rest)
      else if c.toNat < 32 then .error ⟨"Invalid control character at", c :: t⟩
      else do
        let (text, rest) ← readString opening fuel t
        return (c :: text, rest)

/-- A decimal digit of the basic alphabet. -/
def isDecimal (c : Char) : Bool := '0' ≤ c && c ≤ '9'

/-- The number that a row of decimal digits writes. -/
def natOf (digits : Text) : Nat :=
  digits.foldl (fun value c => 10 * value + (c.toNat - '0'.toNat)) 0

/-- The longest row of decimal digits at the start, and what follows. -/
def digitRow (t : Text) : Text × Text := (t.takeWhile isDecimal, t.dropWhile isDecimal)

/-- The places after a point at the start of the text, and what follows; none without a digit. -/
def fractionPart (t : Text) : Text × Text :=
  match t with
  | '.' :: rest => if (digitRow rest).1.isEmpty then ([], t) else digitRow rest
  | _ => ([], t)

/-- The exponent at the start of the text, if there is one, and what follows. -/
def exponentPart (t : Text) : Option Int × Text :=
  match t with
  | e :: rest =>
      if e = 'e' ∨ e = 'E' then
        let (negative, digits) :=
          match rest with
          | '-' :: digits => (true, digits)
          | '+' :: digits => (false, digits)
          | digits => (false, digits)
        let (row, after) := digitRow digits
        if row.isEmpty then (none, t)
        else
          let value : Int := natOf row
          (some (if negative then -value else value), after)
      else (none, t)
  | [] => (none, t)

/-- The number at the start of the text and what follows. -/
def readNumber? (t : Text) : Option (Json × Text) :=
  let (negative, unsigned) :=
    match t with
    | '-' :: rest => (true, rest)
    | rest => (false, rest)
  let (whole, rest) :=
    match unsigned with
    | '0' :: rest => (['0'], rest)
    | rest => digitRow rest
  if whole.isEmpty then none
  else
    let (fraction, rest) := fractionPart rest
    let (exponent, rest) := exponentPart rest
    if fraction.isEmpty ∧ exponent.isNone then
      let value : Int := natOf whole
      some (int (if negative then -value else value), rest)
    else
      some (float (Binary64.ofDecimal negative (natOf (whole ++ fraction))
        (exponent.getD 0 - fraction.length)), rest)

/-- The words for values without parts. -/
def words : List (String × Json) :=
  [("null", null), ("true", bool true), ("false", bool false), ("NaN", float .nan),
    ("Infinity", float (.infinite false)), ("-Infinity", float (.infinite true))]

/-- The value without parts at the start of the text, and what follows. -/
def readScalar (t : Text) : Except Fault (Json × Text) :=
  match words.findSome? fun (word, value) =>
      (Text.dropFront? word.toList t).map fun rest => (value, rest) with
  | some found => .ok found
  | none =>
      match readNumber? t with
      | some found => .ok found
      | none => .error ⟨"Expecting value", t⟩

/-- What is read at a place of a list or an object. -/
inductive Expectation
  | value
  | items (done : List Json)
  | members (done : List (String × Json))

/-- The value, the further items or the further members at the start of the text, and what
follows. -/
def readPart : Nat → Expectation → Text → Except Fault (Json × Text)
  | 0, _, t => .error ⟨"Expecting value", t⟩
  | fuel + 1, .value, t =>
      match t with
      | '"' :: rest => do
          let (text, rest) ← readString t (rest.length + 1) rest
          return (string (String.ofList text), rest)
      | '[' :: rest =>
          match skip rest with
          | ']' :: rest => .ok (list [], rest)
          | rest => readPart fuel (.items []) rest
      | '{' :: rest =>
          match skip rest with
          | '}' :: rest => .ok (object [], rest)
          | rest => readPart fuel (.members []) rest
      | _ => readScalar t
  | fuel + 1, .items done, t => do
      let (item, rest) ← readPart fuel .value t
      match skip rest with
      | ']' :: rest => return (list (item :: done).reverse, rest)
      | ',' :: rest => readPart fuel (.items (item :: done)) (skip rest)
      | rest => throw ⟨"Expecting ',' delimiter", rest⟩
  | fuel + 1, .members done, t =>
      match t with
      | '"' :: rest => do
          let (key, rest) ← readString t (rest.length + 1) rest
          match skip rest with
          | ':' :: rest =>
              let (value, rest) ← readPart fuel .value (skip rest)
              let done := (String.ofList key, value) :: done
              match skip rest with
              | '}' :: rest => return (object (upsertAll done.reverse), rest)
              | ',' :: rest => readPart fuel (.members done) (skip rest)
              | rest => throw ⟨"Expecting ',' delimiter", rest⟩
          | rest => throw ⟨"Expecting ':' delimiter", rest⟩
      | _ => .error ⟨"Expecting property name enclosed in double quotes", t⟩

/-- The fault with its place in the text, given what followed it. -/
def Fault.locate (fault : Fault) (t : Text) : ReadError :=
  let offset := t.length - fault.rest.length
  ⟨fault.reason, offset, t.positionAt offset⟩

/-- The value that a text writes. -/
def read (t : Text) : Except ReadError Json :=
  if t.head? = some '\ufeff' then
    .error (Fault.locate ⟨"Unexpected UTF-8 BOM (decode using utf-8-sig)", t⟩ t)
  else
    match readPart (2 * t.length + 2) .value (skip t) with
    | .error fault => .error (fault.locate t)
    | .ok (value, rest) =>
        match skip rest with
        | [] => .ok value
        | rest => .error (Fault.locate ⟨"Extra data", rest⟩ t)

end SfcLint.Json
