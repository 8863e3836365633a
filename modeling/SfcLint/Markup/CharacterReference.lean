/-
# Character references

Markup may write a character by its number or its name. A number outside the range of characters,
or that of half a character, stands for the replacement character; numbers from 128 to 159 stand
for the characters of an older table; numbers of control characters and of places that will never
hold a character stand for nothing. A name is read in full or else as far as it is one of those
that need no semicolon; a name that is unknown stays as it is written.
-/

import SfcLint.Markup.NamedCharacter
import SfcLint.Text.Digit

namespace SfcLint.Markup

/-- The characters that the numbers from 128 on stand for. -/
def olderTable : List Nat :=
  [0x20ac, 0x81, 0x201a, 0x192, 0x201e, 0x2026, 0x2020, 0x2021, 0x2c6, 0x2030, 0x160, 0x2039, 0x152,
    0x8d, 0x17d, 0x8f, 0x90, 0x2018, 0x2019, 0x201c, 0x201d, 0x2022, 0x2013, 0x2014, 0x2dc, 0x2122,
    0x161, 0x203a, 0x153, 0x9d, 0x17e, 0x178]

/-- The number belongs to a control character or to a place that will never hold a character. -/
def neverCharacter (code : Nat) : Bool :=
  (1 ≤ code && code ≤ 8) || code == 0xb || (0xe ≤ code && code ≤ 0x1f) ||
    (0x7f ≤ code && code ≤ 0x9f) || (0xfdd0 ≤ code && code ≤ 0xfdef) || 0xfffe ≤ code % 0x10000

/-- What a character's number stands for. -/
def numbered (code : Nat) : Text :=
  if code = 0 then ['\ufffd']
  else if 0x80 ≤ code ∧ code ≤ 0x9f then [Char.ofNat (olderTable.getD (code - 0x80) code)]
  else if (0xd800 ≤ code ∧ code ≤ 0xdfff) ∨ 0x10ffff < code then ['\ufffd']
  else if neverCharacter code then []
  else [Char.ofNat code]

/-- What a name stands for: its longest start of at least two characters that is a name, and the
rest as it is written. `cut` is the number of characters left to try. -/
def namedFrom (name : Text) : Nat → Text
  | 0 => '&' :: name
  | cut + 1 =>
      if cut + 1 < 2 then '&' :: name
      else
        match charactersNamed? (name.take (cut + 1)) with
        | some characters => characters ++ name.drop (cut + 1)
        | none => namedFrom name cut

/-- What a name stands for, its semicolon included. -/
def named (name : Text) : Text :=
  match charactersNamed? name with
  | some characters => characters
  | none => namedFrom name (name.length - 1)

/-- A character that a name may hold. -/
def isReferenceChar (c : Char) : Bool :=
  !(c == '\t' || c == '\n' || c == '\x0c' || c == ' ' || c == '<' || c == '&' || c == '#' || c == ';')

/-- A digit of base ten in the basic alphabet. -/
def isTenDigit (c : Char) : Bool := '0' ≤ c && c ≤ '9'

/-- A digit of base sixteen. -/
def isSixteenDigit (c : Char) : Bool :=
  isTenDigit c || ('a' ≤ c && c ≤ 'f') || ('A' ≤ c && c ≤ 'F')

/-- One more than a length if a semicolon follows. -/
def withSemicolon (length : Nat) (t : Text) : Nat :=
  if (t.drop length).head? = some ';' then length + 1 else length

/-- What a reference stands for, and its length, given the text after the ampersand. -/
def reference? (t : Text) : Except Text.LongNumeral (Option (Text × Nat)) :=
  match t with
  | '#' :: digits =>
      let decimal := digits.takeWhile isTenDigit
      if !decimal.isEmpty then do
        let code ← Text.numeral decimal
        return some (numbered code, withSemicolon (decimal.length + 1) t)
      else
        match digits with
        | x :: digits =>
            let sixteen := digits.takeWhile isSixteenDigit
            if (x == 'x' || x == 'X') && !sixteen.isEmpty then
              .ok (some (numbered (baseSixteen (sixteen.map Char.toLower)),
                withSemicolon (sixteen.length + 2) t))
            else .ok none
        | [] => .ok none
  | t =>
      let name := (t.take 32).takeWhile isReferenceChar
      if name.isEmpty then .ok none
      else
        let length := withSemicolon name.length t
        .ok (some (named (t.take length), length))

/-- The text with its references replaced, after the characters that belong to the latest one. -/
def unescapeFrom : Nat → Text → Except Text.LongNumeral Text
  | _, [] => .ok []
  | passing + 1, _ :: t => unescapeFrom passing t
  | 0, c :: t =>
      if c = '&' then do
        match ← reference? t with
        | some (characters, length) => return characters ++ (← unescapeFrom length t)
        | none => return c :: (← unescapeFrom 0 t)
      else do return c :: (← unescapeFrom 0 t)

/-- The text with its character references replaced by what they stand for. -/
def unescape (t : Text) : Except Text.LongNumeral Text := unescapeFrom 0 t

end SfcLint.Markup
