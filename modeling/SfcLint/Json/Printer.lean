/-
# Writing data values

Reports and configuration files are written over several lines, with two spaces for each level and
all characters of the text as they are. Answers on one line use characters of the seven-bit range
only, and a character beyond sixteen bits is written as two halves.

A message that quotes a value shows it with the words `None`, `True` and `False`, with quoted
texts, and with brackets around the items of lists and the members of objects.
-/

import SfcLint.Json.Value
import SfcLint.Number.Shortest
import SfcLint.Text.Quoted

namespace SfcLint.Json

/-- A number below sixteen bits as a backslash, `u` and four digits. -/
def unicodeEscape (code : Nat) : Text := '\\' :: 'u' :: Text.hexadecimal 4 code

/-- A character as it stands in a string; `ascii` says whether only seven bits may be used. -/
def writeChar (ascii : Bool) (c : Char) : Text :=
  if c = '"' then ['\\', '"']
  else if c = '\\' then ['\\', '\\']
  else if c = '\n' then ['\\', 'n']
  else if c = '\r' then ['\\', 'r']
  else if c = '\t' then ['\\', 't']
  else if c = '\x08' then ['\\', 'b']
  else if c = '\x0c' then ['\\', 'f']
  else if c.toNat < 32 then unicodeEscape c.toNat
  else if ascii && 126 < c.toNat then
    if c.toNat < 0x10000 then unicodeEscape c.toNat
    else
      let high := 0xd800 + (c.toNat - 0x10000) / 1024
      let low := 0xdc00 + (c.toNat - 0x10000) % 1024
      unicodeEscape high ++ unicodeEscape low
  else [c]

/-- A string between quotes. -/
def writeString (ascii : Bool) (s : String) : String :=
  String.ofList ('"' :: s.toList.flatMap (writeChar ascii) ++ ['"'])

/-- A number with a fraction or an exponent. -/
def writeFloat : Binary64 → String
  | .nan => "NaN"
  | .infinite true => "-Infinity"
  | .infinite false => "Infinity"
  | x => x.shortest

mutual

/-- The value on one line. -/
def compact : Json → String
  | null => "null"
  | bool true => "true"
  | bool false => "false"
  | int n => toString n
  | float x => writeFloat x
  | string s => writeString true s
  | list items => "[" ++ ",".intercalate (compactItems items) ++ "]"
  | object members => "\x7b" ++ ",".intercalate (compactMembers members) ++ "\x7d"

/-- The items of a list, each on one line. -/
def compactItems : List Json → List String
  | [] => []
  | item :: items => compact item :: compactItems items

/-- The members of an object, each on one line. -/
def compactMembers : List (String × Json) → List String
  | [] => []
  | (key, value) :: members =>
      (writeString true key ++ ":" ++ compact value) :: compactMembers members

end

/-- A line break and the blanks before a line of the given level. -/
def lineBreak (level : Nat) : String := String.ofList ('\n' :: List.replicate (2 * level) ' ')

/-- Lines of one level between brackets of the level around it. -/
def bracketed (level : Nat) (opening closing : String) (lines : List String) : String :=
  opening ++ lineBreak (level + 1) ++ ("," ++ lineBreak (level + 1)).intercalate lines ++
    lineBreak level ++ closing

mutual

/-- The value over several lines, at a level of nesting. -/
def prettyAt (level : Nat) : Json → String
  | null => "null"
  | bool true => "true"
  | bool false => "false"
  | int n => toString n
  | float x => writeFloat x
  | string s => writeString false s
  | list [] => "[]"
  | list (item :: items) =>
      bracketed level "[" "]" (prettyAt (level + 1) item :: prettyItems (level + 1) items)
  | object [] => "\x7b\x7d"
  | object ((key, value) :: members) =>
      bracketed level "\x7b" "\x7d"
        ((writeString false key ++ ": " ++ prettyAt (level + 1) value) ::
          prettyMembers (level + 1) members)

/-- The items of a list, each over several lines. -/
def prettyItems (level : Nat) : List Json → List String
  | [] => []
  | item :: items => prettyAt level item :: prettyItems level items

/-- The members of an object, each over several lines. -/
def prettyMembers (level : Nat) : List (String × Json) → List String
  | [] => []
  | (key, value) :: members =>
      (writeString false key ++ ": " ++ prettyAt level value) :: prettyMembers level members

end

/-- The value over several lines. -/
def pretty (value : Json) : String := prettyAt 0 value

/-! ## Values in messages -/

/-- A text as a message shows it. -/
def shownString (s : String) : String := String.ofList (Text.quoted s.toList)

mutual

/-- The value as a message shows it. -/
def shown : Json → String
  | null => "None"
  | bool true => "True"
  | bool false => "False"
  | int n => toString n
  | float x => x.shortest
  | string s => shownString s
  | list items => "[" ++ ", ".intercalate (shownItems items) ++ "]"
  | object members => "\x7b" ++ ", ".intercalate (shownMembers members) ++ "\x7d"

/-- The items of a list as a message shows them. -/
def shownItems : List Json → List String
  | [] => []
  | item :: items => shown item :: shownItems items

/-- The members of an object as a message shows them. -/
def shownMembers : List (String × Json) → List String
  | [] => []
  | (key, value) :: members => (shownString key ++ ": " ++ shown value) :: shownMembers members

end

end SfcLint.Json
