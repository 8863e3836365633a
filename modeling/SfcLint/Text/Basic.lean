/-
# Texts

A text is its list of characters, so offsets count characters and a position in it is the number
of characters before it. This module holds the operations that every reader of a text shares:
cutting, stripping blanks, and finding one text in another.
-/

namespace SfcLint

/-- A text, as the list of its characters. -/
abbrev Text := List Char

instance : Coe String Text := ⟨String.toList⟩

namespace Text

/-- Blank characters: the spaces and separators of all scripts, tabs, and line ends of any kind. -/
def isBlank (c : Char) : Bool :=
  let code := c.toNat
  (9 ≤ code && code ≤ 13) || (28 ≤ code && code ≤ 32) || code == 0x85 || code == 0xa0 ||
    code == 0x1680 || (0x2000 ≤ code && code ≤ 0x200a) || code == 0x2028 || code == 0x2029 ||
    code == 0x202f || code == 0x205f || code == 0x3000

/-- The text without its leading blanks. -/
def stripStart (t : Text) : Text := t.dropWhile isBlank

/-- The text without the longest ending whose characters all satisfy `p`. -/
def dropEndWhile (p : Char → Bool) (t : Text) : Text :=
  t.foldr (fun c kept => if kept.isEmpty && p c then [] else c :: kept) []

/-- The text without its trailing blanks. -/
def stripEnd (t : Text) : Text := dropEndWhile isBlank t

/-- The text without its leading and trailing blanks. -/
def strip (t : Text) : Text := stripEnd (stripStart t)

/-- How many blanks the text starts with. -/
def blankWidth (t : Text) : Nat := (t.takeWhile isBlank).length

/-- The text has no character that is not blank. -/
def allBlank (t : Text) : Bool := t.all isBlank

/-- The characters from offset `start` up to, not including, offset `stop`. -/
def slice (t : Text) (start stop : Nat) : Text := (t.drop start).take (stop - start)

/-- The text starts with `front`. -/
def startsWith (t front : Text) : Bool := front.isPrefixOf t

/-- The text ends with `back`. -/
def endsWith (t back : Text) : Bool := back.isSuffixOf t

/-- The text without `front` at its start, if it starts so. -/
def dropFront? : (front t : Text) → Option Text
  | [], t => some t
  | _ :: _, [] => none
  | f :: front, c :: t => if f = c then dropFront? front t else none

/-- The offset of the first place where `part` stands. -/
def offsetOf? (part : Text) : Text → Option Nat
  | [] => if part.isEmpty then some 0 else none
  | c :: t => if part.isPrefixOf (c :: t) then some 0 else (offsetOf? part t).map (· + 1)

/-- The offset of the last place where `part` stands. -/
def lastOffsetOf? (part : Text) : Text → Option Nat
  | [] => if part.isEmpty then some 0 else none
  | c :: t =>
      match lastOffsetOf? part t with
      | some offset => some (offset + 1)
      | none => if part.isPrefixOf (c :: t) then some 0 else none

/-- Whether `part` stands somewhere in the text. -/
def includes (t part : Text) : Bool := (offsetOf? part t).isSome

/-- The pieces between the separators. There is one more piece than there are separators. -/
def splitAt (separator : Char) : Text → List Text
  | [] => [[]]
  | c :: t =>
      if c = separator then [] :: splitAt separator t
      else match splitAt separator t with
        | [] => [[c]]
        | piece :: pieces => (c :: piece) :: pieces

/-- The text with every `old`, taken from the left and without overlap, replaced by `new`. The
first argument counts the characters of an occurrence that are still to be passed over. -/
def replaceFrom (old new : Text) : Nat → Text → Text
  | _, [] => []
  | skip + 1, _ :: t => replaceFrom old new skip t
  | 0, c :: t =>
      if old.isPrefixOf (c :: t) then new ++ replaceFrom old new (old.length - 1) t
      else c :: replaceFrom old new 0 t

/-- The text with every `old`, taken from the left and without overlap, replaced by `new`. -/
def replaceAll (t old new : Text) : Text :=
  if old.isEmpty then t else replaceFrom old new 0 t

/-- The texts in one, with a separator between any two neighbours. -/
def join (separator : Text) (pieces : List Text) : Text :=
  (pieces.intersperse separator).flatten

/-- How many lines the text has: one more than it has line breaks. -/
def lineCount (t : Text) : Nat := t.count '\n' + 1

/-- What follows the last line break, or the whole text when there is none. -/
def lastLine (t : Text) : Text := (splitAt '\n' t).getLast?.getD []

end Text

end SfcLint
