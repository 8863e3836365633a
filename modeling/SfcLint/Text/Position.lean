/-
# Positions

A position is a line and a column, both counted from one. Reading a character moves it: a line
break to the start of the next line, anything else one column on. Positions in a text are what
reading the characters before them leads to, so positions in a part of a text are found by reading
on from where the part starts.
-/

import SfcLint.Text.Basic

namespace SfcLint

/-- A line and a column, counted from one. -/
structure Position where
  line : Nat
  column : Nat
  deriving DecidableEq, Repr

namespace Position

/-- Where every text starts. -/
def start : Position := ⟨1, 1⟩

/-- The position after reading one character. -/
def advance (p : Position) (c : Char) : Position :=
  if c = '\n' then ⟨p.line + 1, 1⟩ else ⟨p.line, p.column + 1⟩

/-- The position after reading a text. -/
def after (p : Position) (t : Text) : Position := t.foldl advance p

@[simp]
theorem after_nil (p : Position) : p.after [] = p := rfl

@[simp]
theorem after_cons (p : Position) (c : Char) (t : Text) :
    p.after (c :: t) = (p.advance c).after t := rfl

@[simp]
theorem after_append (p : Position) (s t : Text) : p.after (s ++ t) = (p.after s).after t := by
  simp [after, List.foldl_append]

end Position

/-- The position of an offset in a text. Offsets outside the text count as its nearest end. -/
def Text.positionAt (t : Text) (offset : Int) : Position :=
  Position.start.after (t.take offset.toNat)

end SfcLint
