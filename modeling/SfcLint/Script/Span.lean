/-
# Spans

A span is a bracketed part of a script: the offsets of its two brackets and the text between them.
It is found from its opening bracket, from the first bracket of a kind in code, or from a bracket
that follows after blanks only.
-/

import SfcLint.Script.Literal

namespace SfcLint.Script

/-- A bracketed part of a text. `start` and `stop` are the offsets of the brackets. -/
structure Span where
  start : Nat
  stop : Nat
  body : Text
  deriving DecidableEq, Repr

/-- There is no opening bracket at the offset. -/
structure NoOpening where
  offset : Int
  deriving DecidableEq, Repr

/-- How the missing bracket is reported. -/
def NoOpening.message (failure : NoOpening) : String :=
  s!"No opening bracket at index {failure.offset}"

/-- The bracketed part that starts at an offset, unless it never closes. -/
def spanAt? (t : Text) (offset : Nat) : Option Span :=
  match t.drop offset with
  | [] => none
  | c :: rest =>
      match Bracket.opened? c with
      | none => none
      | some kind =>
          (closing 0 [.bracket kind] rest).map fun n =>
            ⟨offset, offset + n, rest.take (n - 1)⟩

/-- The offset of the bracket that closes the one at an offset, if any does. -/
def matching? (t : Text) (offset : Int) : Except NoOpening (Option Nat) :=
  match offset with
  | .ofNat n =>
      if (t[n]?.bind Bracket.opened?).isSome then .ok ((spanAt? t n).map (·.stop))
      else .error ⟨offset⟩
  | .negSucc _ => .error ⟨offset⟩

/-- How far it is to the first character of code that is the given one. -/
def markOffset? (c : Char) : List Lexeme → Option Nat
  | [] => none
  | .mark d :: rest => if d = c then some 0 else (markOffset? c rest).map (· + 1)
  | .literal t :: rest => (markOffset? c rest).map (· + t.length)

/-- The bracketed part that the first such bracket in code opens, from an offset on. -/
def blockAfter? (t : Text) (offset : Nat) (opener : Char) : Option Span :=
  (markOffset? opener (lexemes (t.drop offset))).bind fun n => spanAt? t (offset + n)

/-- The offset of the next character that is not blank. -/
def pastBlanks (t : Text) (offset : Nat) : Nat := offset + Text.blankWidth (t.drop offset)

/-- The bracketed part that starts after blanks, if any, at an offset. -/
def blockAt? (t : Text) (offset : Nat) (opener : Char) : Option Span :=
  let place := pastBlanks t offset
  if t[place]? = some opener then spanAt? t place else none

end SfcLint.Script
