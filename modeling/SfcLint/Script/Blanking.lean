/-
# Blanking

Parts of a text are blanked by writing a space for every character that is no line break, so that
offsets, lines and columns stay what they are. Comments are blanked before a search that must not
see code that is commented out.
-/

import SfcLint.Script.Literal

namespace SfcLint.Script

/-- The text with a space for every character that is no line break. -/
def blanked (t : Text) : Text := t.map fun c => if c = '\n' then c else ' '

/-- The text with the given stretches, each from its start up to its stop, blanked. -/
def blankSpans (t : Text) (spans : List (Int × Int)) : Text :=
  t.zipIdx.map fun (c, i) =>
    if c ≠ '\n' ∧ spans.any fun (start, stop) => start ≤ i && i < stop then ' ' else c

/-- The literal is a comment. -/
def isComment (literal : Text) : Bool :=
  ['/', '/'].isPrefixOf literal || ['/', '*'].isPrefixOf literal

/-- The lexeme, blanked if it is a comment. -/
def Lexeme.uncommented : Lexeme → Text
  | mark c => [c]
  | literal t => if isComment t then blanked t else t

/-- The text with its comments blanked. -/
def blankComments (t : Text) : Text := (lexemes t).flatMap Lexeme.uncommented

end SfcLint.Script
