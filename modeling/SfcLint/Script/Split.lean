/-
# Splitting at the top level

A list of arguments, members or elements is split at the separators that stand outside brackets
and literals. Brackets are only counted here, not told apart, and a closing bracket too many is
passed over. Pieces are stripped, blank ones are left out, and each knows its offset.
-/

import SfcLint.Script.Literal

namespace SfcLint.Script

/-- A stripped part of a text and its offset there. -/
structure Piece where
  offset : Nat
  text : Text
  deriving DecidableEq, Repr

/-- Puts a character before the first of some texts. -/
def consFirst (c : Char) : List Text → List Text
  | [] => [[c]]
  | t :: ts => (c :: t) :: ts

/-- The stretches between separators at depth zero. The second argument counts characters that
are to be passed over; the first says whether they belong to the stretch. -/
def stretchesFrom (separator : Text) : Bool → Nat → Nat → Text → List Text
  | _, _, _, [] => [[]]
  | true, passing + 1, depth, c :: t =>
      consFirst c (stretchesFrom separator true passing depth t)
  | false, passing + 1, depth, _ :: t => stretchesFrom separator false passing depth t
  | _, 0, depth, c :: t =>
      match literalLength (c :: t) with
      | n + 1 => consFirst c (stretchesFrom separator true n depth t)
      | 0 =>
          if (Bracket.opened? c).isSome then
            consFirst c (stretchesFrom separator true 0 (depth + 1) t)
          else if (Bracket.closed? c).isSome then
            consFirst c (stretchesFrom separator true 0 (depth - 1) t)
          else if depth = 0 ∧ separator.isPrefixOf (c :: t) then
            [] :: stretchesFrom separator false (separator.length - 1) depth t
          else consFirst c (stretchesFrom separator true 0 depth t)

/-- The stretches between separators that stand outside brackets and literals. -/
def stretches (separator t : Text) : List Text := stretchesFrom separator true 0 0 t

/-- The stripped stretches that are not blank, with the offsets of their first characters. -/
def piecesFrom (gap : Nat) : Nat → List Text → List Piece
  | _, [] => []
  | offset, raw :: rest =>
      let later := piecesFrom gap (offset + raw.length + gap) rest
      match Text.strip raw with
      | [] => later
      | text => ⟨offset + Text.blankWidth raw, text⟩ :: later

/-- The pieces of a text between separators outside brackets and literals. -/
def splitSpans (t separator : Text) : List Piece :=
  piecesFrom separator.length 0 (stretches separator t)

/-- The texts between separators outside brackets and literals. -/
def split (t separator : Text) : List Text := (splitSpans t separator).map (·.text)

/-- The texts between commas outside brackets and literals. -/
def splitCommas (t : Text) : List Text := split t [',']

end SfcLint.Script
