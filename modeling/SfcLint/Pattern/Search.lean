/-
# Searching

Where a pattern matches in a text: at its start, at the first place from the left, or at all
places that do not overlap.
-/

import SfcLint.Pattern.Basic

namespace SfcLint

/-- A part of a text that a pattern matched. -/
structure Hit where
  /-- The offset of its first character. -/
  start : Nat
  /-- The offset after its last character. -/
  stop : Nat
  /-- The matched text. -/
  text : Text
  /-- What follows it. -/
  rest : Text
  /-- What the pattern set aside, latest first. -/
  captures : List Capture

namespace Hit

/-- What the pattern set aside under a name, if it did. -/
def group? (hit : Hit) (name : String) : Option Text :=
  (hit.captures.find? (·.name == name)).map (·.text)

/-- What the pattern set aside under a name, or nothing. -/
def group (hit : Hit) (name : String) : Text := (hit.group? name).getD []

/-- Of two places, what lies between them as a hit. -/
def between (first last : Cursor) : Hit :=
  ⟨first.offset, last.offset, first.rest.take (last.offset - first.offset), last.rest,
    last.captures⟩

end Hit

namespace Pattern

/-- The match that starts at the cursor. -/
def hitAt? (p : Pattern) (cursor : Cursor) : Option Hit :=
  (p.match? cursor some).map (Hit.between cursor)

/-- The match at the start of the text. -/
def leading? (p : Pattern) (t : Text) : Option Hit := p.hitAt? (.atStart t)

/-- The first match in what follows a place of the text. -/
def firstFrom? (p : Pattern) (offset : Nat) (before : Option Char) : Text → Option Hit
  | [] => p.hitAt? ⟨offset, before, [], []⟩
  | c :: t =>
      match p.hitAt? ⟨offset, before, c :: t, []⟩ with
      | some hit => some hit
      | none => firstFrom? p (offset + 1) (some c) t

/-- The first match in the text. -/
def first? (p : Pattern) (t : Text) : Option Hit := p.firstFrom? 0 none t

/-- The pattern matches somewhere in the text. -/
def occursIn (p : Pattern) (t : Text) : Bool := (p.first? t).isSome

/-- All matches in what follows a place of the text, each starting at or after the end of the one
before. The first number counts the characters of the latest match that are still to be passed. -/
def allFrom (p : Pattern) : Nat → Nat → Option Char → Text → List Hit
  | _, _, _, [] => []
  | passing + 1, offset, _, c :: t => allFrom p passing (offset + 1) (some c) t
  | 0, offset, before, c :: t =>
      match p.hitAt? ⟨offset, before, c :: t, []⟩ with
      | some hit => hit :: allFrom p (hit.stop - offset - 1) (offset + 1) (some c) t
      | none => allFrom p 0 (offset + 1) (some c) t

/-- All matches in the text, from left to right and without overlap. -/
def hits (p : Pattern) (t : Text) : List Hit := p.allFrom 0 0 none t

end Pattern

end SfcLint
