/-
# Wildcards

A wildcard stands for the texts that it matches as a whole: a star for any text, a question mark
for any character, and a set in brackets for one of its characters. A set lists characters and
ranges, and an exclamation mark in front turns it round. A bracket that is never closed stands for
itself, and a range whose ends are in the wrong order for nothing.
-/

import SfcLint.Text.Basic

namespace SfcLint

/-- A set of characters: those within some ranges, or all others. -/
structure CharacterSet where
  negated : Bool
  ranges : List (Char × Char)
  deriving DecidableEq, Repr

namespace CharacterSet

/-- Every character. -/
def full : CharacterSet := ⟨true, []⟩

/-- One character. -/
def single (c : Char) : CharacterSet := ⟨false, [(c, c)]⟩

/-- Whether a character belongs to the set. -/
def contains (set : CharacterSet) (c : Char) : Bool :=
  set.negated != set.ranges.any fun (first, last) => first ≤ c && c ≤ last

/-- The content of a set, cut at the hyphens that make a range: there is a character before such a
hyphen, and two between any two of them. `passed` holds the characters since the last cut, in
reverse, and `wait` says how many more must pass before a hyphen counts. -/
def cut (passed : Text) : Nat → Text → List Text
  | _, [] => [passed.reverse]
  | wait + 1, c :: t => cut (c :: passed) wait t
  | 0, c :: t => if c = '-' then passed.reverse :: cut [] 2 t else cut (c :: passed) 0 t

/-- The pieces of a set, where a hyphen at the end belongs to the piece before it. -/
def pieces (content : Text) : List Text :=
  let all := cut [] (if content.head? = some '!' then 2 else 1) content
  match all.getLast? with
  | some [] =>
      match all.dropLast.getLast? with
      | some piece => all.dropLast.dropLast ++ [piece ++ ['-']]
      | none => all
  | _ => all

/-- The pieces without the ranges whose ends are in the wrong order. -/
def withoutEmptyRanges : List Text → List Text
  | [] => []
  | piece :: rest =>
      match piece.getLast?, withoutEmptyRanges rest with
      | some first, (last :: more) :: others =>
          if last < first then (piece.dropLast ++ more) :: others
          else piece :: (last :: more) :: others
      | _, rest => piece :: rest

/-- The ranges between the ends of neighbouring pieces, and every character by itself. -/
def rangesOf : List Text → List (Char × Char)
  | [] => []
  | piece :: rest =>
      piece.map (fun c => (c, c)) ++
      (match piece.getLast?, rest with
        | some first, (last :: _) :: _ => [(first, last)]
        | none, _ :: _ => [('-', '-')]
        | _, _ => []) ++
      rangesOf rest

/-- The set with the given content between its brackets. -/
def ofContent (content : Text) : CharacterSet :=
  match withoutEmptyRanges (pieces content) with
  | ('!' :: piece) :: rest => ⟨true, rangesOf (piece :: rest)⟩
  | pieces => ⟨false, rangesOf pieces⟩

end CharacterSet

/-- A part of a wildcard. -/
inductive Wild
  | star
  | one (set : CharacterSet)
  deriving DecidableEq, Repr

namespace Wild

/-- The content of a set and what follows its bracket, given what follows the opening one. A
closing bracket at the start of a set, or after its exclamation mark, belongs to it. -/
def setContent? (t : Text) : Option (Text × Text) :=
  let first :=
    match t with
    | '!' :: ']' :: _ => 2
    | '!' :: _ => 1
    | ']' :: _ => 1
    | _ => 0
  let inner := (t.drop first).takeWhile (· != ']')
  match (t.drop first).dropWhile (· != ']') with
  | _ :: rest => some (t.take first ++ inner, rest)
  | [] => none

/-- The parts of a wildcard. The first argument counts the characters of a set that are still to
be passed over. -/
def read : Nat → Text → List Wild
  | _, [] => []
  | skip + 1, _ :: t => read skip t
  | 0, c :: t =>
      if c = '*' then star :: read 0 t
      else if c = '?' then one .full :: read 0 t
      else if c = '[' then
        match setContent? t with
        | some (content, rest) => one (.ofContent content) :: read (t.length - rest.length) t
        | none => one (.single c) :: read 0 t
      else one (.single c) :: read 0 t

/-- Some ending of a text, from the longest on, satisfies `p`. -/
def anyEnding (p : Text → Bool) : Text → Bool
  | [] => p []
  | c :: t => p (c :: t) || anyEnding p t

/-- The parts of a wildcard match a text as a whole. -/
def accepts : List Wild → Text → Bool
  | [], t => t.isEmpty
  | star :: rest, t => anyEnding (accepts rest) t
  | one _ :: _, [] => false
  | one set :: rest, c :: t => set.contains c && accepts rest t

end Wild

namespace Text

/-- A wildcard matches a text as a whole. -/
def matchesWildcard (t wildcard : Text) : Bool := Wild.accepts (Wild.read 0 wildcard) t

/-- The text has a character that means something in a wildcard. -/
def isWildcard (t : Text) : Bool := t.any fun c => c == '*' || c == '?' || c == '['

end Text

end SfcLint
