/-
# Paths

A path is a root and the parts below it. It is written with slashes; empty parts and single dots
do not count, and a path without parts is a dot. The root is nothing for a relative path, and one
or two slashes for an absolute one. The suffix of a path is what its last part holds from its last
dot on, unless that dot is its first or last character.
-/

import SfcLint.Text.Basic

namespace SfcLint

/-- A root and the parts below it. -/
structure Path where
  root : Text
  parts : List Text
  deriving DecidableEq, Repr

namespace Path

/-- The root that a text starts with: two slashes count only when there is no third. -/
def rootOf : Text → Text
  | '/' :: '/' :: '/' :: _ => ['/']
  | '/' :: '/' :: _ => ['/', '/']
  | '/' :: _ => ['/']
  | _ => []

/-- The path that a text writes. -/
def ofText (t : Text) : Path :=
  ⟨rootOf t, (Text.splitAt '/' t).filter fun part => !(part.isEmpty || part == ['.'])⟩

/-- The path as it is written. -/
def toText (path : Path) : Text :=
  if path.root.isEmpty && path.parts.isEmpty then ['.']
  else path.root ++ Text.join ['/'] path.parts

/-- The path as it is written. -/
def toString (path : Path) : String := String.ofList path.toText

/-- The path starts at the root of all. -/
def isAbsolute (path : Path) : Bool := !path.root.isEmpty

/-- The parts with the root of an absolute path before them. -/
def segments (path : Path) : List Text :=
  if path.root.isEmpty then path.parts else path.root :: path.parts

/-- The path with one more part. -/
def child (path : Path) (part : Text) : Path := ⟨path.root, path.parts ++ [part]⟩

/-- The path without its last part. -/
def parent (path : Path) : Path := ⟨path.root, path.parts.dropLast⟩

/-- What follows `front` in a row of parts that starts with it. -/
def partsBelow? : (front parts : List Text) → Option (List Text)
  | [], parts => some parts
  | _ :: _, [] => none
  | f :: front, part :: parts => if f = part then partsBelow? front parts else none

/-- The path as seen from another one that it starts with. -/
def relativeTo? (path base : Path) : Option Path :=
  if path.root = base.root then (partsBelow? base.parts path.parts).map fun parts => ⟨[], parts⟩
  else none

/-- The last part of a path, or nothing when it has none. -/
def name (path : Path) : Text := path.parts.getLast?.getD []

/-- The ending of a name from its last dot on. -/
def suffixOfName (name : Text) : Text :=
  match Text.lastOffsetOf? ['.'] name with
  | some n => if 0 < n ∧ n + 1 < name.length then name.drop n else []
  | none => []

/-- The suffix of a path. -/
def suffix (path : Path) : Text := suffixOfName path.name

/-- Parts with each double dot taken as a step back, given the parts before them. -/
def normalize (before : List Text) (parts : List Text) : List Text :=
  parts.foldl (fun reached part => if part = ['.', '.'] then reached.dropLast else reached ++ [part]) before

/-- The absolute path that a path stands for in a folder, by its text alone. -/
def resolve (path : Path) (current : List Text) : Path :=
  ⟨['/'], normalize (if path.isAbsolute then [] else current) path.parts⟩

end Path

end SfcLint
