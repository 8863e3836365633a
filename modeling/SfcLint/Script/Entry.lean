/-
# Object entries

The members of an object literal: properties with a value, methods, names that stand for
themselves, and spreads. A piece between commas whose start does not read as a key is no member.
-/

import SfcLint.Pattern.Search
import SfcLint.Script.Split
import SfcLint.Text.Digit

namespace SfcLint.Script

/-- Why a script could not be read. -/
inductive Failure
  /-- A member's key is an empty text in single quotes. -/
  | emptyKey
  /-- A whole number has more digits than are read. -/
  | longNumeral (failure : Text.LongNumeral)
  deriving DecidableEq, Repr

/-- How a failure is reported. -/
def Failure.message : Failure → String
  | emptyKey => "'NoneType' object has no attribute 'strip'"
  | longNumeral failure => failure.message

/-- The kinds of members. -/
inductive EntryKind
  | property
  | method
  | shorthand
  | spread
  deriving DecidableEq, Repr

/-- The word for a kind of member. -/
def EntryKind.word : EntryKind → String
  | property => "property"
  | method => "method"
  | shorthand => "shorthand"
  | spread => "spread"

/-- A member of an object literal. Only a spread has no key. -/
structure Entry where
  key : Option Text
  value : Text
  offset : Nat
  kind : EntryKind
  deriving DecidableEq, Repr

open Pattern

/-- The words that may stand before a method's name. -/
def accessorWord : Pattern :=
  let beforeKey := ahead true (one fun c => Text.isNameChar c || among "'\"[" c)
  any [all ["async", blanks1], all ["get", blanks1, beforeKey], all ["set", blanks1, beforeKey],
    all ["*", blanks]]

/-- A member's key and the character that tells what follows it. -/
def entryKey : Pattern :=
  all [
    start,
    optional accessorWord,
    any [
      capture "name" identifier,
      all ["'", capture "single" (many (outside "'")), "'"],
      all ["\"", capture "double" (many (outside "\"")), "\""],
      all ["[", capture "computed" (some1 (outside "]")), "]"]],
    blanks,
    any [capture "sep" (one (among ":(")), stop]]

/-- The key that a hit of `entryKey` names. -/
def entryName (hit : Hit) : Except Failure Text :=
  match hit.group? "name", hit.group? "single", hit.group? "double", hit.group? "computed" with
  | some name, _, _, _ => .ok name
  | none, some (c :: t), _, _ => .ok (c :: t)
  | none, _, some double, _ => .ok double
  | none, _, none, some computed => .ok (Text.strip computed)
  | none, _, none, none => .error .emptyKey

/-- The member that a piece between commas is, if it is one. -/
def entryOf (piece : Piece) : Except Failure (Option Entry) :=
  match Text.dropFront? "..." piece.text with
  | some rest => .ok (some ⟨none, Text.strip rest, piece.offset, .spread⟩)
  | none =>
      match entryKey.leading? piece.text with
      | none => .ok none
      | some hit => do
          let key ← entryName hit
          match hit.group "sep" with
          | [':'] => return some ⟨some key, Text.strip hit.rest, piece.offset, .property⟩
          | ['('] => return some ⟨some key, '(' :: hit.rest, piece.offset, .method⟩
          | _ => return some ⟨some key, key, piece.offset, .shorthand⟩

/-- The members of an object literal, given the text between its braces. -/
def objectEntries (body : Text) : Except Failure (List Entry) :=
  (splitSpans body [',']).foldr (fun piece later => do
    let entry ← entryOf piece
    let entries ← later
    return entry.toList ++ entries) (.ok [])

end SfcLint.Script
