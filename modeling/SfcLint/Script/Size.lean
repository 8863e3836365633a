/-
# Size estimates

How many items a value holds, as far as the script shows it: a literal list or object, an array
made with a length, or a variable that is declared as one of these, perhaps wrapped to make it
reactive. Otherwise a name that usually stands for much data, or a fixed guess, decides.
-/

import SfcLint.Script.Entry
import SfcLint.Script.Phrase
import SfcLint.Script.Span
import SfcLint.Text.Case

namespace SfcLint.Script

open Pattern

/-- An array made from an object with a length. -/
def arrayFromLength : Pattern :=
  all ["Array.from(", blanks, "\x7b", blanks, "length", blanks, ":", blanks,
    capture "size" (some1 Text.isDigit)]

/-- An array made with a length. -/
def newArray : Pattern :=
  all ["new", blanks1, "Array(", blanks, capture "size" (some1 Text.isDigit)]

/-- The number that digits write. -/
def readNumeral (t : Text) : Except Failure Nat := (Text.numeral t).mapError .longNumeral

/-- The number of items of a literal list or object that is the whole text. -/
def wholeLiteralSize? (t : Text) : Option Nat :=
  match t.head? with
  | some c =>
      if c = '[' ∨ c = '\x7b' then
        (spanAt? t 0).bind fun inner =>
          if inner.stop + 1 = t.length then some (splitCommas inner.body).length else none
      else none
  | none => none

/-- The size that an expression shows. -/
def literalSize? (expression : Text) : Except Failure (Option Nat) :=
  let t := Text.strip expression
  match wholeLiteralSize? t with
  | some size => .ok (some size)
  | none =>
      match (arrayFromLength.first? t).or (newArray.first? t) with
      | some hit => (readNumeral (hit.group "size")).map some
      | none => .ok none

/-- A call that makes its argument reactive, as a whole text. -/
def reactiveWrapper : Pattern :=
  all [start, words ["ref", "reactive", "shallowRef", "shallowReactive", "readonly"], blanks,
    optional (all ["<", many (outside "()"), ">"]), blanks, "(",
    capture "inner" (many fun _ => true), ")", blanks, optional ";", stop]

/-- The argument of a call that makes it reactive, or the expression itself. -/
def unwrapped (expression : Text) : Text :=
  match reactiveWrapper.leading? (Text.strip expression) with
  | some hit => Text.strip (hit.group "inner")
  | none => expression

/-- How far the value of a declaration goes: up to a semicolon or a line break outside brackets,
or to a bracket that never closes. The first argument counts characters to pass over. -/
def valueLength : Nat → Text → Nat
  | _, [] => 0
  | passing + 1, _ :: t => valueLength passing t + 1
  | 0, c :: t =>
      if c = ';' ∨ c = '\n' then 0
      else
        match Bracket.opened? c with
        | none => valueLength 0 t + 1
        | some kind =>
            match closing 0 [.bracket kind] t with
            | some n => valueLength n t + 1
            | none => 0

/-- The declaration of a variable, up to its value. -/
def variableDeclaration (name : Text) : Pattern :=
  all [freshRoot, declarator, blanks1, literal name, blanks, annotation, "=", blanks]

/-- The value that a variable is declared with. -/
def declaredValue? (name t : Text) : Option Text :=
  ((variableDeclaration name).first? t).map fun hit =>
    Text.strip (hit.rest.take (valueLength 0 hit.rest))

/-- The size of the value that a variable is declared with. -/
def declaredSize? (name t : Text) : Except Failure (Option Nat) :=
  match declaredValue? name t with
  | none => .ok none
  | some [] => .ok none
  | some value => literalSize? (unwrapped value)

/-- Names that usually stand for long lists, alone or as a part of a name. -/
def listNames : List Text :=
  ["items", "data", "list", "collection", "array", "records", "rows"].map String.toList

/-- Names that usually stand for much data. -/
def dataNames : List Text :=
  ["data", "items", "list", "collection", "records", "rows", "dataset", "tabledata"].map
    String.toList

/-- The size that an expression shows, or that of the variable it names. -/
def shownSize? (expression t : Text) : Except Failure (Option Nat) := do
  match ← literalSize? expression with
  | some size => return some size
  | none =>
      if isIdentifier expression ∧ t ≠ [] then declaredSize? (Text.strip expression) t
      else return none

/-- About how many items an iteration goes through. -/
def listSize (source t : Text) : Except Failure Nat := do
  let source := Text.strip source
  if source ≠ [] ∧ source.all Text.isDigit then readNumeral source
  else
    match ← shownSize? source t with
    | some size => return size
    | none =>
        let name := Text.lower source
        return if listNames.any name.includes then 200 else 0

/-- About how many items a value holds that is made reactive. -/
def dataSize (expression t : Text) : Except Failure Nat := do
  let expression := Text.strip expression
  match ← shownSize? expression t with
  | some size => return size
  | none =>
      return if isIdentifier expression && dataNames.contains (Text.lower expression) then 1000
        else 0

/-- About how many items a watched source holds. -/
def watchedSize (source t : Text) : Except Failure Nat := do
  let source := Text.strip source
  match ← shownSize? source t with
  | some size => return size
  | none => return if isIdentifier source then 25 else 10

end SfcLint.Script
