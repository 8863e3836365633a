/-
# Component options

What a script says about its component as an object of options: the members of that object, the
block of one option, the functions it defines, its computed values and its name.
-/

import SfcLint.Files.Path
import SfcLint.Script.Call
import SfcLint.Script.Entry
import SfcLint.Script.Function
import SfcLint.Script.Phrase
import SfcLint.Text.Case

namespace SfcLint.Script

open Pattern

/-- The block of an option with the given key. -/
def optionBlock? (t key : Text) : Option Span :=
  ((all [freshRoot, literal key, blanks, ":", blanks, beforeBrace]).first? t).bind fun hit =>
    spanAt? t hit.stop

/-- What stands before the object of options. -/
def optionsStart : Pattern :=
  any [
    all ["export", blanks1, "default", blanks, beforeBrace],
    all [freshRoot, words ["defineComponent", "defineOptions"], blanks, "(", blanks, beforeBrace]]

/-- The members of the object of options, if there is one. -/
def componentOptions (t : Text) : Except Failure (List Entry) :=
  match (optionsStart.first? t).bind fun hit => spanAt? t hit.stop with
  | some block => objectEntries block.body
  | none => .ok []

/-! ## Functions -/

/-- Keywords that look like a method when parentheses and a brace follow. -/
def controlKeywords : List Text :=
  ["if", "for", "while", "switch", "catch", "function", "return", "with", "super"].map
    String.toList

/-- A method in short form, up to its body. -/
def shorthandMethod : Pattern :=
  all [freshRoot, optional (all ["async", blanks1]), capture "name" identifier, blanks, "(",
    many (outside "()"), ")", blanks, "\x7b"]

/-- A function declaration, up to its parameters. -/
def functionDeclaration : Pattern :=
  all [freshRoot, "function", blanks, optional "*", blanks, identifier, blanks, "("]

/-- The keyword of a function declaration at the end of a text. -/
def functionKeywordAtEnd : Pattern :=
  all [freshRoot, "function", blanks, optional "*", blanks, stop]

/-- A variable that holds an arrow function, up to the arrow. -/
def arrowDeclaration : Pattern :=
  all [freshRoot, declarator, blanks1, identifier, blanks, annotation, "=", blanks,
    optional (all ["async", blanks1]),
    any [all ["(", many (outside "()"), ")"], identifier],
    blanks, annotation, "=>"]

/-- The keyword of a function declaration stands within the 32 characters before an offset. -/
def afterFunctionKeyword (t : Text) (offset : Nat) : Bool :=
  let first := offset - 32
  let before := if first = 0 then none else t[first - 1]?
  (functionKeywordAtEnd.firstFrom? first before (t.slice first offset)).isSome

/-- About how many functions and methods the text defines. -/
def countMethods (t : Text) : Nat :=
  let methods := (shorthandMethod.hits t).filter fun hit =>
    !controlKeywords.contains (hit.group "name") && !afterFunctionKeyword t hit.start
  methods.length + (functionDeclaration.hits t).length + (arrowDeclaration.hits t).length

/-! ## Computed values -/

/-- The getter of a computed value, with the name of the value if it has one, and where it stands. -/
structure ComputedBody where
  name : Option Text
  body : Text
  offset : Nat
  deriving DecidableEq, Repr

/-- The calls that make computed values. -/
def computedCalls (t : Text) : List Call := calls "computed" true t

/-- How many computed values the text defines. -/
def countComputed (t : Text) : Except Failure Nat := do
  let entries ← match optionBlock? t "computed" with
    | some block => objectEntries block.body
    | none => .ok []
  let named := entries.filter fun entry => entry.key.any fun key => !key.isEmpty
  return named.length + (computedCalls t).length

/-- The getter of a value that is an object with one, the value itself when it is no object, and
nothing for an object without a getter. -/
def getterOf (value : Text) : Except Failure (Option Text) :=
  if value.head? = some '\x7b' then
    match spanAt? value 0 with
    | none => .ok none
    | some inner => do
        let entries ← objectEntries inner.body
        return (entries.find? fun entry => entry.key == some "get".toList).map (·.value)
  else .ok (some value)

/-- The getter that a member of the computed block gives. -/
def computedEntryBody (block : Span) (entry : Entry) : Except Failure (Option ComputedBody) :=
  match entry.kind, entry.key with
  | .spread, _ => .ok none
  | _, none => .ok none
  | kind, some key => do
      let value ← if kind = .property then getterOf entry.value else .ok (some entry.value)
      return (value.bind functionBody?).map fun body =>
        ⟨some key, body.text, block.start + 1 + entry.offset⟩

/-- The getter that a call gives. -/
def computedCallBody (call : Call) : Except Failure (Option ComputedBody) :=
  match splitCommas call.args.body with
  | [] => .ok none
  | first :: _ => do
      let value ← getterOf first
      return (value.bind functionBody?).map fun body => ⟨none, body.text, call.start⟩

/-- The getters of all computed values, in order. -/
def computedBodies (t : Text) : Except Failure (List ComputedBody) := do
  let fromBlock ← match optionBlock? t "computed" with
    | none => .ok []
    | some block => do (← objectEntries block.body).mapM (computedEntryBody block)
  let fromCalls ← (computedCalls t).mapM computedCallBody
  let found := (fromBlock ++ fromCalls).filterMap id
  return found.mergeSort fun a b => a.offset ≤ b.offset

/-! ## The name -/

/-- The text between single or double quotes that holds neither. -/
def plainString? (t : Text) : Option Text :=
  let quotes (c : Char) : Bool := c == '\'' || c == '"'
  match t with
  | first :: rest =>
      let inner := rest.dropLast
      if quotes first && rest.getLast?.any quotes && !inner.isEmpty && !inner.any quotes then
        some inner
      else none
  | [] => none

/-- A name with its first character in upper case. -/
def capitalized (t : Text) : Text := Text.upper (t.take 1) ++ t.drop 1

/-- The name that a file gives to its component: the words between hyphens, capitalized. -/
def nameOfFile? (path : Text) : Option Text :=
  let name := (Path.ofText (path.map fun c => if c = '\\' then '/' else c)).name
  let stem := if name.endsWith ".vue" then name.take (name.length - 4) else name
  if stem.isEmpty then none else some ((Text.splitAt '-' stem).flatMap capitalized)

/-- The name of the component: the one its options give, or else the one its file gives. -/
def componentName (t path : Text) : Except Failure (Option Text) := do
  let options ← componentOptions t
  let given := options.findSome? fun entry =>
    if entry.key = some "name".toList ∧ entry.kind = .property then plainString? entry.value
    else none
  return given.or (nameOfFile? path)

end SfcLint.Script
