/-
# Props

The props that a component declares: as a list or an object of the `props` option, as an argument
of the macro `defineProps`, or as its type argument, which may be a type literal or the name of a
type that the script declares. Beside the names this module finds where props are used and where
they are assigned to.
-/

import SfcLint.Script.Blanking
import SfcLint.Script.Entry
import SfcLint.Script.Phrase
import SfcLint.Script.Span

namespace SfcLint.Script

/-- The ways to declare props. -/
inductive PropsKind
  | array
  | object
  | type
  deriving DecidableEq, Repr

/-- The word for a way to declare props. -/
def PropsKind.word : PropsKind → String
  | array => "array"
  | object => "object"
  | type => "type"

/-- A declaration of props: where it stands and the text that lists them. -/
structure PropsDeclaration where
  kind : PropsKind
  start : Nat
  stop : Nat
  body : Text
  deriving DecidableEq, Repr

open Pattern

/-- How far it is to the end of the type arguments that a text starts with, brackets skipped. The
arguments are the number of characters to pass over, the nesting so far, and the character
before. -/
def typeArgumentsLength : Nat → Nat → Char → Text → Option Nat
  | _, _, _, [] => none
  | passing + 1, depth, _, c :: t => (typeArgumentsLength passing depth c t).map (· + 1)
  | 0, depth, before, c :: t =>
      match Bracket.opened? c with
      | some kind =>
          match closing 0 [.bracket kind] t with
          | none => none
          | some n => (typeArgumentsLength n depth c t).map (· + 1)
      | none =>
          if c = '<' then (typeArgumentsLength 0 (depth + 1) c t).map (· + 1)
          else if c = '>' ∧ before ≠ '=' then
            if depth ≤ 1 then some 1 else (typeArgumentsLength 0 (depth - 1) c t).map (· + 1)
          else (typeArgumentsLength 0 depth c t).map (· + 1)

/-- The declaration of a type of the given name, up to its body. -/
def typeDeclaration (name : Text) : Pattern :=
  seq
    (any [
      all ["interface", blanks1, literal name, edge, many (outside "\x7b")],
      all ["type", blanks1, literal name, blanks, "=", blanks]])
    beforeBrace

/-- The body of the type of the given name. -/
def namedTypeBody? (t name : Text) : Option Text :=
  ((typeDeclaration name).first? t).bind fun hit => (spanAt? t hit.stop).map (·.body)

/-- The body of the type literal that type arguments from an offset on give, if they give one, and
the offset after the arguments. Without arguments that offset is the given one. -/
def typeArgumentBody (t : Text) (offset : Nat) : Option Text × Nat :=
  let place := pastBlanks t offset
  let rest := t.drop place
  if rest.head? ≠ some '<' then (none, offset)
  else
    match typeArgumentsLength 0 0 '<' rest with
    | none => (none, offset)
    | some length =>
        let argument := Text.strip ((rest.take (length - 1)).drop 1)
        let body :=
          if argument.head? = some '\x7b' then (spanAt? argument 0).map (·.body)
          else (identifier.leading? argument).bind fun hit => namedTypeBody? t hit.text
        (body, place + length)

/-- The `props` option, up to its value. -/
def propsOption : Pattern := all [freshRoot, "props", blanks, ":", blanks, beforeLiteral]

/-- The macro that declares props. -/
def definePropsName : Pattern := all [freshRoot, "defineProps", blanks]

/-- The kind of declaration that an opening bracket starts. -/
def kindOfOpener (opener : Option Char) : PropsKind :=
  if opener = some '[' then .array else .object

/-- The declaration that a hit of `propsOption` starts. -/
def optionDeclaration? (t : Text) (hit : Hit) : Option PropsDeclaration :=
  (spanAt? t hit.stop).map fun block =>
    ⟨kindOfOpener hit.rest.head?, hit.start, block.stop + 1, block.body⟩

/-- The declaration that a hit of `definePropsName` starts. -/
def macroDeclaration? (t : Text) (hit : Hit) : Option PropsDeclaration :=
  let (typeBody, offset) := typeArgumentBody t hit.stop
  let paren := pastBlanks t offset
  if t[paren]? ≠ some '(' then none
  else
    (spanAt? t paren).bind fun args =>
      match typeBody with
      | some body => some ⟨.type, hit.start, args.stop + 1, body⟩
      | none =>
          let first := Text.blankWidth args.body
          match args.body[first]? with
          | some c =>
              if c = '[' ∨ c = '\x7b' then
                (spanAt? args.body first).map fun inner =>
                  ⟨kindOfOpener (some c), hit.start, args.stop + 1, inner.body⟩
              else none
          | none => none

/-- All declarations of props, in the order in which they start. -/
def propsDeclarations (t : Text) : List PropsDeclaration :=
  let found := (propsOption.hits t).filterMap (optionDeclaration? t) ++
    (definePropsName.hits t).filterMap (macroDeclaration? t)
  found.mergeSort fun a b => a.start ≤ b.start

/-- The text with everything inside brackets blanked, up to a bracket that never closes. The first
argument counts the characters that are still to be blanked. -/
def topLevelFrom : Nat → Text → Text
  | _, [] => []
  | blank + 1, c :: t => (if c = '\n' then c else ' ') :: topLevelFrom blank t
  | 0, c :: t =>
      match Bracket.opened? c with
      | none => c :: topLevelFrom 0 t
      | some kind =>
          match closing 0 [.bracket kind] t with
          | some n => c :: topLevelFrom (n - 1) t
          | none => c :: t

/-- The text with everything inside brackets blanked. -/
def topLevelText (t : Text) : Text := topLevelFrom 0 t

/-- A member of a type literal and the colon after it. -/
def typeMember : Pattern :=
  all [
    any [start, one (among ";,\n\x7b")],
    blanks,
    optional (all ["readonly", blanks1]),
    any [
      capture "name" identifier,
      all ["'", capture "name" (some1 (outside "'")), "'"],
      all ["\"", capture "name" (some1 (outside "\"")), "\""]],
    blanks, optional "?", blanks, ":"]

/-- The names that a declaration lists. -/
def PropsDeclaration.names (declaration : PropsDeclaration) : Except Failure (List Text) :=
  match declaration.kind with
  | .array => .ok ((splitCommas declaration.body).filterMap unquoted?)
  | .object => do
      let entries ← objectEntries declaration.body
      return (entries.filterMap (·.key)).filter fun key => !key.isEmpty
  | .type => .ok ((typeMember.hits (topLevelText declaration.body)).map (·.group "name"))

/-- The names of all declared props, in order and without repetition. -/
def declaredProps (t : Text) : Except Failure (List Text) := do
  let names ← (propsDeclarations t).mapM PropsDeclaration.names
  return names.flatten.eraseDups

/-- Those of some props that the text mentions. -/
def usedProps (t : Text) (props : List Text) : List Text :=
  if t.isEmpty then [] else props.filter fun prop => (whole prop).occursIn t

/-- The text with its declarations of props blanked. -/
def maskProps (t : Text) : Text :=
  blankSpans t ((propsDeclarations t).map fun d => ((d.start : Int), (d.stop : Int)))

/-- An assignment to a prop. -/
structure PropMutation where
  prop : Text
  site : Text
  offset : Nat
  deriving DecidableEq, Repr

/-- A change of the given prop through the component or its props. -/
def propChange (prop : Text) : Pattern :=
  all [freshRoot, words ["this", "props"], ".", literal prop, blanks, mutationOperator]

/-- The assignments to declared props, in order. -/
def propMutations (t : Text) : Except Failure (List PropMutation) := do
  let props ← declaredProps t
  let found := props.flatMap fun prop =>
    ((propChange prop).hits t).map fun hit => ⟨prop, Text.strip hit.text, hit.start⟩
  return found.mergeSort fun a b => a.offset ≤ b.offset

end SfcLint.Script
