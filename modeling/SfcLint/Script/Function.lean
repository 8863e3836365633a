/-
# Function bodies

A value that is a function has a body: the block of a `function`, of a method in short form or of
an arrow, or the expression that an arrow gives. A return type may stand between the parameters
and the arrow or the block.
-/

import SfcLint.Pattern.Search
import SfcLint.Script.Span

namespace SfcLint.Script

/-- The body of a function: a block, or the expression it gives. -/
inductive FunctionBody
  | block (span : Span)
  | expression (text : Text)
  deriving DecidableEq, Repr

namespace FunctionBody

/-- The text of the body. -/
def text : FunctionBody → Text
  | block span => span.body
  | expression text => text

/-- The span of the body, when it is a block. -/
def block? : FunctionBody → Option Span
  | block span => some span
  | expression _ => none

end FunctionBody

/-- The body of a function under the name that it goes by, and where that stands. -/
structure NamedBody where
  name : Text
  body : Text
  offset : Nat
  deriving DecidableEq, Repr

/-- How far an expression goes: up to a comma, a semicolon or a closing bracket that is not its
own. With a bracket that never closes it takes the whole text. The first argument counts
characters that are to be passed over. -/
def expressionLength : Nat → Text → Nat
  | _, [] => 0
  | passing + 1, _ :: t => expressionLength passing t + 1
  | 0, c :: t =>
      match literalLength (c :: t) with
      | n + 1 => expressionLength n t + 1
      | 0 =>
          match Bracket.opened? c with
          | some kind =>
              match closing 0 [.bracket kind] t with
              | some n => expressionLength n t + 1
              | none => t.length + 1
          | none =>
              if (Bracket.closed? c).isSome || c == ',' || c == ';' then 0
              else expressionLength 0 t + 1

open Pattern

/-- The single parameter of an arrow without parentheses, and the arrow. -/
def arrowParameter : Pattern :=
  all [optional (all ["async", blanks1]), identifier, blanks, "=>"]

/-- What may stand before the parameters of a function. -/
def functionHead : Pattern :=
  all [
    optional (all ["async", blanks1]),
    optional (all ["function", edge, blanks, optional "*", blanks, optional identifier, blanks])]

/-- The body of an arrow function, from the offset after the arrow. -/
def arrowBody? (value : Text) (offset : Nat) : Option FunctionBody :=
  let target := pastBlanks value offset
  let rest := value.drop target
  if rest.head? = some '{' then (spanAt? value target).map .block
  else some (.expression (Text.strip (rest.take (expressionLength 0 rest))))

/-- The body of a function, from the offset after its parameters and return type. -/
def bodyAt? (value : Text) (offset : Nat) : Option FunctionBody :=
  match value.drop offset with
  | '{' :: _ => (spanAt? value offset).map .block
  | '=' :: '>' :: _ => arrowBody? value (offset + 2)
  | _ => none

/-- The body of a function, from the offset after its parameters. After a colon, whichever of a
block and an arrow comes first belongs to the function. -/
def bodyAfterParameters? (value : Text) (offset : Nat) : Option FunctionBody :=
  if (value.drop offset).head? = some ':' then
    let block := blockAfter? value offset '{'
    match Text.offsetOf? "=>" (value.drop offset) with
    | none => block.map .block
    | some n =>
        if block.any (·.start < offset + n) then block.map .block
        else bodyAt? value (offset + n)
  else bodyAt? value offset

/-- The body of the function that a value starts with, if it is one. -/
def functionBody? (value : Text) : Option FunctionBody :=
  let first := Text.blankWidth value
  match arrowParameter.leading? (value.drop first) with
  | some hit => arrowBody? value (first + hit.stop)
  | none =>
      let head := ((functionHead.leading? (value.drop first)).map (·.stop)).getD 0
      let parameters := pastBlanks value (first + head)
      if (value.drop parameters).head? = some '(' then
        (spanAt? value parameters).bind fun span =>
          bodyAfterParameters? value (pastBlanks value (span.stop + 1))
      else none

end SfcLint.Script
