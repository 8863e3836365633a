/-
# Literals and brackets

Script text is code interrupted by literals: quoted strings, template strings and comments. A
bracket counts only outside them. Quoted strings and comments are flat, but a template string holds
groups of code that may hold literals again, so finding the end of a template or of a bracket is
one walk with a stack of what is still open.

* `literalLength` is the length of the literal that a text starts with, zero when there is none.
* `closing` is how far it is to the place where a stack of open things becomes empty.
* `lexemes` cuts a text into literals and single characters of code.
-/

import SfcLint.Text.Basic

namespace SfcLint.Script

/-- The three kinds of brackets. -/
inductive Bracket
  | round
  | square
  | curly
  deriving DecidableEq, Repr

namespace Bracket

/-- The kind of bracket that a character opens. -/
def opened? : Char → Option Bracket
  | '(' => some round
  | '[' => some square
  | '{' => some curly
  | _ => none

/-- The kind of bracket that a character closes. -/
def closed? : Char → Option Bracket
  | ')' => some round
  | ']' => some square
  | '}' => some curly
  | _ => none

end Bracket

/-- What is still open at a place: a bracket, or a template string. -/
inductive Frame
  | bracket (kind : Bracket)
  | template
  deriving DecidableEq, Repr

/-- The length of a quoted string after its opening quote. It ends with the next quote of the same
kind, before a line break, or with the text; a backslash takes the next character with it. -/
def quotedLength (quote : Char) : Text → Nat
  | [] => 0
  | c :: t =>
      if c = '\\' then
        match t with
        | [] => 1
        | _ :: t => quotedLength quote t + 2
      else if c = quote then 1
      else if c = '\n' then 0
      else quotedLength quote t + 1

/-- The length of a block comment after its first two characters, the closing ones included. -/
def blockCommentLength : Text → Nat
  | [] => 0
  | '*' :: '/' :: _ => 2
  | _ :: t => blockCommentLength t + 1

/-- The length of the rest of the line. -/
def lineLength (t : Text) : Nat := (t.takeWhile (· != '\n')).length

/-- The length of the quoted string or comment that the text starts with, or zero. -/
def flatLength : Text → Nat
  | '\'' :: t => quotedLength '\'' t + 1
  | '"' :: t => quotedLength '"' t + 1
  | '/' :: '/' :: t => lineLength t + 2
  | '/' :: '*' :: t => blockCommentLength t + 2
  | _ => 0

/-- How many characters it takes until the last open thing is closed, the closing character
included. There is no such place when the text ends before, or when a bracket is closed that is
not the latest open one. The first argument counts characters that are to be passed over. -/
def closing : Nat → List Frame → Text → Option Nat
  | 0, [], _ => some 0
  | _, _, [] => none
  | passing + 1, frames, _ :: t => (closing passing frames t).map (· + 1)
  | 0, .template :: below, c :: t =>
      if c = '\\' then (closing 1 (.template :: below) t).map (· + 1)
      else if c = '\x60' then (closing 0 below t).map (· + 1)
      else if c = '$' ∧ t.head? = some '{' then
        (closing 1 (.bracket .curly :: .template :: below) t).map (· + 1)
      else (closing 0 (.template :: below) t).map (· + 1)
  | 0, .bracket kind :: below, c :: t =>
      match flatLength (c :: t) with
      | n + 1 => (closing n (.bracket kind :: below) t).map (· + 1)
      | 0 =>
          if c = '\x60' then (closing 0 (.template :: .bracket kind :: below) t).map (· + 1)
          else
            match Bracket.opened? c, Bracket.closed? c with
            | some inner, _ => (closing 0 (.bracket inner :: .bracket kind :: below) t).map (· + 1)
            | none, some closed =>
                if closed = kind then (closing 0 below t).map (· + 1) else none
            | none, none => (closing 0 (.bracket kind :: below) t).map (· + 1)

/-- The length of the literal that the text starts with, or zero when it starts with none. A
template string that does not end, or holds a group that does not, takes the whole text. -/
def literalLength : Text → Nat
  | '\x60' :: t => (closing 0 [.template] t).getD t.length + 1
  | t => flatLength t

/-- A piece of script text: one character of code, or a whole literal. -/
inductive Lexeme
  | mark (c : Char)
  | literal (t : Text)
  deriving DecidableEq, Repr

/-- The characters of a lexeme. -/
def Lexeme.text : Lexeme → Text
  | mark c => [c]
  | literal t => t

/-- The lexemes after a number of characters that belong to the one before. -/
def lexemesFrom : Nat → Text → List Lexeme
  | _, [] => []
  | passing + 1, _ :: t => lexemesFrom passing t
  | 0, c :: t =>
      match literalLength (c :: t) with
      | 0 => .mark c :: lexemesFrom 0 t
      | n + 1 => .literal ((c :: t).take (n + 1)) :: lexemesFrom n t

/-- The text as literals and single characters of code. -/
def lexemes (t : Text) : List Lexeme := lexemesFrom 0 t

end SfcLint.Script
