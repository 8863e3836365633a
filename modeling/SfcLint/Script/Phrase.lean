/-
# Common phrases

Patterns and small readings that several questions about a script share: keywords of declarations,
assignments, type annotations and quoted texts.
-/

import SfcLint.Pattern.Search

namespace SfcLint.Script

open Pattern

/-- A keyword that declares a variable. -/
def declarator : Pattern := words ["const", "let", "var"]

/-- A type annotation, up to the equals sign after it. -/
def annotation : Pattern := optional (all [":", some1 (outside "=")])

/-- An operator that changes what stands before it. -/
def mutationOperator : Pattern :=
  any [
    all ["=", ahead false (one (among "=>"))],
    "++", "--", "+=", "-=", "*=", "/="]

/-- The next character is an opening brace. -/
def beforeBrace : Pattern := ahead true "\x7b"

/-- The next character opens a list or an object. -/
def beforeLiteral : Pattern := ahead true (one (among "[\x7b"))

/-- The next character opens parameters or continues a word. -/
def beforeFunction : Pattern := ahead true (one fun c => c == '(' || Text.isWordChar c)

/-- One of the three quotes. -/
def isQuote (c : Char) : Bool := c == '\'' || c == '"' || c == '\x60'

/-- A quote of any kind. -/
def quote : Pattern := one isQuote

/-- What stands between two quotes, which need not be the same. -/
def unquoted? (t : Text) : Option Text :=
  match t with
  | first :: rest =>
      if isQuote first && rest.getLast?.any isQuote then some rest.dropLast else none
  | [] => none

/-- The whole text is an identifier. -/
def isIdentifier (t : Text) : Bool :=
  match Text.strip t with
  | first :: rest => Text.isNameStart first && rest.all Text.isNameChar
  | [] => false

end SfcLint.Script
