/-
# Bindings

What is attached to an element: a static attribute, or a directive in normal form. The short and
the long spelling of a directive give the same name, argument and expression, and modifiers are
dropped.
-/

import SfcLint.Text.Position

namespace SfcLint

/-- A static attribute or a directive of an element. -/
structure Binding where
  name : Text
  arg : Option Text
  expression : Option Text
  isStatic : Bool
  rawName : Text
  position : Position
  deriving DecidableEq, Repr

namespace Binding

/-- The argument of a directive without modifiers. An argument in square brackets may hold dots. -/
def withoutModifiers (arg : Text) : Text :=
  if arg.head? = some '[' then
    match Text.offsetOf? [']'] arg with
    | some n => arg.take (n + 1)
    | none => arg
  else arg.takeWhile (· != '.')

/-- A text, unless it is empty. -/
def nonEmpty? (t : Text) : Option Text := if t.isEmpty then none else some t

/-- The binding that an attribute with the given name as written makes. -/
def ofAttribute (rawName : Text) (value : Option Text) (position : Position) : Binding :=
  match rawName with
  | 'v' :: '-' :: directive =>
      let name := (directive.takeWhile (· != ':')).takeWhile (· != '.')
      let arg := (directive.dropWhile (· != ':')).drop 1
      ⟨name, nonEmpty? (withoutModifiers arg), value, false, rawName, position⟩
  | ':' :: arg => ⟨"bind", some (withoutModifiers arg), value, false, rawName, position⟩
  | '.' :: arg => ⟨"bind", some (withoutModifiers arg), value, false, rawName, position⟩
  | '@' :: arg => ⟨"on", some (withoutModifiers arg), value, false, rawName, position⟩
  | '#' :: arg =>
      ⟨"slot", some (if arg.isEmpty then "default" else arg), value, false, rawName, position⟩
  | _ => ⟨rawName, none, value, true, rawName, position⟩

end Binding

end SfcLint
