/-
# Components

A component has a template, scripts, or both. The scripts of a file are joined into one text by
line breaks; each keeps its offset there and the position of its first character in the file, so
that an offset in the joined text leads back to a position in the file.
-/

import SfcLint.Markup.Node

namespace SfcLint

/-- The template of a component: its tree, its text, and where its start tag stands. -/
structure Markup where
  root : Node
  content : Text
  position : Position

/-- One script in the joined script text. -/
structure ScriptSegment where
  offset : Nat
  position : Position
  setup : Bool
  lang : Option Text
  deriving DecidableEq, Repr

/-- The joined text of the scripts and where each of them starts. -/
structure Logic where
  text : Text
  segments : List ScriptSegment
  deriving DecidableEq, Repr

namespace Logic

/-- The first language that a script names. -/
def lang? (logic : Logic) : Option Text :=
  logic.segments.findSome? fun segment => segment.lang.bind fun lang =>
    if lang.isEmpty then none else some lang

/-- The last script that starts at or before an offset, or else the first one. -/
def segmentAt? (logic : Logic) (offset : Int) : Option ScriptSegment :=
  (logic.segments.filter fun segment => (segment.offset : Int) ≤ offset).getLast?.or
    logic.segments.head?

/-- The position in the file of an offset in the joined text. Offsets outside the text count as its
nearest end. -/
def positionAt (logic : Logic) (offset : Int) : Position :=
  match logic.segmentAt? offset with
  | none => Position.start
  | some segment =>
      segment.position.after
        ((logic.text.drop segment.offset).take (offset - segment.offset).toNat)

end Logic

/-- A component, as far as it was found in a file. -/
structure Component where
  markup : Option Markup
  logic : Option Logic

namespace Component

/-- The root of the template. -/
def template? (component : Component) : Option Node := component.markup.map (·.root)

/-- The joined script text. -/
def script? (component : Component) : Option Text := component.logic.map (·.text)

/-- The position in the file of an offset in the joined script text. -/
def scriptPosition (component : Component) (offset : Int) : Position :=
  match component.logic with
  | some logic => logic.positionAt offset
  | none => Position.start

/-- The template's root and all nodes below it, or nothing without a template. -/
def nodes (component : Component) : List Node :=
  match component.template? with
  | some root => root.walk
  | none => []

/-- The elements of the template. -/
def elements (component : Component) : List Node := component.nodes.filter Node.isElement

/-- A component that is a single script. -/
def ofScript (text : Text) (lang : Option Text) : Component :=
  ⟨none, some ⟨text, [⟨0, Position.start, false, lang⟩]⟩⟩

end Component

end SfcLint
