/-
# Markup trees

A template is a tree whose root and elements have children; interpolations, texts and comments are
leaves. Walking a tree visits a node before its children and these in source order. The depth of a
node counts the elements that are nested below it.
-/

import SfcLint.Markup.Binding

namespace SfcLint

/-- A node of a markup tree. -/
inductive Node
  | root (children : List Node)
  | element (tag : Text) (bindings : List Binding) (children : List Node) (position : Position)
  | interpolation (content : Text) (position : Position)
  | text (content : Text) (position : Position)
  | comment (content : Text) (position : Position)

namespace Node

instance : Inhabited Node := ⟨root []⟩

/-- The children of a node; leaves have none. -/
def children : Node → List Node
  | root children => children
  | element _ _ children _ => children
  | _ => []

/-- Where the node starts. -/
def position : Node → Position
  | root _ => Position.start
  | element _ _ _ position => position
  | interpolation _ position => position
  | text _ position => position
  | comment _ position => position

/-- The tag of an element. -/
def tag? : Node → Option Text
  | element tag _ _ _ => some tag
  | _ => none

/-- The text of a leaf. -/
def content? : Node → Option Text
  | interpolation content _ => some content
  | text content _ => some content
  | comment content _ => some content
  | _ => none

/-- What is attached to an element. -/
def bindings : Node → List Binding
  | element _ bindings _ _ => bindings
  | _ => []

/-- The node is an element. -/
def isElement : Node → Bool
  | element _ _ _ _ => true
  | _ => false

/-- The word for the kind of a node. -/
def kindWord : Node → String
  | root _ => "root"
  | element _ _ _ _ => "element"
  | interpolation _ _ => "interpolation"
  | text _ _ => "text"
  | comment _ _ => "comment"

mutual

/-- The node and all nodes below it, each before its children, in source order. -/
def walk : Node → List Node
  | root children => root children :: walkAll children
  | element tag bindings children position =>
      element tag bindings children position :: walkAll children
  | leaf => [leaf]

/-- The walks of some nodes, one after the other. -/
def walkAll : List Node → List Node
  | [] => []
  | node :: nodes => walk node ++ walkAll nodes

end

mutual

/-- The largest number of elements nested in each other below the node. -/
def depth : Node → Nat
  | root children => depthBelow children
  | element _ _ children _ => depthBelow children
  | _ => 0

/-- The largest depth that elements among some nodes reach, themselves counted. -/
def depthBelow : List Node → Nat
  | [] => 0
  | node :: nodes =>
      max (if node.isElement then depth node + 1 else 0) (depthBelow nodes)

end

/-- The elements at and below the node, in source order. -/
def elements (node : Node) : List Node := node.walk.filter isElement

/-- The first directive of a name. -/
def directive? (node : Node) (name : Text) : Option Binding :=
  node.bindings.find? fun b => !b.isStatic && b.name == name

/-- The first static attribute of a name. -/
def attribute? (node : Node) (name : Text) : Option Binding :=
  node.bindings.find? fun b => b.isStatic && b.name == name

/-- The first directive that binds an attribute of a name. -/
def boundAttribute? (node : Node) (name : Text) : Option Binding :=
  node.bindings.find? fun b => !b.isStatic && b.name == "bind".toList && b.arg == some name

/-- The node has a directive of the name. -/
def hasDirective (node : Node) (name : Text) : Bool := (node.directive? name).isSome

/-- The node has a key, static or bound. -/
def hasKey (node : Node) : Bool :=
  (node.attribute? "key").isSome || (node.boundAttribute? "key").isSome

end Node

end SfcLint
