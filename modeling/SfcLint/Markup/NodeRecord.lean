/-
# Nodes as records

A node can be written down as a record that has room for everything, whatever its kind. A text may
be given children then, but only those of roots and elements are looked at. A walk keeps a stack of
the nodes that it has still to visit, and the depth below a node is counted along its elements.
-/

import SfcLint.Markup.Node

namespace SfcLint

/-- What a node can be. -/
inductive NodeKind
  | root
  | element
  | interpolation
  | text
  | comment
  deriving DecidableEq, Repr

/-- A node with every field that a node of some kind has. -/
structure NodeRecord where
  kind : NodeKind
  tag : Option Text := none
  children : List NodeRecord := []
  bindings : List Binding := []
  content : Option Text := none
  position : Position := Position.start

namespace NodeRecord

/-- The children that a walk follows. -/
def followed (node : NodeRecord) : List NodeRecord :=
  if node.kind = .root ∨ node.kind = .element then node.children else []

mutual

/-- How many records there are, with those of all children. -/
def size : NodeRecord → Nat
  | ⟨_, _, children, _, _, _⟩ => sizeAll children + 1

/-- How many records there are in all of some. -/
def sizeAll : List NodeRecord → Nat
  | [] => 0
  | node :: nodes => size node + sizeAll nodes

end

theorem size_eq (node : NodeRecord) : node.size = sizeAll node.children + 1 := by
  cases node
  rfl

theorem sizeAll_append (nodes later : List NodeRecord) :
    sizeAll (nodes ++ later) = sizeAll nodes + sizeAll later := by
  induction nodes with
  | nil => rw [List.nil_append, sizeAll, Nat.zero_add]
  | cons node nodes ih => rw [List.cons_append, sizeAll, sizeAll, ih, Nat.add_assoc]

theorem sizeAll_reverse (nodes : List NodeRecord) : sizeAll nodes.reverse = sizeAll nodes := by
  induction nodes with
  | nil => rfl
  | cons node nodes ih =>
    rw [List.reverse_cons, sizeAll_append, ih, sizeAll, sizeAll, sizeAll, Nat.add_zero,
      Nat.add_comm]

theorem sizeAll_followed_lt (node : NodeRecord) : sizeAll node.followed < node.size := by
  rw [size_eq, followed]
  split
  · exact Nat.lt_succ_self _
  · exact Nat.zero_lt_succ _

/-- A walk on its way: the nodes that it has visited, in order, and the stack of those that it has
still to visit, with the next one last. -/
structure Walk where
  visited : List NodeRecord
  waiting : List NodeRecord

namespace Walk

/-- The next node is visited. The first of its children comes to lie on top of the stack. -/
def step? (walk : Walk) : Option Walk :=
  walk.waiting.getLast?.map fun node =>
    ⟨walk.visited ++ [node], walk.waiting.dropLast ++ node.followed.reverse⟩

/-- How many records there are on the stack, with those of all children. -/
def weight (walk : Walk) : Nat := sizeAll walk.waiting

theorem weight_lt_of_step? {walk next : Walk} (step : walk.step? = some next) :
    next.weight < walk.weight := by
  obtain ⟨node, last, rfl⟩ := Option.map_eq_some_iff.mp step
  obtain ⟨front, split⟩ := List.getLast?_eq_some_iff.mp last
  have lighter := node.sizeAll_followed_lt
  simp only [weight, split, List.dropLast_concat, sizeAll_append, sizeAll_reverse, sizeAll]
  omega

/-- All nodes that the walk visits. -/
def run (walk : Walk) : List NodeRecord :=
  match _step : walk.step? with
  | none => walk.visited
  | some next => next.run
termination_by walk.weight
decreasing_by exact weight_lt_of_step? _step

end Walk

/-- The node and all nodes below it, as a stack brings them up. -/
def walk (node : NodeRecord) : List NodeRecord := Walk.run ⟨[], [node]⟩

mutual

/-- The largest number of elements nested in each other below the node. -/
def maxDepth : NodeRecord → Nat
  | ⟨kind, _, children, _, _, _⟩ =>
      if kind = .root ∨ kind = .element then deepest children else 0

/-- The largest depth that elements among some nodes reach, themselves counted. -/
def deepest : List NodeRecord → Nat
  | [] => 0
  | node :: nodes => max (if node.kind = .element then 1 + maxDepth node else 0) (deepest nodes)

end

end NodeRecord

namespace Node

mutual

/-- The node as a record. -/
def record : Node → NodeRecord
  | root children => { kind := .root, children := records children }
  | element tag bindings children position =>
      { kind := .element, tag := some tag, children := records children, bindings, position }
  | interpolation content position => { kind := .interpolation, content := some content, position }
  | text content position => { kind := .text, content := some content, position }
  | comment content position => { kind := .comment, content := some content, position }

/-- Some nodes as records. -/
def records : List Node → List NodeRecord
  | [] => []
  | node :: nodes => record node :: records nodes

end

end Node

end SfcLint
