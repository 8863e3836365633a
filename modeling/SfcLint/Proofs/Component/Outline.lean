/-
# Outlines

The outline of a tree lists it in source order, with a mark where a node with children is entered
and one where it is left. What has been made of a template has an outline before it is finished:
its open elements are entered and not yet left. A new node, an element that is opened and an
element that is closed each add their marks at the end of it.
-/

import SfcLint.Proofs.Component.Tree

namespace SfcLint

/-- A part of an outline. Names of elements that are left are in lower case. -/
inductive Mark
  | enterRoot
  | leaveRoot
  | enter (tag : Text) (bindings : List Binding) (position : Position)
  | leave (name : Text)
  | interpolation (content : Text) (position : Position)
  | text (content : Text) (position : Position)
  | comment (content : Text) (position : Position)
  deriving DecidableEq, Repr

namespace Node

mutual

/-- The marks of a node and of all nodes below it, in source order. -/
def outline : Node → List Mark
  | root children => .enterRoot :: (outlineAll children ++ [.leaveRoot])
  | element tag bindings children position =>
      .enter tag bindings position :: (outlineAll children ++ [.leave (Text.lower tag)])
  | interpolation content position => [.interpolation content position]
  | text content position => [.text content position]
  | comment content position => [.comment content position]

/-- The outlines of some nodes, one after the other. -/
def outlineAll : List Node → List Mark
  | [] => []
  | node :: nodes => outline node ++ outlineAll nodes

end

@[simp]
theorem outlineAll_nil : outlineAll [] = [] := rfl

@[simp]
theorem outlineAll_cons (node : Node) (nodes : List Node) :
    outlineAll (node :: nodes) = node.outline ++ outlineAll nodes := rfl

@[simp]
theorem outlineAll_append (front back : List Node) :
    outlineAll (front ++ back) = outlineAll front ++ outlineAll back := by
  induction front with
  | nil => rfl
  | cons node front ih =>
    rw [List.cons_append, outlineAll_cons, ih, outlineAll_cons, List.append_assoc]

mutual

/-- A root among the nodes at and below a node is entered in its outline. -/
theorem enterRoot_mem_outline {children : List Node} :
    ∀ node : Node, root children ∈ node.walk → .enterRoot ∈ node.outline
  | root _, _ => List.mem_cons_self
  | element _ _ _ _, member => by
    rw [walk, List.mem_cons] at member
    rcases member with same | below
    · contradiction
    · exact List.mem_cons_of_mem _ (List.mem_append_left _ (enterRoot_mem_outlineAll _ below))
  | interpolation _ _, member => by simp [walk] at member
  | text _ _, member => by simp [walk] at member
  | comment _ _, member => by simp [walk] at member

theorem enterRoot_mem_outlineAll {children : List Node} :
    ∀ nodes : List Node, root children ∈ walkAll nodes → .enterRoot ∈ outlineAll nodes
  | [], member => by simp [walkAll] at member
  | node :: nodes, member => by
    rw [walkAll, List.mem_append] at member
    rw [outlineAll_cons, List.mem_append]
    exact member.imp (enterRoot_mem_outline node) (enterRoot_mem_outlineAll nodes)

end

/-- Where an outline enters no root, only elements have children. -/
theorem isElement_of_children_ne_nil {nodes : List Node} (rootless : .enterRoot ∉ outlineAll nodes)
    {node : Node} (member : node ∈ walkAll nodes) (parent : node.children ≠ []) :
    node.isElement = true := by
  cases node with
  | root children => exact absurd (enterRoot_mem_outlineAll nodes member) rootless
  | element _ _ _ _ => rfl
  | interpolation _ _ | text _ _ | comment _ _ => exact absurd rfl parent

end Node

namespace Assembly

/-- The element is entered. -/
def OpenElement.enter (opened : OpenElement) : Mark :=
  .enter opened.tag opened.bindings opened.position

/-- The element is left. -/
def OpenElement.leave (opened : OpenElement) : Mark := .leave (Text.lower opened.tag)

/-- The outline of an open element: it is not yet left. -/
def OpenElement.outline (opened : OpenElement) : List Mark :=
  opened.enter :: Node.outlineAll opened.children.reverse

theorem OpenElement.outline_close (opened : OpenElement) :
    opened.close.outline = opened.outline ++ [opened.leave] := rfl

namespace Draft

/-- The outline of what has been made: the children of the root, then the open elements, the
outermost first. -/
def outline (draft : Draft) : List Mark :=
  Node.outlineAll draft.children.reverse ++ draft.stack.reverse.flatMap OpenElement.outline

variable {draft : Draft}

theorem outline_append (draft : Draft) (node : Node) :
    (draft.append node).outline = draft.outline ++ node.outline := by
  rw [append]
  split
  next empty => simp [outline, empty]
  next top below split => simp [outline, split, OpenElement.outline, OpenElement.enter]

theorem outline_appendAll (nodes : List Node) (draft : Draft) :
    (nodes.foldl append draft).outline = draft.outline ++ Node.outlineAll nodes := by
  induction nodes generalizing draft with
  | nil => simp
  | cons node nodes ih =>
    rw [List.foldl_cons, ih, outline_append, Node.outlineAll_cons, List.append_assoc]

theorem outline_push (draft : Draft) (opened : OpenElement) :
    ({ draft with stack := opened :: draft.stack } : Draft).outline =
      draft.outline ++ opened.outline := by
  simp [outline]

theorem outline_pop {top : OpenElement} {below : List OpenElement}
    (split : draft.stack = top :: below) :
    (({ draft with stack := below } : Draft).append top.close).outline =
      draft.outline ++ [top.leave] := by
  rw [outline_append, OpenElement.outline_close]
  simp [outline, split]

/-- The names of the open elements in lower case, innermost first. -/
def names (draft : Draft) : List Text := draft.stack.map fun opened => Text.lower opened.tag

@[simp]
theorem names_append (draft : Draft) (node : Node) : (draft.append node).names = draft.names := by
  rw [append]
  split
  next empty => rfl
  next top below split => simp [names, split]

@[simp]
theorem names_appendAll (nodes : List Node) (draft : Draft) :
    (nodes.foldl append draft).names = draft.names := by
  induction nodes generalizing draft with
  | nil => rfl
  | cons node nodes ih => rw [List.foldl_cons, ih, names_append]

@[simp]
theorem site_append (draft : Draft) (node : Node) : (draft.append node).site = draft.site := by
  rw [append]
  split <;> rfl

@[simp]
theorem site_appendAll (nodes : List Node) (draft : Draft) :
    (nodes.foldl append draft).site = draft.site := by
  induction nodes generalizing draft with
  | nil => rfl
  | cons node nodes ih => rw [List.foldl_cons, ih, site_append]

theorem names_eq_nil_iff : draft.names = [] ↔ draft.stack = [] := List.map_eq_nil_iff

end Draft

end Assembly

end SfcLint
