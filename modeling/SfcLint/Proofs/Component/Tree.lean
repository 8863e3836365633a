/-
# What all nodes of a tree have

A tree is built from closed elements and leaves, latest first. What every added node has, and what
every open element has whatever comes below it, is what all nodes of the finished tree have.
-/

import SfcLint.Component.Assembly

namespace SfcLint

theorem Node.mem_walkAll {node : Node} {nodes : List Node} :
    node ∈ walkAll nodes ↔ ∃ child ∈ nodes, node ∈ child.walk := by
  induction nodes with
  | nil => simp [walkAll]
  | cons child nodes ih => simp [walkAll, ih]

theorem Node.mem_walk_element {node : Node} {tag : Text} {bindings : List Binding}
    {children : List Node} {position : Position} :
    node ∈ (element tag bindings children position).walk ↔
      node = element tag bindings children position ∨
        ∃ child ∈ children, node ∈ child.walk := by
  rw [walk, List.mem_cons, mem_walkAll]

theorem Node.mem_walk_root {node : Node} {children : List Node} :
    node ∈ (root children).walk ↔
      node = root children ∨ ∃ child ∈ children, node ∈ child.walk := by
  rw [walk, List.mem_cons, mem_walkAll]

namespace Assembly

/-- All nodes at and below some node. -/
def Throughout (P : Node → Prop) (node : Node) : Prop := ∀ inner ∈ node.walk, P inner

/-- The element has the property whatever its children, and so have all nodes below it. -/
structure OpenElement.Throughout (P : Node → Prop) (opened : OpenElement) : Prop where
  itself : ∀ children, P (.element opened.tag opened.bindings children opened.position)
  below : ∀ child ∈ opened.children, Assembly.Throughout P child

/-- All nodes that have been made have the property. -/
structure Draft.Throughout (P : Node → Prop) (draft : Draft) : Prop where
  children : ∀ child ∈ draft.children, Assembly.Throughout P child
  stack : ∀ opened ∈ draft.stack, opened.Throughout P

variable {P : Node → Prop} {draft : Draft}

theorem OpenElement.Throughout.close {opened : OpenElement} (all : opened.Throughout P) :
    Assembly.Throughout P opened.close := by
  intro inner member
  rw [OpenElement.close, Node.mem_walk_element] at member
  rcases member with rfl | ⟨child, isChild, member⟩
  · exact all.itself _
  · exact all.below child (List.mem_reverse.mp isChild) inner member

namespace Draft.Throughout

theorem root (all : draft.Throughout P) (top : ∀ children, P (.root children)) :
    Assembly.Throughout P (.root draft.children.reverse) := by
  intro inner member
  rw [Node.mem_walk_root] at member
  rcases member with rfl | ⟨child, isChild, member⟩
  · exact top _
  · exact all.children child (List.mem_reverse.mp isChild) inner member

theorem append {node : Node} (all : draft.Throughout P) (new : Assembly.Throughout P node) :
    (draft.append node).Throughout P := by
  rw [Draft.append]
  split
  next => exact ⟨by simpa using ⟨new, all.children⟩, all.stack⟩
  next top below split =>
    have stack := all.stack
    rw [split, List.forall_mem_cons] at stack
    refine ⟨all.children, ?_⟩
    simp only [List.forall_mem_cons]
    exact ⟨⟨stack.1.itself, by simpa using ⟨new, stack.1.below⟩⟩, stack.2⟩

theorem appendAll {nodes : List Node} (all : draft.Throughout P)
    (new : ∀ node ∈ nodes, Assembly.Throughout P node) :
    (nodes.foldl Draft.append draft).Throughout P := by
  induction nodes generalizing draft with
  | nil => exact all
  | cons node nodes ih =>
    rw [List.forall_mem_cons] at new
    exact ih (all.append new.1) new.2

theorem push {opened : OpenElement} (all : draft.Throughout P) (new : opened.Throughout P) :
    ({ draft with stack := opened :: draft.stack } : Draft).Throughout P :=
  ⟨all.children, List.forall_mem_cons.mpr ⟨new, all.stack⟩⟩

theorem pop {top : OpenElement} {below : List OpenElement} (all : draft.Throughout P)
    (split : draft.stack = top :: below) :
    (({ draft with stack := below } : Draft).append top.close).Throughout P := by
  have stack := all.stack
  rw [split, List.forall_mem_cons] at stack
  have rest : ({ draft with stack := below } : Draft).Throughout P := ⟨all.children, stack.2⟩
  exact rest.append stack.1.close

end Draft.Throughout

/-! ## Runs that wait -/

@[simp]
theorem Draft.append_run (draft : Draft) (node : Node) : (draft.append node).run = draft.run := by
  rw [append]
  split <;> rfl

@[simp]
theorem Draft.appendAll_run (nodes : List Node) (draft : Draft) :
    (nodes.foldl append draft).run = draft.run := by
  induction nodes generalizing draft with
  | nil => rfl
  | cons node nodes ih => rw [List.foldl_cons, ih, append_run]

/-- Making nodes of the run that waits leaves none, and adds what the run holds. -/
theorem Draft.flush_eq_ok {flushed : Draft} (made : draft.flush = .ok flushed) :
    flushed.run = none ∧
      ∃ nodes : List Node, flushed = nodes.foldl append { draft with run := none } ∧
        ((draft.run = none ∧ nodes = []) ∨
          ∃ position stretches, draft.run = some (position, stretches) ∧
            Markup.nodesOfRun position (Markup.unmasked stretches.reverse.flatten) =
              .ok nodes) := by
  rw [flush] at made
  split at made
  next none =>
    obtain rfl := Except.ok.inj made
    refine ⟨none, [], ?_, .inl ⟨none, rfl⟩⟩
    rw [List.foldl_nil, ← none]
  next position stretches waits =>
    split at made
    · contradiction
    next nodes found =>
      obtain rfl := Except.ok.inj made
      exact ⟨appendAll_run _ _, nodes, rfl, .inr ⟨position, stretches, waits, found⟩⟩

end Assembly

end SfcLint
