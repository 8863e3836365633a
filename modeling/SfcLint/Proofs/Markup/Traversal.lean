/-
# Walks and depths of trees

A walk keeps a stack of nodes, and what it has visited together with the walks of what lies on the
stack, from the top down, never changes. So a walk comes to what the tree says by itself: a node,
and then the walks of the children that are followed. It visits each place of the tree once, in the
order of the places, and the depth is the largest number of elements on the way to one of them.
-/

import Mathlib.Data.List.Forall2
import Mathlib.Order.Bounds.Basic
import Mathlib.Order.MinMax
import SfcLint.Markup.NodeRecord

namespace SfcLint

namespace NodeRecord

/-! ## Walks -/

mutual

/-- The node, followed by the walks of the children that are followed. -/
def preorder : NodeRecord → List NodeRecord
  | ⟨kind, tag, children, bindings, content, position⟩ =>
      ⟨kind, tag, children, bindings, content, position⟩ ::
        if kind = .root ∨ kind = .element then preorderAll children else []

/-- The walks of some nodes, one after the other. -/
def preorderAll : List NodeRecord → List NodeRecord
  | [] => []
  | node :: nodes => preorder node ++ preorderAll nodes

end

theorem preorderAll_eq (nodes : List NodeRecord) : preorderAll nodes = nodes.flatMap preorder := by
  induction nodes with
  | nil => rfl
  | cons node nodes ih => rw [preorderAll, ih, List.flatMap_cons]

theorem preorder_eq (node : NodeRecord) :
    node.preorder = node :: node.followed.flatMap preorder := by
  cases node
  rw [preorder, followed, preorderAll_eq]
  split <;> rfl

/-- What a walk has visited, and then what lies on the stack, from the top down. -/
def Walk.total (walk : Walk) : List NodeRecord :=
  walk.visited ++ walk.waiting.reverse.flatMap preorder

/-- A step changes nothing about the whole walk: the node moves to the visited ones, and the
children that are followed take its place on the stack. -/
theorem Walk.total_of_step? {walk next : Walk} (step : walk.step? = some next) :
    next.total = walk.total := by
  obtain ⟨node, last, rfl⟩ := Option.map_eq_some_iff.mp step
  obtain ⟨front, split⟩ := List.getLast?_eq_some_iff.mp last
  simp only [total, split, List.dropLast_concat, List.reverse_append, List.reverse_reverse,
    List.reverse_singleton, List.flatMap_append, List.flatMap_cons, preorder_eq node,
    List.append_assoc, List.cons_append, List.nil_append]

theorem Walk.run_eq (walk : Walk) : walk.run = walk.total := by
  fun_induction Walk.run walk with
  | case1 walk ended =>
    have nothing : walk.waiting = [] :=
      List.getLast?_eq_none_iff.mp (Option.map_eq_none_iff.mp ended)
    simp [total, nothing]
  | case2 walk next step ih => rw [ih, total_of_step? step]

theorem walk_eq_preorder (node : NodeRecord) : node.walk = node.preorder := by
  rw [walk, Walk.run_eq]
  simp [Walk.total]

/-- The walk of a node is the node, followed by the walks of the children that are followed. -/
theorem walk_eq (node : NodeRecord) : node.walk = node :: node.followed.flatMap walk := by
  have same : walk = preorder := funext walk_eq_preorder
  rw [same]
  exact preorder_eq node

theorem size_le_sizeAll {node : NodeRecord} {nodes : List NodeRecord} (member : node ∈ nodes) :
    node.size ≤ sizeAll nodes := by
  induction nodes with
  | nil => exact absurd member List.not_mem_nil
  | cons first nodes ih =>
    rw [sizeAll]
    rcases List.mem_cons.mp member with rfl | later
    · exact Nat.le_add_right _ _
    · exact Nat.le_trans (ih later) (Nat.le_add_left _ _)

/-- What passes from the children that are followed to their parent holds of every node. -/
theorem induction_followed {P : NodeRecord → Prop}
    (step : ∀ node, (∀ child ∈ node.followed, P child) → P node) (node : NodeRecord) : P node :=
  step node fun child _ => induction_followed step child
termination_by node.size
decreasing_by
  exact Nat.lt_of_le_of_lt (size_le_sizeAll ‹_›) node.sizeAll_followed_lt

/-! ## Places -/

/-- Following children by their numbers leads from a node along a path, whose last node is where it
ends. -/
inductive Leads : NodeRecord → List Nat → List NodeRecord → Prop
  | here (node : NodeRecord) : Leads node [] [node]
  | down {node child : NodeRecord} {i : Nat} {address : List Nat} {path : List NodeRecord} :
      node.followed[i]? = some child → Leads child address path →
        Leads node (i :: address) (node :: path)

mutual

/-- The ways from a node to the nodes below it: by which children and along which nodes. -/
def trails : NodeRecord → List (List Nat × List NodeRecord)
  | ⟨kind, tag, children, bindings, content, position⟩ =>
      let node : NodeRecord := ⟨kind, tag, children, bindings, content, position⟩
      ([], [node]) ::
        (if kind = .root ∨ kind = .element then trailsFrom 0 children else []).map fun trail =>
          (trail.1, node :: trail.2)

/-- The ways through some children, whose numbers are counted on from the given one. -/
def trailsFrom : Nat → List NodeRecord → List (List Nat × List NodeRecord)
  | _, [] => []
  | i, node :: nodes =>
      (trails node).map (fun trail => (i :: trail.1, trail.2)) ++ trailsFrom (i + 1) nodes

end

theorem trails_eq (node : NodeRecord) :
    node.trails = ([], [node]) ::
      (trailsFrom 0 node.followed).map fun trail => (trail.1, node :: trail.2) := by
  cases node
  rw [trails, followed]
  split <;> rfl

theorem mem_trailsFrom {k : Nat} {nodes : List NodeRecord} {address : List Nat}
    {path : List NodeRecord} :
    (address, path) ∈ trailsFrom k nodes ↔
      ∃ i child later, nodes[i]? = some child ∧ address = (k + i) :: later ∧
        (later, path) ∈ child.trails := by
  induction nodes generalizing k with
  | nil => simp [trailsFrom]
  | cons node nodes ih =>
    rw [trailsFrom, List.mem_append, ih]
    constructor
    · rintro (first | ⟨i, child, later, stands, rfl, trail⟩)
      · obtain ⟨⟨later, _⟩, trail, same⟩ := List.mem_map.mp first
        obtain ⟨rfl, rfl⟩ := Prod.mk.inj same
        exact ⟨0, node, later, rfl, rfl, trail⟩
      · exact ⟨i + 1, child, later, stands, by rw [Nat.add_right_comm, Nat.add_assoc], trail⟩
    · rintro ⟨_ | i, child, later, stands, rfl, trail⟩
      · obtain rfl := Option.some.inj stands
        exact .inl (List.mem_map.mpr ⟨_, trail, rfl⟩)
      · exact .inr ⟨i, child, later, stands, by rw [Nat.add_right_comm, Nat.add_assoc], trail⟩

theorem mem_trails_iff {node : NodeRecord} {address : List Nat} {path : List NodeRecord} :
    (address, path) ∈ node.trails ↔ Leads node address path := by
  induction node using induction_followed generalizing address path with
  | step node ih =>
  rw [trails_eq, List.mem_cons, List.mem_map]
  constructor
  · rintro (here | ⟨⟨_, rest⟩, further, same⟩)
    · obtain ⟨rfl, rfl⟩ := Prod.mk.inj here
      exact .here node
    · obtain ⟨rfl, rfl⟩ := Prod.mk.inj same
      obtain ⟨i, child, later, stands, rfl, trail⟩ := mem_trailsFrom.mp further
      rw [Nat.zero_add]
      exact .down stands ((ih child (List.mem_of_getElem? stands)).mp trail)
  · intro leads
    cases leads with
    | here => exact .inl rfl
    | @down _ child i later rest stands leads =>
      have trail := (ih child (List.mem_of_getElem? stands)).mpr leads
      exact .inr ⟨_, mem_trailsFrom.mpr ⟨i, child, later, stands, by rw [Nat.zero_add], trail⟩, rfl⟩

theorem pairwise_trailsFrom {k : Nat} {nodes : List NodeRecord}
    (each : ∀ node ∈ nodes, node.trails.Pairwise fun a b => a.1 < b.1) :
    (trailsFrom k nodes).Pairwise fun a b => a.1 < b.1 := by
  induction nodes generalizing k with
  | nil => exact .nil
  | cons node nodes ih =>
    obtain ⟨first, later⟩ := List.forall_mem_cons.mp each
    rw [trailsFrom, List.pairwise_append]
    refine ⟨?_, ih later, ?_⟩
    · rw [List.pairwise_map]
      exact first.imp fun less => List.cons_lt_cons_self.mpr less
    · rintro _ inFirst ⟨_, _⟩ inLater
      obtain ⟨_, -, rfl⟩ := List.mem_map.mp inFirst
      obtain ⟨i, -, _, -, rfl, -⟩ := mem_trailsFrom.mp inLater
      exact List.cons_lt_cons_iff.mpr (.inl (by omega))

/-- The ways are in the order of their addresses. -/
theorem pairwise_trails (node : NodeRecord) : node.trails.Pairwise fun a b => a.1 < b.1 := by
  induction node using induction_followed with
  | step node ih =>
  rw [trails_eq, List.pairwise_cons, List.pairwise_map]
  refine ⟨?_, pairwise_trailsFrom ih⟩
  rintro _ member
  obtain ⟨⟨_, _⟩, trail, rfl⟩ := List.mem_map.mp member
  obtain ⟨_, -, _, -, rfl, -⟩ := mem_trailsFrom.mp trail
  exact List.nil_lt_cons _ _

theorem getLast?_trailsFrom {k : Nat} {nodes : List NodeRecord}
    (each : ∀ node ∈ nodes, node.trails.map (·.2.getLast?) = node.walk.map some) :
    (trailsFrom k nodes).map (·.2.getLast?) = (nodes.flatMap walk).map some := by
  induction nodes generalizing k with
  | nil => rfl
  | cons node nodes ih =>
    obtain ⟨first, later⟩ := List.forall_mem_cons.mp each
    rw [trailsFrom, List.map_append, List.map_map, ih later, List.flatMap_cons, List.map_append,
      ← first]
    rfl

/-- A walk visits, in order, the nodes at the ends of the ways. -/
theorem getLast?_trails (node : NodeRecord) :
    node.trails.map (·.2.getLast?) = node.walk.map some := by
  induction node using induction_followed with
  | step node ih =>
  have ends (trail : List Nat × List NodeRecord) :
      (node :: trail.2).getLast? = some (trail.2.getLast?.getD node) := List.getLast?_cons
  have below := getLast?_trailsFrom (k := 0) ih
  rw [trails_eq, walk_eq, List.map_cons, List.map_cons, List.map_map, List.cons.injEq]
  refine ⟨rfl, ?_⟩
  calc (trailsFrom 0 node.followed).map _
      = ((trailsFrom 0 node.followed).map (·.2.getLast?)).map
          fun last => some (last.getD node) := by
        rw [List.map_map]
        exact List.map_congr_left fun trail _ => ends trail
    _ = (node.followed.flatMap walk).map some := by
        rw [below, List.map_map]
        rfl

/-- A walk visits every place once, in the order of their addresses. -/
theorem exists_addresses (node : NodeRecord) :
    ∃ addresses : List (List Nat), addresses.Pairwise (· < ·) ∧
      (∀ address, address ∈ addresses ↔ ∃ path, Leads node address path) ∧
      List.Forall₂ (fun address visited =>
          ∃ path, Leads node address path ∧ path.getLast? = some visited)
        addresses node.walk := by
  refine ⟨node.trails.map Prod.fst, ?_, ?_, ?_⟩
  · exact List.pairwise_map.mpr (pairwise_trails node)
  · intro address
    constructor
    · rintro member
      obtain ⟨⟨_, path⟩, trail, rfl⟩ := List.mem_map.mp member
      exact ⟨path, mem_trails_iff.mp trail⟩
    · rintro ⟨path, leads⟩
      exact List.mem_map.mpr ⟨_, mem_trails_iff.mpr leads, rfl⟩
  · have ends : List.Forall₂ (fun trail visited => trail.2.getLast? = some visited)
        node.trails node.walk := by
      have same := getLast?_trails node
      rw [← List.forall₂_eq_eq_eq, List.forall₂_map_left_iff, List.forall₂_map_right_iff] at same
      exact same
    have ways := (List.forall₂_and_left node.trails node.walk).mpr
      ⟨fun _ member => mem_trails_iff.mp member, ends⟩
    rw [List.forall₂_map_left_iff]
    exact ways.imp fun trail visited ⟨leads, last⟩ => ⟨trail.2, leads, last⟩

/-! ## Depth -/

/-- How many elements are among some nodes. -/
def countElements (nodes : List NodeRecord) : Nat := nodes.countP fun node => node.kind = .element

theorem countElements_cons (node : NodeRecord) (nodes : List NodeRecord) :
    countElements (node :: nodes) =
      (if node.kind = .element then 1 else 0) + countElements nodes := by
  rw [countElements, List.countP_cons, Nat.add_comm]
  simp [countElements]

/-- How many elements are on the way from a node to some node below it. -/
def elementCounts (node : NodeRecord) : Set Nat :=
  { n | ∃ address path, Leads node address path ∧ countElements path = n }

theorem maxDepth_eq (node : NodeRecord) : node.maxDepth = deepest node.followed := by
  cases node
  rw [maxDepth, followed]
  split <;> rfl

/-- How deep an element reaches with itself. Other nodes do not count. -/
def reach (node : NodeRecord) : Nat := if node.kind = .element then 1 + node.maxDepth else 0

theorem reach_le_deepest {node : NodeRecord} {nodes : List NodeRecord} (member : node ∈ nodes) :
    node.reach ≤ deepest nodes := by
  induction nodes with
  | nil => exact absurd member List.not_mem_nil
  | cons first nodes ih =>
    rw [deepest]
    rcases List.mem_cons.mp member with rfl | later
    · exact le_max_left _ _
    · exact (ih later).trans (le_max_right _ _)

theorem exists_reach_eq_deepest (nodes : List NodeRecord) :
    deepest nodes = 0 ∨ ∃ node ∈ nodes, deepest nodes = node.reach := by
  induction nodes with
  | nil => exact .inl rfl
  | cons node nodes ih =>
    rw [deepest]
    rcases max_choice (reach node) (deepest nodes) with first | later
    · exact .inr ⟨node, List.mem_cons_self, first⟩
    · rcases ih with flat | ⟨deep, member, same⟩
      · exact .inl (later.trans flat)
      · exact .inr ⟨deep, List.mem_cons_of_mem _ member, later.trans same⟩

/-- Where no root stands below a root or an element, a node that is no element has nothing below
it that is followed. -/
theorem reach_eq {node : NodeRecord} (inner : node.kind ≠ .root) :
    node.reach = (if node.kind = .element then 1 else 0) + node.maxDepth := by
  rw [reach]
  split
  · rfl
  next other =>
    rw [maxDepth_eq, followed, if_neg (by simp [inner, other])]
    rfl

/-- Depth, with the node itself, is the largest number of elements on a way from the node. -/
theorem isGreatest_elementCounts {node : NodeRecord}
    (inner : ∀ child ∈ node.followed, ∀ visited ∈ child.walk, visited.kind ≠ .root) :
    IsGreatest node.elementCounts ((if node.kind = .element then 1 else 0) + node.maxDepth) := by
  induction node using induction_followed with
  | step node ih =>
  -- A child is no root, and what is below it is below the node.
  have greatest {child : NodeRecord} (member : child ∈ node.followed) :
      IsGreatest child.elementCounts child.reach := by
    have below := inner child member
    rw [walk_eq, List.forall_mem_cons] at below
    rw [reach_eq below.1]
    exact ih child member fun grandchild followed visited seen =>
      below.2 visited (List.mem_flatMap.mpr ⟨grandchild, followed, seen⟩)
  rw [maxDepth_eq]
  constructor
  · rcases exists_reach_eq_deepest node.followed with flat | ⟨child, member, same⟩
    · exact ⟨[], [node], .here node, by rw [countElements_cons, flat]; rfl⟩
    · obtain ⟨⟨address, path, leads, count⟩, -⟩ := greatest member
      obtain ⟨i, stands⟩ := List.getElem?_of_mem member
      refine ⟨i :: address, node :: path, .down stands leads, ?_⟩
      rw [countElements_cons, count, same]
  · rintro _ ⟨address, path, leads, rfl⟩
    cases leads with
    | here => simp [countElements]
    | @down _ child i later rest stands leads =>
      have member := List.mem_of_getElem? stands
      have most := (greatest member).2 ⟨later, rest, leads, rfl⟩
      rw [countElements_cons]
      exact Nat.add_le_add_left (most.trans (reach_le_deepest member)) _

end NodeRecord

/-! ## Nodes and their records -/

namespace Node

theorem records_eq (nodes : List Node) : records nodes = nodes.map record := by
  induction nodes with
  | nil => rfl
  | cons node nodes ih => rw [records, ih, List.map_cons]

theorem kind_record_iff (node : Node) : node.record.kind = .element ↔ node.isElement = true := by
  cases node <;> simp [record, isElement]

theorem followed_record (node : Node) : node.record.followed = node.children.map record := by
  cases node <;> simp [record, NodeRecord.followed, children, records_eq]

mutual

/-- The records of a node are walked as the node is. -/
theorem walk_record : ∀ node : Node, node.record.walk = node.walk.map record
  | root children => by
    rw [NodeRecord.walk_eq, followed_record, walk, List.map_cons, ← walkAll_records children]
    rfl
  | element tag bindings children position => by
    rw [NodeRecord.walk_eq, followed_record, walk, List.map_cons, ← walkAll_records children]
    rfl
  | interpolation _ _ => by rw [NodeRecord.walk_eq, followed_record]; rfl
  | text _ _ => by rw [NodeRecord.walk_eq, followed_record]; rfl
  | comment _ _ => by rw [NodeRecord.walk_eq, followed_record]; rfl

theorem walkAll_records :
    ∀ nodes : List Node, (nodes.map record).flatMap NodeRecord.walk = (walkAll nodes).map record
  | [] => rfl
  | node :: nodes => by
    rw [List.map_cons, List.flatMap_cons, walk_record node, walkAll_records nodes, walkAll,
      List.map_append]

end

mutual

/-- The records of a node are as deep as the node is. -/
theorem maxDepth_record : ∀ node : Node, node.record.maxDepth = node.depth
  | root children => by
    rw [NodeRecord.maxDepth_eq, followed_record, depth]
    exact deepest_records children
  | element tag bindings children position => by
    rw [NodeRecord.maxDepth_eq, followed_record, depth]
    exact deepest_records children
  | interpolation _ _ => rfl
  | text _ _ => rfl
  | comment _ _ => rfl

theorem deepest_records :
    ∀ nodes : List Node, NodeRecord.deepest (nodes.map record) = depthBelow nodes
  | [] => rfl
  | node :: nodes => by
    rw [List.map_cons, NodeRecord.deepest, depthBelow, deepest_records nodes, maxDepth_record node]
    simp only [kind_record_iff, Nat.add_comm]

end

end Node

/-- **Walking with a stack is walking along the tree, and depth is the most elements on a way.** A
walk is the node, followed by the walks of its children in order when it is a root or an element. It
visits every place that can be reached once, a node before what is below it. Below a root under
which no root stands, the depth is the largest number of elements on the way to a node that the walk
visits. The nodes of a template are walked and measured as their records are. -/
theorem NodeRecord.walk_and_depth :
    (∀ node : NodeRecord, node.walk =
      node :: if node.kind = .root ∨ node.kind = .element then node.children.flatMap walk else []) ∧
    (∀ node : NodeRecord, ∃ addresses : List (List Nat), addresses.Pairwise (· < ·) ∧
      (∀ address, address ∈ addresses ↔ ∃ path, Leads node address path) ∧
      List.Forall₂ (fun address visited =>
          ∃ path, Leads node address path ∧ path.getLast? = some visited)
        addresses node.walk) ∧
    (∀ root : NodeRecord, root.kind = .root →
      (∀ child ∈ root.children, ∀ visited ∈ child.walk, visited.kind ≠ .root) →
        IsGreatest
          { n | ∃ address path, Leads root address path ∧
              path.countP (fun node => node.kind = .element) = n }
          root.maxDepth) ∧
    ∀ node : Node, node.record.walk = node.walk.map Node.record ∧
      node.record.maxDepth = node.depth := by
  refine ⟨fun node => ?_, exists_addresses, fun root isRoot inner => ?_, fun node =>
    ⟨node.walk_record, node.maxDepth_record⟩⟩
  · rw [walk_eq, followed]
    split <;> rfl
  · have children : root.followed = root.children := if_pos (.inl isRoot)
    have below : ∀ child ∈ root.followed, ∀ visited ∈ child.walk, visited.kind ≠ .root := by
      rwa [children]
    have greatest := isGreatest_elementCounts below
    rw [if_neg (by simp [isRoot]), Nat.zero_add] at greatest
    exact greatest

/-- A list in a page, with a text that has a child. -/
def listPage : NodeRecord :=
  { kind := .root
    children := [
      { kind := .text, children := [{ kind := .element }] },
      { kind := .element, children := [{ kind := .element }, { kind := .comment }] }] }

/-- The child of the text is not visited and does not count. -/
theorem NodeRecord.walk_and_depth_listPage :
    listPage.kind = .root ∧
      (∀ child ∈ listPage.children, ∀ visited ∈ child.walk, visited.kind ≠ .root) ∧
      listPage.walk.map NodeRecord.kind = [.root, .text, .element, .element, .comment] ∧
      ∃ address path, Leads listPage address path ∧
        path.countP (fun node => node.kind = .element) = 2 := by
  have inner : ∀ child ∈ listPage.children, ∀ visited ∈ child.walk, visited.kind ≠ .root := by
    simp [listPage, walk_eq_preorder, preorder, preorderAll]
  obtain ⟨address, path, leads, count⟩ := (walk_and_depth.2.2.1 listPage rfl inner).1
  have deep : listPage.maxDepth = 2 := rfl
  exact ⟨rfl, inner, by rw [walk_eq_preorder]; rfl, address, path, leads, count.trans deep⟩

end SfcLint
