/-
# Where the nodes of a template stand

Elements, comments and the bindings of elements stand in the source where their positions say. The
position of an interpolation is counted in what its run shows, from the place where the run starts,
so it is the place of its braces exactly when as much is written before them as is shown.
-/

import SfcLint.Proofs.Component.Attributes
import SfcLint.Proofs.Component.Tree
import SfcLint.Proofs.Markup.Run

namespace SfcLint

open Markup (Between Hides OpensBehind Piece ReadFrom Showing Step TokenContent braces
  hides_maskInterpolations maskInterpolations nodesOfRun shownAs step? step?_fits unmasked writtenAs)

/-- At the position of the source stands the given text. -/
def StandsAt (source : Text) (position : Position) (sign : Text) : Prop :=
  ∃ n : Nat, source.positionAt (n : Int) = position ∧ sign <+: source.drop n

/-- At the position of a binding stands its name, up to signs that are masked. -/
def Binding.InPlace (source : Text) (binding : Binding) : Prop :=
  ∃ name, name ≠ [] ∧ unmasked name = unmasked binding.rawName ∧
    StandsAt source binding.position name

/-- What is known of a node of a template: elements and comments stand on their sign, bindings on
their name, and interpolations are counted in what their run shows. -/
def Node.Placed (source : Text) : Node → Prop
  | .element _ bindings _ position =>
      StandsAt source position ['<'] ∧ ∀ binding ∈ bindings, binding.InPlace source
  | .comment _ position => StandsAt source position ['<']
  | .interpolation content position =>
      ∃ start pieces front, ReadFrom source content position start pieces front
  | _ => True

theorem placed_root (source : Text) (children : List Node) :
    (Node.root children).Placed source := trivial

variable {source : Text}

/-! ## Tags and comments -/

theorem standsAt_sign {n : Nat} (starts : ((maskInterpolations source).drop n).head? = some '<') :
    StandsAt source ((maskInterpolations source).positionAt (n : Int)) ['<'] := by
  have hides := hides_maskInterpolations source
  refine ⟨n, (hides.positionAt_eq n).symm, ?_⟩
  have sign := (hides.drop n).head_eq starts
  rcases split : source.drop n with _ | ⟨c, rest⟩
  · simp [split] at sign
  · rw [split, List.head?_cons] at sign
    obtain rfl := Option.some.inj sign
    exact ⟨rest, rfl⟩

theorem binding_inPlace {n : Nat} {binding : Binding} (named : binding.rawName ≠ [])
    (place : binding.position = (maskInterpolations source).positionAt (n : Int))
    (stands : binding.rawName <+: (maskInterpolations source).drop n) :
    binding.InPlace source := by
  have hides := hides_maskInterpolations source
  have part := (hides.drop n).take binding.rawName.length
  rw [← List.prefix_iff_eq_take.mp stands] at part
  refine ⟨(source.drop n).take binding.rawName.length, ?_, part.unmasked_eq.symm, n, ?_,
    List.take_prefix _ _⟩
  · have length := part.length_eq
    have positive := List.length_pos_iff.mpr named
    rw [← List.length_pos_iff]
    omega
  · rw [place, hides.positionAt_eq]

namespace Assembly

theorem throughout_leaf {P : Node → Prop} {node : Node} (leaf : node.walk = [node])
    (holds : P node) : Throughout P node := by
  intro inner member
  rw [leaf, List.mem_singleton] at member
  rwa [member]

/-- An element that is opened by a tag stands there. -/
theorem throughout_elementOf {n length : Nat} {name raw : Text} {opened : OpenElement}
    (starts : ((maskInterpolations source).drop n).head? = some '<')
    (written : raw = ((maskInterpolations source).drop n).take length)
    (read : elementOf name raw ((maskInterpolations source).positionAt (n : Int)) = .ok opened) :
    opened.Throughout (Node.Placed source) := by
  obtain ⟨position, children, bindings⟩ := elementOf_eq_ok read
  refine ⟨fun _ => ⟨?_, ?_⟩, by simp [children]⟩
  · rw [position]
    exact standsAt_sign starts
  · intro binding member
    obtain ⟨m, within, place, named, stands⟩ := bindings binding member
    have shorter : m < length := by
      rw [written, List.length_take] at within
      omega
    have taken : raw.take m = ((maskInterpolations source).drop n).take m := by
      rw [written, List.take_take, Nat.min_eq_left (Nat.le_of_lt shorter)]
    refine binding_inPlace named (n := n + m) ?_ ?_
    · rw [place, taken, Text.positionAt_add]
    · rw [written, List.drop_take, List.drop_drop] at stands
      exact stands.trans (List.take_prefix _ _)

/-! ## Runs -/

/-- The waiting run is the text before the place that the tokenizer has come to. -/
def Waits (t : Text) (n : Nat) (element : Option Text) (position : Position)
    (stretches : List Text) : Prop :=
  ∃ start pieces, Markup.Run t start pieces n element ∧ position = t.positionAt (start : Int) ∧
    shownAs pieces = stretches.reverse.flatten

theorem placed_of_mem_nodesOfRun {n : Nat} {element : Option Text} {position : Position}
    {stretches : List Text} {nodes : List Node}
    (waits : Waits (maskInterpolations source) n element position stretches)
    (read : nodesOfRun position (unmasked stretches.reverse.flatten) = .ok nodes) {node : Node}
    (member : node ∈ nodes) : Throughout (Node.Placed source) node := by
  obtain ⟨start, pieces, run, place, shows⟩ := waits
  rw [← shows] at read
  obtain ⟨earlier, segment, later, split, kind⟩ := Markup.exists_of_mem_nodesFrom read member
  rcases kind with ⟨t, -, rfl⟩ | ⟨t, rfl, rfl⟩
  · exact throughout_leaf rfl trivial
  · refine throughout_leaf rfl
      ⟨start, pieces, earlier.flatMap Markup.Segment.source, ⟨n, element, run⟩, ?_, ?_⟩
    · exact ⟨earlier, t, later, split, rfl, rfl⟩
    · rw [place, (hides_maskInterpolations source).positionAt_eq]

/-- What is known of a draft when the tokenizer has come to a place. -/
structure Draft.Placed (source : Text) (n : Nat) (element : Option Text) (draft : Draft) :
    Prop where
  nodes : draft.Throughout (Node.Placed source)
  waits : ∀ position stretches, draft.run = some (position, stretches) →
    Waits (maskInterpolations source) n element position stretches

variable {n : Nat} {element : Option Text} {draft flushed : Draft}

theorem Draft.Placed.flush (placed : draft.Placed source n element)
    (made : draft.flush = .ok flushed) :
    flushed.run = none ∧ flushed.Throughout (Node.Placed source) := by
  obtain ⟨empty, nodes, rfl, origin⟩ := Draft.flush_eq_ok made
  refine ⟨empty, ?_⟩
  have before : ({ draft with run := none } : Draft).Throughout (Node.Placed source) :=
    ⟨placed.nodes.children, placed.nodes.stack⟩
  refine before.appendAll ?_
  rcases origin with ⟨-, rfl⟩ | ⟨position, stretches, waits, read⟩
  · simp
  · intro node member
    exact placed_of_mem_nodesOfRun (placed.waits _ _ waits) read member

theorem Draft.placed_of_run_eq_none (empty : draft.run = none)
    (nodes : draft.Throughout (Node.Placed source)) : draft.Placed source n element :=
  ⟨nodes, by simp [empty]⟩

/-! ## One step -/

/-- What is known of a state when the tokenizer has come to a place. -/
structure State.Placed (source : Text) (n : Nat) (element : Option Text) (state : State) :
    Prop where
  draft : ∀ draft, state.region = .template draft → draft.Placed source n element
  markup : ∀ markup, state.markup = some markup → Throughout (Node.Placed source) markup.root

variable {state after : State}

theorem State.Placed.ofOutside (placed : state.Placed source n element) {m : Nat}
    {next : Option Text} (same : after.markup = state.markup)
    (outside : ∀ draft, after.region ≠ .template draft) : after.Placed source m next :=
  ⟨fun draft inside => absurd inside (outside draft), by rw [same]; exact placed.markup⟩

/-- A state whose draft has no text waiting does not depend on the place. -/
theorem State.placed_template (placed : state.Placed source n element) {m : Nat}
    {next : Option Text} (empty : draft.run = none)
    (nodes : draft.Throughout (Node.Placed source)) :
    State.Placed source m next { state with region := .template draft } := by
  refine ⟨?_, placed.markup⟩
  rintro _ ⟨⟩
  exact Draft.placed_of_run_eq_none empty nodes

theorem openBlock_placed {token : Markup.Token} {name raw : Text}
    {attributes : List Markup.Attribute} (placed : state.Placed source n element) {m : Nat}
    {next : Option Text} (made : openBlock state token name attributes raw = .ok after) :
    after.Placed source m next := by
  rw [openBlock] at made
  split at made
  · split at made
    · contradiction
    · obtain rfl := Except.ok.inj made
      exact State.placed_template placed rfl ⟨by simp, by simp⟩
  · have other {opened : State} (same : opened.markup = state.markup)
        (region : opened.region = .other name 0 ⟨token.offset + raw.length, token.position⟩
          attributes) : opened.Placed source m next :=
      placed.ofOutside same (by simp [region])
    dsimp only at made
    split at made
    · split at made
      · split at made
        · contradiction
        · obtain rfl := Except.ok.inj made
          exact other rfl rfl
      · split at made
        · contradiction
        · obtain rfl := Except.ok.inj made
          exact other rfl rfl
    · obtain rfl := Except.ok.inj made
      exact other rfl rfl

theorem closeInTemplate_placed {token : Markup.Token} {name : Text}
    (placed : state.Placed source n element) (inside : draft.Placed source n element) {m : Nat}
    {next : Option Text} (made : closeInTemplate source state draft token name = .ok after) :
    after.Placed source m next := by
  rw [closeInTemplate, Except.bind_eq_ok_iff] at made
  obtain ⟨flushed, flush, made⟩ := made
  obtain ⟨empty, nodes⟩ := inside.flush flush
  split at made
  next =>
    split at made
    · obtain rfl := Except.pure_eq_ok_iff.mp made
      refine ⟨by simp, ?_⟩
      rintro _ ⟨⟩
      exact nodes.root (placed_root source)
    · split at made
      · obtain rfl := Except.pure_eq_ok_iff.mp made
        exact State.placed_template placed empty nodes
      · contradiction
  next top below split =>
    split at made
    · obtain rfl := Except.pure_eq_ok_iff.mp made
      exact State.placed_template placed (by simp [empty]) (nodes.pop split)
    · split at made
      · obtain rfl := Except.pure_eq_ok_iff.mp made
        exact State.placed_template placed empty nodes
      · split at made
        · contradiction
        · contradiction

/-- The waiting run goes on with a stretch of text. -/
theorem Draft.Placed.addText {length : Nat} {next : Option Text} {pieces : List Piece}
    (placed : draft.Placed source n element)
    (nonempty : (maskInterpolations source).drop n ≠ [])
    (found : step? element ((maskInterpolations source).drop n) =
      .ok (some ⟨some (.text (shownAs pieces)), length, next⟩))
    (shows : Showing (((maskInterpolations source).drop n).take length) pieces)
    (between : Between (maskInterpolations source) n element) :
    (draft.addText ((maskInterpolations source).positionAt (n : Int)) (shownAs pieces)).Placed
      source (n + length) next := by
  rw [Draft.addText]
  split
  next =>
    refine ⟨⟨placed.nodes.children, placed.nodes.stack⟩, ?_⟩
    rintro _ _ ⟨⟩
    exact ⟨n, _, (Markup.Run.nil between).text nonempty found shows, rfl, by simp⟩
  next start stretches waiting =>
    refine ⟨⟨placed.nodes.children, placed.nodes.stack⟩, ?_⟩
    rintro _ _ ⟨⟩
    obtain ⟨first, before, run, place, earlier⟩ := placed.waits _ _ waiting
    refine ⟨first, _, run.text nonempty found shows, place, ?_⟩
    simp [earlier]

theorem inTemplate_placed {length : Nat} {next : Option Text} {content : TokenContent}
    (placed : state.Placed source n element) (inside : draft.Placed source n element)
    (nonempty : (maskInterpolations source).drop n ≠ [])
    (found : step? element ((maskInterpolations source).drop n) =
      .ok (some ⟨some content, length, next⟩))
    (between : Between (maskInterpolations source) n element)
    (made : inTemplate source state draft
      ⟨n, (maskInterpolations source).positionAt (n : Int), content⟩ = .ok after) :
    after.Placed source (n + length) next := by
  have fits := (step?_fits nonempty found).content content rfl
  -- Whatever opens or closes something settles the text before it first.
  cases content with
  | startTag name attributes raw =>
    obtain ⟨starts, written⟩ := fits
    simp only [inTemplate, Except.bind_eq_ok_iff] at made
    obtain ⟨flushed, flush, opened, read, made⟩ := made
    obtain ⟨empty, nodes⟩ := inside.flush flush
    have whole := throughout_elementOf starts written read
    obtain rfl := Except.pure_eq_ok_iff.mp made
    split
    · exact State.placed_template placed (by simp [empty]) (nodes.append whole.close)
    · exact State.placed_template placed empty (nodes.push whole)
  | selfClosing name raw =>
    obtain ⟨starts, written⟩ := fits
    simp only [inTemplate, Except.bind_eq_ok_iff] at made
    obtain ⟨flushed, flush, opened, read, made⟩ := made
    obtain ⟨empty, nodes⟩ := inside.flush flush
    have whole := throughout_elementOf starts written read
    obtain rfl := Except.pure_eq_ok_iff.mp made
    exact State.placed_template placed (by simp [empty]) (nodes.append whole.close)
  | endTag name => exact closeInTemplate_placed placed inside made
  | text shown =>
    obtain ⟨pieces, shows, rfl⟩ := fits
    obtain rfl := Except.ok.inj made
    refine ⟨?_, placed.markup⟩
    rintro _ ⟨⟩
    exact inside.addText nonempty found shows between
  | comment t =>
    simp only [inTemplate, Except.bind_eq_ok_iff] at made
    obtain ⟨flushed, flush, made⟩ := made
    obtain ⟨empty, nodes⟩ := inside.flush flush
    obtain rfl := Except.pure_eq_ok_iff.mp made
    exact State.placed_template placed (by simp [empty])
      (nodes.append (throughout_leaf rfl (standsAt_sign fits)))

theorem step_placed {length : Nat} {next : Option Text} {content : TokenContent}
    (placed : state.Placed source n element)
    (nonempty : (maskInterpolations source).drop n ≠ [])
    (found : step? element ((maskInterpolations source).drop n) =
      .ok (some ⟨some content, length, next⟩))
    (between : Between (maskInterpolations source) n element)
    (made : Assembly.step source state
      ⟨n, (maskInterpolations source).positionAt (n : Int), content⟩ = .ok after) :
    after.Placed source (n + length) next := by
  -- Only inside a template are there nodes, and every other token leaves or enters it without any.
  rw [Assembly.step.eq_def] at made
  split at made
  next => exact openBlock_placed placed made
  next outside _ =>
    obtain rfl := Except.ok.inj made
    exact placed.ofOutside rfl (by simp [outside])
  next draft inside =>
    exact inTemplate_placed placed (placed.draft _ inside) nonempty found between made
  next other _ =>
    split at made
    · obtain rfl := Except.ok.inj made
      exact placed.ofOutside rfl (by simp)
    · obtain rfl := Except.ok.inj made
      exact placed.ofOutside rfl (by simp [other])
  next other _ =>
    split at made
    · split at made
      · obtain rfl := Except.ok.inj made
        exact placed.ofOutside rfl (by simp)
      · obtain rfl := Except.ok.inj made
        refine placed.ofOutside ?_ ?_
        · rw [closeOther]
          split <;> rfl
        · rw [closeOther]
          split <;> simp
    · obtain rfl := Except.ok.inj made
      exact placed.ofOutside rfl (by simp [other])
  next other _ _ =>
    obtain rfl := Except.ok.inj made
    exact placed.ofOutside rfl (by simp [other])

/-! ## The whole reading -/

/-- Whatever is reached, its nodes are placed and its run waits where it is written. -/
theorem Reached.placed (reached : Reached source (maskInterpolations source) n element state) :
    state.Placed source n element := by
  induction reached with
  | start => exact ⟨by simp [State.initial], by simp [State.initial]⟩
  | pass before nonempty found ih =>
    refine ⟨?_, ih.markup⟩
    intro draft inside
    have placed := ih.draft draft inside
    refine ⟨placed.nodes, ?_⟩
    intro position stretches waiting
    obtain ⟨start, pieces, run, place, shows⟩ := placed.waits _ _ waiting
    exact ⟨start, _, run.pass nonempty found, place, by simpa using shows⟩
  | token before nonempty found made ih =>
    exact step_placed ih nonempty found before.between made

end Assembly

/-! ## Interpolations -/

/-- The braces that open an interpolation are written where its run says, and the position is theirs
exactly when as much is written before them as is shown. -/
theorem braces_of_readFrom {content : Text} {position : Position} {start : Nat}
    {pieces before : List Piece} {front : Text} (read : ReadFrom source content position start pieces front)
    (opens : OpensBehind pieces front before) :
    braces <+: source.drop (start + (writtenAs before).length) ∧
      (source.positionAt ((start + (writtenAs before).length : Nat) : Int) = position ↔
        (writtenAs before).SameExtent front) := by
  have hides := hides_maskInterpolations source
  obtain ⟨n, element, run⟩ := read.run
  obtain ⟨-, after, rfl⟩ := opens
  have written := run.drop_written
  refine ⟨?_, ?_⟩
  · refine (hides.drop _).starts_of_starts (by decide) ?_
    rw [written]
    exact ⟨writtenAs after ++ _, rfl⟩
  · rw [← hides.positionAt_eq, run.positionAt_written, hides.positionAt_eq, read.position]
    exact Position.after_eq_after_iff _

/-- The position of an interpolation is the place of the braces that open it. -/
def LandsOnBraces (source content : Text) (position : Position) : Prop :=
  ∃ start pieces front before, ReadFrom source content position start pieces front ∧
    OpensBehind pieces front before ∧
      braces <+: source.drop (start + (writtenAs before).length) ∧
        source.positionAt ((start + (writtenAs before).length : Nat) : Int) = position

/-- The braces that open an interpolation are written as such, and what its run has written before
them has the extent of what it shows there. -/
def WrittenAsShown (source content : Text) (position : Position) : Prop :=
  ∃ start pieces front before, ReadFrom source content position start pieces front ∧
    OpensBehind pieces front before ∧ (writtenAs before).SameExtent front

theorem landsOnBraces_iff {content : Text} {position : Position} :
    LandsOnBraces source content position ↔ WrittenAsShown source content position := by
  constructor
  · rintro ⟨start, pieces, front, before, read, opens, -, place⟩
    exact ⟨start, pieces, front, before, read, opens, (braces_of_readFrom read opens).2.mp place⟩
  · rintro ⟨start, pieces, front, before, read, opens, same⟩
    obtain ⟨stands, place⟩ := braces_of_readFrom read opens
    exact ⟨start, pieces, front, before, read, opens, stands, place.mpr same⟩

/-- The position of a node leads to what the node stands for: the sign of an element or a comment,
the names of bindings, the braces of an interpolation. -/
def Node.Lands (source : Text) : Node → Prop
  | .interpolation content position => LandsOnBraces source content position
  | node => node.Placed source

/-- What is read at the end of a file is placed. -/
theorem placed_of_finish {n : Nat} {element : Option Text} {state : Assembly.State}
    {component : Component} {root : Node}
    (reached : Assembly.Reached source (maskInterpolations source) n element state)
    (finished : Assembly.finish state = .ok component) (has : component.template? = some root) :
    ∀ node ∈ root.walk, node.Placed source := by
  have same : component.markup = state.markup := by
    rw [Assembly.finish] at finished
    split at finished
    next draft _ =>
      rw [Except.bind_eq_ok_iff] at finished
      obtain ⟨flushed, -, finished⟩ := finished
      split at finished <;> contradiction
    · split at finished
      · contradiction
      · rw [← Except.ok.inj finished]
    · rw [← Except.ok.inj finished]
  rw [Component.template?, same, Option.map_eq_some_iff] at has
  obtain ⟨markup, read, rfl⟩ := has
  exact reached.placed.markup markup read

/-- **Where the nodes of a template stand.** Elements and comments stand on their sign and bindings on
their name. An interpolation is counted in what its run shows, and its position leads to the braces
that open it exactly when as much is written before them as is shown; so all nodes stand where
their positions say exactly when this holds of all interpolations. -/
theorem template_places {component : Component} {root : Node}
    (accepted : Component.ofSource source = .ok component)
    (has : component.template? = some root) :
    (∀ node ∈ root.walk, node.Placed source) ∧
      (∀ content position start pieces front before,
        ReadFrom source content position start pieces front → OpensBehind pieces front before →
          braces <+: source.drop (start + (writtenAs before).length) ∧
            (source.positionAt ((start + (writtenAs before).length : Nat) : Int) = position ↔
              (writtenAs before).SameExtent front)) ∧
        ((∀ node ∈ root.walk, node.Lands source) ↔
          ∀ content position, .interpolation content position ∈ root.walk →
            WrittenAsShown source content position) := by
  obtain ⟨n, element, state, reached, finished⟩ := Component.exists_reached_of_ofSource accepted
  have placed := placed_of_finish reached finished has
  refine ⟨placed, fun _ _ _ _ _ _ => braces_of_readFrom, ?_⟩
  constructor
  · intro lands content position member
    exact landsOnBraces_iff.mp (lands _ member)
  · intro faithful node member
    cases node with
    | interpolation content position =>
      exact landsOnBraces_iff.mpr (faithful content position member)
    | root _ | element _ _ _ _ | text _ _ | comment _ _ => exact placed _ member

/-- The content and the position of an interpolation. -/
def Node.interpolation? : Node → Option (Text × Position)
  | .interpolation content position => some (content, position)
  | _ => none

theorem Node.interpolation?_eq_some {node : Node} {content : Text} {position : Position}
    (found : node.interpolation? = some (content, position)) :
    node = .interpolation content position := by
  cases node <;> simp_all [interpolation?]

/-- A paragraph with a binding and an interpolation. -/
def boundParagraph : Text := "<template><p :a=\"b\">text \x7b\x7b x \x7d\x7d</p></template>"

/-- The nodes of a paragraph stand where their positions say. -/
theorem template_places_paragraph :
    ∃ component root, Component.ofSource boundParagraph = .ok component ∧
      component.template? = some root ∧
        root.walk.map Node.position = [⟨1, 1⟩, ⟨1, 11⟩, ⟨1, 21⟩, ⟨1, 26⟩] ∧
          ∀ node ∈ root.walk, node.Placed boundParagraph := by
  have read : ((Component.ofSource boundParagraph).toOption.bind Component.template?).map
      (fun root => root.walk.map Node.position) =
        some [⟨1, 1⟩, ⟨1, 11⟩, ⟨1, 21⟩, ⟨1, 26⟩] := by decide +kernel
  rw [Option.map_eq_some_iff] at read
  obtain ⟨root, has, positions⟩ := read
  rw [Option.bind_eq_some_iff] at has
  obtain ⟨component, accepted, has⟩ := has
  rw [Except.toOption_eq_some_iff] at accepted
  exact ⟨component, root, accepted, has, positions, (template_places accepted has).1⟩

/-- A line break that is written by its number, before an interpolation. -/
def numberedBreak : Text := "<template><p>&#10;\x7b\x7b x \x7d\x7d</p></template>"

/-- Behind a line break that is written by its number, an interpolation has a position that is
nowhere in the file. -/
theorem interpolation_outside_file :
    ∃ component root content position, Component.ofSource numberedBreak = .ok component ∧
      component.template? = some root ∧ .interpolation content position ∈ root.walk ∧
        ∀ n : Nat, numberedBreak.positionAt (n : Int) ≠ position := by
  have read : ((Component.ofSource numberedBreak).toOption.bind Component.template?).map
      (fun root => root.walk.filterMap Node.interpolation?) =
        some [(['x'], ⟨2, 1⟩)] := by decide +kernel
  rw [Option.map_eq_some_iff] at read
  obtain ⟨root, has, interpolations⟩ := read
  rw [Option.bind_eq_some_iff] at has
  obtain ⟨component, accepted, has⟩ := has
  rw [Except.toOption_eq_some_iff] at accepted
  have member : (['x'], ⟨2, 1⟩) ∈ root.walk.filterMap Node.interpolation? := by
    rw [interpolations]
    exact List.mem_singleton_self _
  rw [List.mem_filterMap] at member
  obtain ⟨node, inWalk, found⟩ := member
  rw [Node.interpolation?_eq_some found] at inWalk
  refine ⟨component, root, _, _, accepted, has, inWalk, ?_⟩
  intro n same
  have oneLine : '\n' ∉ numberedBreak := by decide +kernel
  have noBreak : '\n' ∉ numberedBreak.take n := mt List.mem_of_mem_take oneLine
  have line := Position.after_line Position.start (numberedBreak.take n)
  rw [← Text.positionAt_natCast, same, Text.lineCount, List.count_eq_zero_of_not_mem noBreak] at line
  simp [Position.start] at line

end SfcLint
