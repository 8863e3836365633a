/-
# Reading back what is printed

The tokens of a printed template are its start tags, its end tags, and one run of text for each
stretch of neighbouring texts and interpolations. A run waits until the next tag, so while trees are
read the latest texts and interpolations are pending. With them settled, reading trees adds their
nodes to the innermost open place, by induction on the trees: an element is opened, its children
are added to it, and its end tag adds the element itself. So a printed template is read as its tree.
-/

import SfcLint.Proofs.Component.Reached
import SfcLint.Proofs.Component.Tree
import SfcLint.Proofs.Printing.Element

namespace SfcLint.Printing

open Markup Assembly SfcLint.Printing.Tree
open Assembly (State)

variable {source rest name : Text} {attributes : List Assignment} {trees pending : List Tree}
  {state : State} {draft flushed : Draft} {n : Nat} {position : Position}

/-! ## Trees one after the other -/

namespace Tree

theorem printAll_append (front back : List Tree) :
    printAll (front ++ back) = printAll front ++ printAll back := by
  induction front with
  | nil => rfl
  | cons tree front ih => rw [List.cons_append, printAll, ih, printAll, List.append_assoc]

theorem maskedPrintAll_append (front back : List Tree) :
    maskedPrintAll (front ++ back) = maskedPrintAll front ++ maskedPrintAll back := by
  induction front with
  | nil => rfl
  | cons tree front ih =>
    rw [List.cons_append, maskedPrintAll, ih, maskedPrintAll, List.append_assoc]

theorem nodesAt_append (position : Position) (front back : List Tree) :
    nodesAt position (front ++ back) =
      nodesAt position front ++ nodesAt (position.after (printAll front)) back := by
  induction front generalizing position with
  | nil => rfl
  | cons tree front ih =>
    rw [List.cons_append, nodesAt, ih, nodesAt, printAll, Position.after_append, List.cons_append]

theorem AllPrintable.of_append (printable : AllPrintable (pending ++ trees)) :
    AllPrintable pending ∧ AllPrintable trees := by
  induction pending with
  | nil => exact ⟨trivial, printable⟩
  | cons tree pending ih =>
    rw [List.cons_append, AllPrintable] at printable
    obtain ⟨front, back⟩ := ih printable.2.2
    refine ⟨⟨printable.1, fun text => ?_, front⟩, back⟩
    have apart := printable.2.1 text
    cases pending with
    | nil => rfl
    | cons next pending => exact apart

/-- Masking moves nothing. -/
theorem after_maskedPrintAll (printable : AllPrintable trees) (position : Position) :
    position.after (maskedPrintAll trees) = position.after (printAll trees) :=
  (hides_printAll printable).after_eq position

/-- The first text shows no tag and no reference, and the second one has no masks. -/
structure Quiet (shown printed : Text) : Prop where
  sign : '<' ∉ shown
  reference : '&' ∉ shown
  mask : mask ∉ printed

theorem Quiet.append {shown printed shown' printed' : Text} (front : Quiet shown printed)
    (back : Quiet shown' printed') : Quiet (shown ++ shown') (printed ++ printed') :=
  ⟨List.not_mem_append front.sign back.sign, List.not_mem_append front.reference back.reference,
    List.not_mem_append front.mask back.mask⟩

/-- A text or an interpolation shows something, but no tag. -/
theorem quiet_print {tree : Tree} (leaf : tree.isElement = false) (printable : tree.Printable) :
    Quiet tree.maskedPrint tree.print ∧ tree.maskedPrint ≠ [] := by
  cases tree with
  | element name attributes children => contradiction
  | text content =>
    have proper : TextContent content := printable
    refine ⟨⟨proper.sign, proper.reference, proper.mask⟩, ?_⟩
    rintro none
    have visible := proper.visible
    rw [show content = [] from none] at visible
    contradiction
  | interpolation content =>
    have proper : Expression content := printable
    have reference : '&' ∉ masked content := by
      rw [masked, List.mem_map]
      rintro ⟨c, member, same⟩
      split at same
      · exact absurd same (by decide)
      · exact proper.reference (same ▸ member)
    refine ⟨⟨?_, ?_, ?_⟩, by simp [maskedPrint, braces]⟩
    · simp [maskedPrint, braces, spaced, closingBraces, not_mem_masked content]
    · simp [maskedPrint, braces, spaced, closingBraces, reference]
    · have outside : mask ∉ ['\x7b', '\x7d', ' '] := by decide
      simp only [List.mem_cons, not_or] at outside
      simp [print, braces, spaced, closingBraces, proper.mask, outside]

theorem quiet_printAll (leaves : ∀ tree ∈ trees, tree.isElement = false)
    (printable : AllPrintable trees) : Quiet (maskedPrintAll trees) (printAll trees) := by
  induction trees with
  | nil => exact ⟨List.not_mem_nil, List.not_mem_nil, List.not_mem_nil⟩
  | cons tree trees ih =>
    rw [List.forall_mem_cons] at leaves
    rw [AllPrintable] at printable
    exact (quiet_print leaves.1 printable.1).1.append (ih leaves.2 printable.2.2)

/-- The mask of a run is undone when its nodes are made. -/
theorem unmasked_maskedPrintAll (leaves : ∀ tree ∈ trees, tree.isElement = false)
    (printable : AllPrintable trees) : unmasked (maskedPrintAll trees) = printAll trees := by
  rw [(hides_printAll printable).unmasked_eq,
    unmasked_of_not_mem (quiet_printAll leaves printable).mask]

end Tree

/-! ## One token -/

theorem tokensFrom_append (n : Nat) (position : Position) {front back : Text}
    {content : TokenContent} (some : front ≠ [])
    (found : step? none (front ++ back) =
      .ok (Option.some ⟨Option.some content, front.length, none⟩)) :
    tokensFrom 0 none n position (front ++ back) =
      .ok ⟨n, position, content⟩ ::
        tokensFrom 0 none (n + front.length) (position.after front) back := by
  obtain ⟨c, front, rfl⟩ := List.exists_cons_of_ne_nil some
  rw [List.cons_append] at found ⊢
  rw [tokensFrom, found]
  simp only [Option.map_some, Option.toList_some, List.singleton_append, List.length_cons,
    Nat.add_sub_cancel]
  rw [tokensFrom_eq, List.take_left, List.drop_left, Position.after_cons, Nat.add_assoc,
    Nat.add_comm 1]

theorem run_of_step {token : Token} {after : State} (stepped : step source state token = .ok after)
    (later : List (Except TokenFailure Token)) :
    run source state (.ok token :: later) = run source after later := by
  rw [run, stepped]
  rfl

/-- The reading of a source inside a template, from a place of the text on. -/
def readOn (source : Text) (state : State) (draft : Draft) (n : Nat) (position : Position)
    (t : Text) : Except ParseError State :=
  run source { state with region := .template draft } (tokensFrom 0 none n position t)

/-! ## New nodes -/

/-- New nodes are the latest children of the innermost open element. -/
theorem foldl_append_push (nodes : List Node) (draft : Draft) (top : OpenElement) :
    nodes.foldl Draft.append { draft with stack := top :: draft.stack } =
      { draft with
        stack := { top with children := nodes.reverse ++ top.children } :: draft.stack } := by
  induction nodes generalizing top with
  | nil => rfl
  | cons node nodes ih =>
    rw [List.foldl_cons, Draft.append]
    dsimp only
    rw [ih]
    simp

/-- Outside all elements new nodes are the latest children of the root. -/
theorem foldl_append_root (nodes : List Node) (outermost : draft.stack = []) :
    nodes.foldl Draft.append draft =
      { draft with children := nodes.reverse ++ draft.children } := by
  induction nodes generalizing draft with
  | nil => rfl
  | cons node nodes ih =>
    have added : draft.append node = { draft with children := node :: draft.children } := by
      rw [Draft.append, outermost]
    rw [List.foldl_cons, added]
    refine (@ih { draft with children := node :: draft.children } outermost).trans ?_
    simp

/-! ## Tags and runs -/

section Reading

variable (source : Text) (state : State) (n : Nat) (position : Position)

/-- A start tag opens its element after the run that waits. -/
theorem readOn_startTag (proper : ElementName name)
    (printable : ∀ pair ∈ attributes, pair.Printable) (settled : draft.flush = .ok flushed)
    (rest : Text) :
    readOn source state draft n position (startTag name attributes ++ rest) =
      readOn source state
        { flushed with
          stack := ⟨name, bindingsAt (position.after ('<' :: name)) attributes, position, []⟩ ::
            flushed.stack }
        (n + (startTag name attributes).length) (position.after (startTag name attributes))
        rest := by
  rw [readOn, tokensFrom_append _ _ (by simp [startTag]) (step?_startTag proper printable rest)]
  refine run_of_step ?_ _
  simp only [step, inTemplate, settled, elementOf_startTag proper printable, bind, Except.bind]
  rw [if_neg (by rw [proper.content]; decide)]
  rfl

/-- An end tag closes the innermost element after the run that waits. -/
theorem readOn_endTag (proper : ElementName name) {top : OpenElement} {below : List OpenElement}
    (settled : draft.flush = .ok flushed) (innermost : flushed.stack = top :: below)
    (named : top.tag = name) (rest : Text) :
    readOn source state draft n position (endTag name ++ rest) =
      readOn source state (({ flushed with stack := below } : Draft).append top.close)
        (n + (endTag name).length) (position.after (endTag name)) rest := by
  rw [readOn, tokensFrom_append _ _ (by simp [endTag]) (step?_endTag proper rest)]
  refine run_of_step ?_ _
  simp only [step, inTemplate, closeInTemplate, settled, innermost, named, lower_name proper, bind,
    Except.bind, if_true]
  rfl

/-- The texts and interpolations that are pending are one run. -/
theorem exists_readOn_pending (leaves : ∀ tree ∈ pending, tree.isElement = false)
    (printable : AllPrintable pending) (none : draft.run = .none) (rest : Text) :
    ∃ waiting : Draft,
      readOn source state draft n position (maskedPrintAll pending ++ '<' :: rest) =
          readOn source state waiting (n + (printAll pending).length)
            (position.after (printAll pending)) ('<' :: rest) ∧
        waiting.flush = .ok ((nodesAt position pending).foldl Draft.append draft) := by
  cases pending with
  | nil => exact ⟨draft, rfl, by rw [Draft.flush, none]; rfl⟩
  | cons tree trees =>
    have quiet := quiet_printAll leaves printable
    have length := (hides_printAll printable).length_eq
    have place := after_maskedPrintAll printable position
    have unmasks := unmasked_maskedPrintAll leaves printable
    have nodes := nodesOfRun_printAll leaves printable position
    have some : maskedPrintAll (tree :: trees) ≠ [] := by
      rw [AllPrintable] at printable
      rw [maskedPrintAll]
      exact List.append_ne_nil_of_left_ne_nil
        (quiet_print (leaves tree List.mem_cons_self) printable.1).2 _
    refine ⟨draft.addText position (maskedPrintAll (tree :: trees)), ?_, ?_⟩
    · rw [readOn, tokensFrom_append _ _ some (step?_text some quiet.sign quiet.reference rest), length,
        place]
      exact run_of_step rfl _
    · rw [Draft.flush, Draft.addText, none]
      simp only [List.reverse_cons, List.reverse_nil, List.nil_append, List.flatten_cons,
        List.flatten_nil, List.append_nil, unmasks, nodes]
      rw [← none]

/-- An element is opened, its children are added to it, and then it is closed. -/
theorem readOn_element {children : List Tree} (proper : ElementName name)
    (printable : ∀ pair ∈ attributes, pair.Printable) (settled : draft.flush = .ok flushed)
    (idle : flushed.run = none)
    (inner : ∀ (draft : Draft) (n : Nat) (position : Position) (rest : Text), draft.run = none →
      ∃ waiting : Draft,
        readOn source state draft n position (maskedPrintAll children ++ '<' :: rest) =
            readOn source state waiting (n + (printAll children).length)
              (position.after (printAll children)) ('<' :: rest) ∧
          waiting.flush = .ok ((nodesAt position children).foldl Draft.append draft))
    (rest : Text) :
    readOn source state draft n position
        ((Tree.element name attributes children).maskedPrint ++ rest) =
      readOn source state
        (flushed.append (nodeAt position (.element name attributes children)))
        (n + (Tree.element name attributes children).print.length)
        (position.after (Tree.element name attributes children).print) rest := by
  have first := readOn_startTag source state n position proper printable settled
    (maskedPrintAll children ++ (endTag name ++ rest))
  obtain ⟨waiting, middle, filled⟩ := inner
    { flushed with
      stack := ⟨name, bindingsAt (position.after ('<' :: name)) attributes, position, []⟩ ::
        flushed.stack }
    (n + (startTag name attributes).length) (position.after (startTag name attributes))
    ('/' :: (name ++ ['>']) ++ rest) idle
  rw [foldl_append_push] at filled
  have last := readOn_endTag source state
    (n + (startTag name attributes).length + (printAll children).length)
    ((position.after (startTag name attributes)).after (printAll children)) proper filled rfl rfl rest
  have written : (Tree.element name attributes children).maskedPrint ++ rest =
      startTag name attributes ++ (maskedPrintAll children ++ (endTag name ++ rest)) := by
    rw [maskedPrint, List.append_assoc, List.append_assoc]
  rw [written, first]
  refine (middle.trans last).trans ?_
  rw [print, OpenElement.close, List.append_nil, List.reverse_reverse, nodeAt]
  simp only [List.length_append, Position.after_append, Nat.add_assoc]

end Reading

/-! ## Trees -/

/-- Reading trees behind those that are pending adds the nodes of all of them. -/
theorem exists_readOn_printAll (source : Text) (state : State) (trees pending : List Tree)
    (draft : Draft) (n : Nat) (position : Position) (rest : Text)
    (leaves : ∀ tree ∈ pending, tree.isElement = false)
    (printable : AllPrintable (pending ++ trees)) (idle : draft.run = none) :
    ∃ waiting : Draft,
      readOn source state draft n position (maskedPrintAll (pending ++ trees) ++ '<' :: rest) =
          readOn source state waiting (n + (printAll (pending ++ trees)).length)
            (position.after (printAll (pending ++ trees))) ('<' :: rest) ∧
        waiting.flush =
          .ok ((nodesAt position (pending ++ trees)).foldl Draft.append draft) := by
  match trees with
  | [] =>
    rw [List.append_nil] at printable ⊢
    exact exists_readOn_pending source state n position leaves printable idle rest
  -- Text and interpolations join what waits, and are read only when a tag comes.
  | .text content :: trees =>
    have whole := exists_readOn_printAll source state trees (pending ++ [.text content]) draft n
      position rest (List.forall_mem_append.mpr ⟨leaves, by simp [isElement]⟩)
      (by simpa using printable) idle
    simpa using whole
  | .interpolation content :: trees =>
    have whole := exists_readOn_printAll source state trees (pending ++ [.interpolation content])
      draft n position rest (List.forall_mem_append.mpr ⟨leaves, by simp [isElement]⟩)
      (by simpa using printable) idle
    simpa using whole
  | .element name attributes children :: trees =>
    obtain ⟨front, back⟩ := AllPrintable.of_append printable
    rw [AllPrintable, Printable] at back
    obtain ⟨⟨proper, pairs, below⟩, -, behind⟩ := back
    have inner (draft : Draft) (n : Nat) (position : Position) (rest : Text)
        (idle : draft.run = none) :=
      exists_readOn_printAll source state children [] draft n position rest (by simp) below idle
    have written : maskedPrintAll (pending ++ .element name attributes children :: trees) ++
        '<' :: rest =
          maskedPrintAll pending ++ ((Tree.element name attributes children).maskedPrint ++
            (maskedPrintAll trees ++ '<' :: rest)) := by
      rw [maskedPrintAll_append, maskedPrintAll, List.append_assoc, List.append_assoc]
    -- The tag settles what waits, the element is read, and nothing waits for the trees behind it.
    obtain ⟨waiting, run, settled⟩ := exists_readOn_pending source state n position leaves front idle
      (name ++ (printAttributes attributes ++ ['>']) ++ (maskedPrintAll children ++ endTag name) ++
        (maskedPrintAll trees ++ '<' :: rest))
    have settledIdle : ((nodesAt position pending).foldl Draft.append draft).run = none := by
      rw [Draft.appendAll_run, idle]
    have element := readOn_element source state (n + (printAll pending).length)
      (position.after (printAll pending)) proper pairs settled settledIdle inner
      (maskedPrintAll trees ++ '<' :: rest)
    obtain ⟨last, later, ends⟩ := exists_readOn_printAll source state trees []
      (((nodesAt position pending).foldl Draft.append draft).append
        (nodeAt (position.after (printAll pending)) (.element name attributes children)))
      (n + (printAll pending).length + (Tree.element name attributes children).print.length)
      ((position.after (printAll pending)).after (Tree.element name attributes children).print)
      rest (by simp) behind (by rw [Draft.append_run, settledIdle])
    rw [List.nil_append] at later ends
    refine ⟨last, ?_, ?_⟩
    · rw [written]
      refine ((run.trans element).trans later).trans ?_
      rw [printAll_append, printAll]
      simp only [List.length_append, Position.after_append, Nat.add_assoc]
    · rw [ends, nodesAt_append, nodesAt, List.foldl_append, List.foldl_cons]
termination_by sizeOf trees

/-- The name of a template can be the name of an element. -/
theorem elementName_template : ElementName "template" := by decide

theorem maskInterpolations_document (printable : AllPrintable trees) :
    maskInterpolations (document trees) =
      startTag "template" [] ++ (maskedPrintAll trees ++ endTag "template") := by
  have ends : maskInterpolations (endTag "template" ++ []) =
      endTag "template" ++ maskInterpolations [] :=
    maskInterpolations_append (noneStarts_endTag elementName_template [])
  rw [List.append_nil] at ends
  rw [document, maskInterpolations_append (noneStarts_startTag elementName_template (by simp) _),
    maskInterpolations_printAll trees _ printable, ends]
  rfl

/-- Outside all elements the end tag of the template closes it. -/
theorem readOn_templateEnd (source : Text) (state : State) (n : Nat) (position : Position)
    (settled : draft.flush = .ok flushed) (outermost : flushed.stack = []) :
    readOn source state draft n position (endTag "template") =
      .ok { state with
        markup := some ⟨.root flushed.children.reverse, source.slice flushed.site.content n,
          flushed.site.position⟩
        region := .outside } := by
  have row := tokensFrom_append n position (by simp [endTag])
    (step?_endTag elementName_template [])
  rw [List.append_nil] at row
  rw [readOn, row]
  refine (run_of_step ?_ _).trans rfl
  simp only [step, inTemplate, closeInTemplate, settled, outermost, bind, Except.bind]
  rfl

/-- The template of a document of which only the start tag has been read. -/
def emptyDraft : Draft := ⟨⟨(startTag "template" []).length, Position.start⟩, [], [], none⟩

/-- A printed template is read as its tree, with its print as its text. -/
theorem ofSource_document (trees : List Tree) (printable : AllPrintable trees) :
    Component.ofSource (document trees) =
      .ok ⟨some ⟨.root (nodesAt (Position.start.after (startTag "template" [])) trees),
        printAll trees, Position.start⟩, none⟩ := by
  have opened : step (document trees) .initial ⟨0, Position.start,
      .startTag "template" (attributesOf []) (startTag "template" [])⟩ =
        .ok { State.initial with region := .template emptyDraft } := rfl
  obtain ⟨waiting, read, settled⟩ := exists_readOn_printAll (document trees) .initial trees []
    emptyDraft (startTag "template" []).length (Position.start.after (startTag "template" []))
    ('/' :: "template>".toList) (by simp) printable rfl
  rw [foldl_append_root _ rfl, List.nil_append] at settled
  have closed := readOn_templateEnd (document trees) .initial
    ((startTag "template" []).length + (printAll trees).length)
    ((Position.start.after (startTag "template" [])).after (printAll trees)) settled rfl
  have inner : (document trees).slice (startTag "template" []).length
      ((startTag "template" []).length + (printAll trees).length) = printAll trees := by
    rw [document, Text.slice, List.drop_left, Nat.add_sub_cancel_left, List.take_left]
  rw [Component.ofSource, Component.ofTokens, maskInterpolations_document printable, tokens,
    tokensFrom_append _ _ (by simp [startTag]) (step?_startTag elementName_template (by simp) _)]
  change (run (document trees) .initial (_ :: _)).bind finish = _
  rw [run_of_step opened, Nat.zero_add]
  change (readOn (document trees) .initial emptyDraft _ _
    (maskedPrintAll ([] ++ trees) ++ '<' :: ('/' :: "template>".toList))).bind finish = _
  rw [read]
  change (readOn (document trees) .initial waiting _ _ (endTag "template")).bind finish = _
  rw [List.nil_append, closed]
  dsimp only [emptyDraft]
  rw [inner, List.append_nil, List.reverse_reverse]
  rfl

/-- An element with a directive and an attribute, a text, an interpolation that compares, and a slot
with an interpolation that holds a tag. -/
def sample : List Tree :=
  [.element "my-row" [⟨"@click.stop", "go(a > 1)"⟩, ⟨"title", ""⟩]
    [.text "Sum: ", .interpolation "a < b",
      .element "template" [⟨"#cell", "row"⟩] [.interpolation "'<p>' + row"]]]

theorem ofSource_document_sample :
    AllPrintable sample ∧
      document sample =
        ("<template><my-row @click.stop=\"go(a > 1)\" title=\"\">" ++
          "Sum: \x7b\x7b a < b \x7d\x7d<template #cell=\"row\">" ++
          "\x7b\x7b '<p>' + row \x7d\x7d</template></my-row></template>").toList ∧
      (Component.ofSource (document sample)).toOption.bind Component.template? =
        some (.root [.element "my-row"
          [⟨"on", some "click", some "go(a > 1)", false, "@click.stop", ⟨1, 19⟩⟩,
            ⟨"title", none, some "", true, "title", ⟨1, 43⟩⟩]
          [.text "Sum: " ⟨1, 52⟩, .interpolation "a < b" ⟨1, 57⟩,
            .element "template" [⟨"slot", some "cell", some "row", false, "#cell", ⟨1, 78⟩⟩]
              [.interpolation "'<p>' + row" ⟨1, 90⟩] ⟨1, 68⟩] ⟨1, 11⟩]) := by
  have printable : AllPrintable sample := by decide +kernel
  refine ⟨printable, by decide +kernel, ?_⟩
  rw [ofSource_document sample printable]
  rfl

end SfcLint.Printing
