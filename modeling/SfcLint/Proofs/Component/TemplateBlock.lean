/-
# The block of a template

From its start tag on a template is read until its end tag stands outside all elements. Neighbouring
stretches of text are one run. Each token adds to the outline of what has been made, opens or closes
an element, closes the template, or is at fault because the tags are not well nested. So a template
is made exactly from well nested tags, and its tree has what the tokens tell, in their order.
-/

import SfcLint.Proofs.Component.Attributes
import SfcLint.Proofs.Component.Nesting
import SfcLint.Proofs.Component.Outline
import SfcLint.Proofs.Component.Reached

namespace SfcLint.Assembly

open Markup (Token TokenContent nodesOfRun unmasked)

/-- The name of templates. -/
def templateName : Text := "template".toList

/-- What comes of the block that is open: the state once it is closed and the tokens that are left
then, or the error that is met before. -/
def block (source : Text) (state : State) : List Token → Except ParseError (State × List Token)
  | [] => do
      let _ ← finish state
      return (state, [])
  | token :: later => do
      let after ← step source state token
      match after.region with
      | .outside => return (after, later)
      | _ => block source after later

/-! ## What a template is read from -/

/-- A part of a template: a run of text with the position where it starts, or another token. -/
inductive Item
  | run (position : Position) (t : Text)
  | single (token : Token)

/-- A stretch of text before some items joins the run that they start with. -/
def consText (position : Position) (t : Text) : List Item → List Item
  | .run _ t' :: items => .run position (t ++ t') :: items
  | items => .run position t :: items

/-- The tokens with neighbouring stretches of text joined into runs. -/
def items : List Token → List Item
  | [] => []
  | token :: later =>
      match token.content with
      | .text t => consText token.position t (items later)
      | _ => .single token :: items later

/-- The element that a tag opens, if its start tag can be read. -/
def elementOf? (token : Token) : Option OpenElement :=
  match token.content with
  | .startTag name _ raw => (elementOf name raw token.position).toOption
  | .selfClosing name raw => (elementOf name raw token.position).toOption
  | _ => none

/-- What a tag counts for the nesting. Elements without content and tags that close themselves do
not count. -/
def nestingTag? (token : Token) : Option NestingTag :=
  match token.content with
  | .startTag name _ _ => if voidElements.contains name then none else some (.opens name)
  | .endTag name => if voidElements.contains name then none else some (.closes name)
  | _ => none

/-- An element that is entered and left at once. -/
def OpenElement.childless (opened : OpenElement) : List Mark := [opened.enter, opened.leave]

/-- What a token other than text adds to the outline. -/
def marksOf (token : Token) : List Mark :=
  match token.content with
  | .startTag name _ _ =>
      (elementOf? token).elim [] fun opened =>
        if voidElements.contains name then opened.childless else [opened.enter]
  | .selfClosing _ _ => (elementOf? token).elim [] OpenElement.childless
  | .endTag name => if voidElements.contains name then [] else [.leave name]
  | .text _ => []
  | .comment t => [.comment (unmasked t) token.position]

/-- The nodes of a run, if its interpolations end. -/
def runNodes (position : Position) (t : Text) : List Node :=
  (nodesOfRun position (unmasked t)).toOption.getD []

/-- What an item adds to the outline. -/
def Item.marks : Item → List Mark
  | .run position t => Node.outlineAll (runNodes position t)
  | .single token => marksOf token

/-- The start tags can be read, and a start tag that is not closed at once is written with the name
of its token but for letter case. -/
def Legible (token : Token) : Prop :=
  match token.content with
  | .startTag name _ raw =>
      ∃ opened, elementOf name raw token.position = .ok opened ∧ Text.lower opened.tag = name
  | .selfClosing name raw => ∃ opened, elementOf name raw token.position = .ok opened
  | _ => True

/-- The item can be read: the interpolations of a run end, a tag is legible. -/
def Item.Legible : Item → Prop
  | .run position t => ∃ nodes, nodesOfRun position (unmasked t) = .ok nodes
  | .single token => Assembly.Legible token

variable {source : Text} {state : State} {draft : Draft} {token : Token} {tokens : List Token}

theorem items_of_not_text (other : ∀ t, token.content ≠ .text t) (later : List Token) :
    items (token :: later) = .single token :: items later := by
  rw [items]
  split
  next t text => exact absurd text (other t)
  next => rfl

theorem items_text {n : Nat} {position : Position} {t : Text} (later : List Token) :
    items (⟨n, position, .text t⟩ :: later) = consText position t (items later) := rfl

theorem consText_consText (position position' : Position) (t t' : Text) (items : List Item) :
    consText position t (consText position' t' items) = consText position (t ++ t') items := by
  cases items with
  | nil => rfl
  | cons item items => cases item <;> simp [consText]

namespace Draft

/-- The run that waits, as one stretch of text. -/
def waiting (draft : Draft) : List Token :=
  match draft.run with
  | none => []
  | some (position, stretches) => [⟨0, position, .text stretches.reverse.flatten⟩]

theorem waiting_of_run_eq_none (settled : draft.run = none) : draft.waiting = [] := by
  rw [waiting, settled]

/-- A stretch of text joins the run that waits. -/
theorem items_addText (draft : Draft) (n : Nat) (position : Position) (t : Text)
    (later : List Token) :
    items (draft.waiting ++ ⟨n, position, .text t⟩ :: later) =
      items ((draft.addText position t).waiting ++ later) := by
  rw [waiting, waiting, addText]
  cases draft.run with
  | none => simp [items_text]
  | some run => simp [items_text, consText_consText]

/-- Another token ends the run that waits. -/
theorem items_other (draft : Draft) (other : ∀ t, token.content ≠ .text t) (later : List Token) :
    items (draft.waiting ++ token :: later) =
      items draft.waiting ++ .single token :: items later := by
  rw [waiting]
  cases draft.run with
  | none => simp [items_of_not_text other, items]
  | some run =>
    simp only [List.singleton_append, items_text, items_of_not_text other]
    rfl

/-- The run that waits has been made into nodes. -/
structure Settles (draft flushed : Draft) : Prop where
  run : flushed.run = none
  site : flushed.site = draft.site
  names : flushed.names = draft.names
  outline : flushed.outline = draft.outline ++ (items draft.waiting).flatMap Item.marks

theorem exists_flush (legible : ∀ item ∈ items draft.waiting, item.Legible) :
    ∃ flushed, draft.flush = .ok flushed ∧ draft.Settles flushed := by
  rw [flush]
  split
  next none =>
    refine ⟨draft, rfl, none, rfl, rfl, ?_⟩
    rw [waiting_of_run_eq_none none]
    simp [items]
  next position stretches waits =>
    have waiting : items draft.waiting = [.run position stretches.reverse.flatten] := by
      rw [Draft.waiting, waits]
      rfl
    rw [waiting] at legible
    obtain ⟨nodes, read⟩ := legible _ List.mem_cons_self
    rw [read]
    refine ⟨_, rfl, by simp, by simp, Draft.names_appendAll _ _, ?_⟩
    rw [waiting, outline_appendAll]
    simp [Item.marks, runNodes, read, outline, Except.toOption]

end Draft

/-! ## One step -/

/-- Every open element has content. -/
def Draft.Contentful (draft : Draft) : Prop :=
  ∀ name ∈ draft.names, voidElements.contains name = false

/-- What a token inside a template does: the template stays open, it is closed, or the token is at
fault. -/
inductive Advance (source : Text) (state : State) (draft : Draft) (token : Token) :
    Except ParseError State → Prop
  | stays (settled : List Item) {next : Draft} :
      openAfter draft.names (nestingTag? token).toList = some next.names →
        next.Contentful → next.site = draft.site →
          (∀ later, items (draft.waiting ++ token :: later) =
            settled ++ items (next.waiting ++ later)) →
            next.outline = draft.outline ++ settled.flatMap Item.marks →
              Advance source state draft token (.ok { state with region := .template next })
  | closes {nodes : List Node} :
      draft.names = [] → token.content = .endTag templateName →
        Node.outlineAll nodes = draft.outline ++ (items draft.waiting).flatMap Item.marks →
          Advance source state draft token
            (.ok { state with
              markup := some ⟨.root nodes, source.slice draft.site.content token.offset,
                draft.site.position⟩
              region := .outside })
  | fails {fault : StructureFault} {position : Position} :
      openAfter draft.names (nestingTag? token).toList = none →
        ¬ (draft.names = [] ∧ token.content = .endTag templateName) →
          Advance source state draft token (.error (.malformed fault position))

theorem nestingTag?_text {n : Nat} {position : Position} {t : Text} :
    nestingTag? ⟨n, position, .text t⟩ = none := rfl

/-- What a start tag opens has no children yet. -/
theorem children_of_elementOf {name raw : Text} {position : Position} {opened : OpenElement}
    (read : elementOf name raw position = .ok opened) : opened.children = [] :=
  (elementOf_eq_ok read).2.1

theorem outline_of_elementOf {name raw : Text} {position : Position} {opened : OpenElement}
    (read : elementOf name raw position = .ok opened) : opened.outline = [opened.enter] := by
  rw [OpenElement.outline, children_of_elementOf read]
  rfl

theorem outline_close_of_elementOf {name raw : Text} {position : Position} {opened : OpenElement}
    (read : elementOf name raw position = .ok opened) :
    opened.close.outline = opened.childless := by
  rw [OpenElement.outline_close, outline_of_elementOf read]
  rfl

/-- A token other than text that leaves the template open: it settles the run that waits and adds
its marks. -/
theorem advance_of_settles {flushed next : Draft} (other : ∀ t, token.content ≠ .text t)
    (settles : draft.Settles flushed) (run : next.run = none) (site : next.site = flushed.site)
    (outline : next.outline = flushed.outline ++ marksOf token)
    (names : openAfter draft.names (nestingTag? token).toList = some next.names)
    (contentful : next.Contentful) :
    Advance source state draft token (.ok { state with region := .template next }) := by
  refine .stays (items draft.waiting ++ [.single token]) names contentful
    (site.trans settles.site) ?_ ?_
  · intro later
    rw [draft.items_other other, Draft.waiting_of_run_eq_none run]
    simp
  · rw [outline, settles.outline]
    simp [Item.marks]

theorem Draft.Settles.contentful {flushed : Draft} (settles : draft.Settles flushed)
    (contentful : draft.Contentful) : flushed.Contentful := by
  rw [Contentful, settles.names]
  exact contentful

section Step

variable {n : Nat} {position : Position} {name raw : Text}
  {attributes : List Markup.Attribute} {flushed : Draft}

/-- An element without content or a comment is a new node. -/
theorem advance_of_append {node : Node} (other : ∀ t, token.content ≠ .text t)
    (settles : draft.Settles flushed) (contentful : draft.Contentful)
    (neutral : nestingTag? token = none) (outline : node.outline = marksOf token) :
    Advance source state draft token
      (.ok { state with region := .template (flushed.append node) }) := by
  refine advance_of_settles other settles (by simp [settles.run]) (by simp) ?_ ?_ ?_
  · rw [Draft.outline_append, outline]
  · rw [neutral, Option.toList_none, openAfter_nil, Draft.names_append, settles.names]
  · rw [Draft.Contentful, Draft.names_append]
    exact settles.contentful contentful

/-- A start tag opens an element, which is closed at once when it can have no content. -/
theorem advance_startTag (settles : draft.Settles flushed) (made : draft.flush = .ok flushed)
    (contentful : draft.Contentful)
    (legible : Legible ⟨n, position, .startTag name attributes raw⟩) :
    Advance source state draft ⟨n, position, .startTag name attributes raw⟩
      (inTemplate source state draft ⟨n, position, .startTag name attributes raw⟩) := by
  obtain ⟨opened, read, named⟩ := legible
  have found : elementOf? ⟨n, position, .startTag name attributes raw⟩ = some opened :=
    Except.toOption_eq_some_iff.mpr read
  simp only [inTemplate, made, read, bind, Except.bind]
  by_cases void : voidElements.contains name
  · rw [if_pos void]
    refine advance_of_append (by simp) settles contentful (if_pos void) ?_
    simp only [outline_close_of_elementOf read, marksOf, found, Option.elim_some, if_pos void]
  · rw [if_neg void]
    have names : ({ flushed with stack := opened :: flushed.stack } : Draft).names =
        name :: draft.names := by
      rw [← settles.names, ← named]
      rfl
    refine advance_of_settles (by simp) settles settles.run rfl ?_ ?_ ?_
    · simp only [Draft.outline_push, outline_of_elementOf read, marksOf, found, Option.elim_some,
        if_neg void]
    · have opens : nestingTag? ⟨n, position, .startTag name attributes raw⟩ = some (.opens name) :=
        if_neg void
      rw [opens, Option.toList_some, openAfter_opens, openAfter_nil, names]
    · rw [Draft.Contentful, names]
      exact List.forall_mem_cons.mpr ⟨Bool.eq_false_iff.mpr void, contentful⟩

/-- A tag that closes itself is an element without children. -/
theorem advance_selfClosing (settles : draft.Settles flushed) (made : draft.flush = .ok flushed)
    (contentful : draft.Contentful) (legible : Legible ⟨n, position, .selfClosing name raw⟩) :
    Advance source state draft ⟨n, position, .selfClosing name raw⟩
      (inTemplate source state draft ⟨n, position, .selfClosing name raw⟩) := by
  obtain ⟨opened, read⟩ := legible
  have found : elementOf? ⟨n, position, .selfClosing name raw⟩ = some opened :=
    Except.toOption_eq_some_iff.mpr read
  simp only [inTemplate, made, read, bind, Except.bind]
  refine advance_of_append (by simp) settles contentful rfl ?_
  simp only [outline_close_of_elementOf read, marksOf, found, Option.elim_some]

/-- A comment is a node. -/
theorem advance_comment {t : Text} (settles : draft.Settles flushed)
    (made : draft.flush = .ok flushed) (contentful : draft.Contentful) :
    Advance source state draft ⟨n, position, .comment t⟩
      (inTemplate source state draft ⟨n, position, .comment t⟩) := by
  simp only [inTemplate, made, bind, Except.bind]
  exact advance_of_append (by simp) settles contentful rfl rfl

/-- A stretch of text waits. -/
theorem advance_text {t : Text} (contentful : draft.Contentful) :
    Advance source state draft ⟨n, position, .text t⟩
      (inTemplate source state draft ⟨n, position, .text t⟩) := by
  have same : (draft.addText position t).names = draft.names ∧
      (draft.addText position t).outline = draft.outline ∧
        (draft.addText position t).site = draft.site := by
    rw [Draft.addText]
    split <;> exact ⟨rfl, rfl, rfl⟩
  obtain ⟨names, outline, site⟩ := same
  refine .stays [] ?_ ?_ site ?_ ?_
  · rw [nestingTag?_text, Option.toList_none, openAfter_nil, names]
  · rw [Draft.Contentful, names]
    exact contentful
  · exact fun later => draft.items_addText n position t later
  · rw [outline, List.flatMap_nil, List.append_nil]

/-- The end tag of an element without content leaves what is open. -/
theorem advance_void (settles : draft.Settles flushed) (contentful : draft.Contentful)
    (void : voidElements.contains name) :
    Advance source state draft ⟨n, position, .endTag name⟩
      (.ok { state with region := .template flushed }) := by
  have neutral : nestingTag? ⟨n, position, .endTag name⟩ = none := if_pos void
  refine advance_of_settles (by simp) settles settles.run rfl ?_ ?_ (settles.contentful contentful)
  · simp only [marksOf, if_pos void, List.append_nil]
  · rw [neutral, Option.toList_none, openAfter_nil, settles.names]

/-- The end tag of the innermost element closes it. -/
theorem advance_close {top : OpenElement} {below : List OpenElement}
    (settles : draft.Settles flushed) (contentful : draft.Contentful)
    (split : flushed.stack = top :: below) (innermost : Text.lower top.tag = name) :
    Advance source state draft ⟨n, position, .endTag name⟩
      (.ok { state with
        region := .template ({ flushed with stack := below }.append top.close) }) := by
  have names : draft.names = name :: below.map fun opened => Text.lower opened.tag := by
    rw [← settles.names, Draft.names, split, List.map_cons, innermost]
  have content : ¬ voidElements.contains name := by
    rw [Bool.not_eq_true]
    exact contentful name (names ▸ List.mem_cons_self)
  have closes : nestingTag? ⟨n, position, .endTag name⟩ = some (.closes name) := if_neg content
  refine advance_of_settles (by simp) settles (by simp [settles.run]) (by simp) ?_ ?_ ?_
  · rw [Draft.outline_pop split, OpenElement.leave, innermost]
    simp only [marksOf, if_neg content]
  · rw [names, closes, Option.toList_some, openAfter, if_pos rfl, openAfter_nil, Draft.names_append]
    rfl
  · rw [Draft.Contentful, Draft.names_append]
    intro inner member
    exact contentful inner (names ▸ List.mem_cons_of_mem _ member)

/-- An end tag closes the innermost element, or the template, or is at fault. -/
theorem advance_endTag (settles : draft.Settles flushed) (made : draft.flush = .ok flushed)
    (contentful : draft.Contentful) :
    Advance source state draft ⟨n, position, .endTag name⟩
      (inTemplate source state draft ⟨n, position, .endTag name⟩) := by
  simp only [inTemplate, closeInTemplate, made, bind, Except.bind]
  have closes (content : ¬ voidElements.contains name) :
      nestingTag? ⟨n, position, .endTag name⟩ = some (.closes name) := if_neg content
  split
  next empty =>
    have names : draft.names = [] := by
      rw [← settles.names]
      exact Draft.names_eq_nil_iff.mpr empty
    by_cases template : name = "template".toList
    · rw [if_pos template]
      have all : Node.outlineAll flushed.children.reverse =
          draft.outline ++ (items draft.waiting).flatMap Item.marks := by
        rw [← settles.outline, Draft.outline, empty]
        simp
      rw [settles.site]
      exact .closes names (congrArg TokenContent.endTag template) all
    · rw [if_neg template]
      by_cases void : voidElements.contains name
      · rw [if_pos void]
        exact advance_void settles contentful void
      · rw [if_neg void]
        refine .fails ?_ ?_
        · rw [names, closes void, Option.toList_some, openAfter]
        · rintro ⟨-, same⟩
          exact template (TokenContent.endTag.inj same)
  -- An element is open, so the end tag cannot be that of the template.
  next top below split =>
    have names : draft.names = Text.lower top.tag :: below.map fun opened => Text.lower opened.tag := by
      rw [← settles.names, Draft.names, split, List.map_cons]
    by_cases innermost : Text.lower top.tag = name
    · rw [if_pos innermost]
      exact advance_close settles contentful split innermost
    · rw [if_neg innermost]
      by_cases void : voidElements.contains name
      · rw [if_pos void]
        exact advance_void settles contentful void
      · rw [if_neg void]
        have none : openAfter draft.names
            (nestingTag? ⟨n, position, .endTag name⟩).toList = none := by
          rw [names, closes void, Option.toList_some, openAfter, if_neg innermost]
        have inside : ¬ (draft.names = [] ∧
            TokenContent.endTag name = .endTag templateName) := by
          rw [names]
          simp
        split
        · exact .fails none inside
        · exact .fails none inside

end Step

/-- One token inside a template. -/
theorem advance (contentful : draft.Contentful) (region : state.region = .template draft)
    (legible : ∀ item ∈ items (draft.waiting ++ token :: tokens), item.Legible) :
    Advance source state draft token (step source state token) := by
  have stepped : step source state token = inTemplate source state draft token := by
    rw [step]
    simp only [region]
  rw [stepped]
  obtain ⟨n, position, content⟩ := token
  by_cases text : ∃ t, content = .text t
  · obtain ⟨t, rfl⟩ := text
    exact advance_text contentful
  · have other : ∀ t, content ≠ .text t := fun t same => text ⟨t, same⟩
    rw [draft.items_other other, List.forall_mem_append] at legible
    obtain ⟨flushed, made, settles⟩ := Draft.exists_flush legible.1
    have tag : Legible ⟨n, position, content⟩ := legible.2 _ List.mem_cons_self
    cases content with
    | startTag name attributes raw => exact advance_startTag settles made contentful tag
    | selfClosing name raw => exact advance_selfClosing settles made contentful tag
    | endTag name => exact advance_endTag settles made contentful
    | text t => exact absurd rfl (other t)
    | comment t => exact advance_comment settles made contentful

/-! ## The whole block -/

/-- Some tokens leave nothing open, and then the end tag of a template follows. -/
structure ClosedBy (names : List Text) (tokens front : List Token) (closing : Token)
    (later : List Token) : Prop where
  split : tokens = front ++ closing :: later
  tag : closing.content = .endTag templateName
  nested : openAfter names (front.filterMap nestingTag?) = some []

/-- What has been read once the template is closed. -/
def State.closed (state : State) (source : Text) (site : Site) (nodes : List Node)
    (closing : Token) : State :=
  { state with
    markup := some ⟨.root nodes, source.slice site.content closing.offset, site.position⟩
    region := .outside }

/-- How the block of a template ends: it is closed, or there is a fault and nothing closes it. -/
inductive BlockEnds (source : Text) (state : State) (draft : Draft) (tokens : List Token) :
    Except ParseError (State × List Token) → Prop
  | closed {front later : List Token} {closing : Token} {nodes : List Node} :
      ClosedBy draft.names tokens front closing later →
        Node.outlineAll nodes =
          draft.outline ++ (items (draft.waiting ++ front)).flatMap Item.marks →
          BlockEnds source state draft tokens
            (.ok (state.closed source draft.site nodes closing, later))
  | fails {fault : StructureFault} {position : Position} :
      (∀ front closing later, ¬ ClosedBy draft.names tokens front closing later) →
        BlockEnds source state draft tokens (.error (.malformed fault position))

/-- A template that is open at the end is missing an end tag. -/
theorem exists_finish_of_template (region : state.region = .template draft)
    (legible : ∀ item ∈ items draft.waiting, item.Legible) :
    ∃ fault position, finish state = .error (.malformed fault position) := by
  obtain ⟨flushed, made, -⟩ := Draft.exists_flush legible
  simp only [finish, region, made, bind, Except.bind]
  split
  · exact ⟨_, _, rfl⟩
  · exact ⟨_, _, rfl⟩

theorem openAfter_tags_cons (names : List Text) (token : Token) (front : List Token) :
    openAfter names ((token :: front).filterMap nestingTag?) =
      (openAfter names (nestingTag? token).toList).bind fun after =>
        openAfter after (front.filterMap nestingTag?) := by
  rw [← openAfter_append, List.filterMap_cons]
  cases nestingTag? token <;> rfl

theorem closedBy_cons {names next : List Text} {front later : List Token} {closing : Token}
    (stays : openAfter names (nestingTag? token).toList = some next) :
    ClosedBy names (token :: tokens) (token :: front) closing later ↔
      ClosedBy next tokens front closing later := by
  have nested : openAfter names ((token :: front).filterMap nestingTag?) =
      openAfter next (front.filterMap nestingTag?) := by
    rw [openAfter_tags_cons, stays, Option.bind_some]
  constructor
  · rintro ⟨split, tag, closed⟩
    exact ⟨(List.cons.inj split).2, tag, nested ▸ closed⟩
  · rintro ⟨rfl, tag, closed⟩
    exact ⟨rfl, tag, nested ▸ closed⟩

/-- Outside all elements the end tag of a template closes nothing else. -/
theorem openAfter_templateEnd (tag : token.content = .endTag templateName) :
    openAfter [] (nestingTag? token).toList = none := by
  have content : ¬ voidElements.contains templateName := by decide
  have closes : nestingTag? token = some (.closes templateName) := by
    rw [nestingTag?, tag]
    exact if_neg content
  rw [closes]
  rfl

/-- A step that stays in the template leaves the end of the block to the rest of the tokens. -/
theorem BlockEnds.of_stays {next : Draft} {result : Except ParseError (State × List Token)}
    (stays : openAfter draft.names (nestingTag? token).toList = some next.names)
    (site : next.site = draft.site) {settled : List Item}
    (same : ∀ later, items (draft.waiting ++ token :: later) =
      settled ++ items (next.waiting ++ later))
    (outline : next.outline = draft.outline ++ settled.flatMap Item.marks)
    (rest : BlockEnds source { state with region := .template next } next tokens result) :
    BlockEnds source state draft (token :: tokens) result := by
  cases rest with
  | @closed front later closing nodes closedBy listed =>
    rw [site]
    refine .closed ((closedBy_cons stays).mpr closedBy) ?_
    rw [listed, outline, same front, List.flatMap_append, List.append_assoc]
  | fails none =>
    refine .fails ?_
    rintro (_ | ⟨first, front⟩) closing later closedBy
    · obtain ⟨rfl, -⟩ := List.cons.inj closedBy.split
      have outermost : draft.names = [] := by simpa using closedBy.nested
      rw [outermost, openAfter_templateEnd closedBy.tag] at stays
      contradiction
    · obtain ⟨rfl, -⟩ := List.cons.inj closedBy.split
      exact none _ _ _ ((closedBy_cons stays).mp closedBy)

/-- A block is not closed behind what closes nothing that is open, nor by it unless it is the end tag
of the template. -/
theorem not_closedBy_of_fails (nested : openAfter draft.names (nestingTag? token).toList = none)
    (inside : ¬ (draft.names = [] ∧ token.content = .endTag templateName))
    (front : List Token) (closing : Token) (later : List Token) :
    ¬ ClosedBy draft.names (token :: tokens) front closing later := by
  intro closedBy
  cases front with
  | nil =>
    obtain ⟨rfl, -⟩ := List.cons.inj closedBy.split
    exact inside ⟨by simpa using closedBy.nested, closedBy.tag⟩
  | cons first front =>
    obtain ⟨rfl, -⟩ := List.cons.inj closedBy.split
    have closed := closedBy.nested
    rw [openAfter_tags_cons, nested] at closed
    contradiction

/-- From a draft on the block ends as the nesting of the tokens says. -/
theorem blockEnds (contentful : draft.Contentful) (region : state.region = .template draft)
    (legible : ∀ item ∈ items (draft.waiting ++ tokens), item.Legible) :
    BlockEnds source state draft tokens (block source state tokens) := by
  induction tokens generalizing state draft with
  | nil =>
    rw [List.append_nil] at legible
    obtain ⟨fault, position, unfinished⟩ := exists_finish_of_template region legible
    rw [block, unfinished]
    refine .fails ?_
    rintro front closing later ⟨split, -, -⟩
    simp at split
  | cons token tokens ih =>
    have here : Advance source state draft token (step source state token) :=
      advance contentful region legible
    rw [block]
    generalize step source state token = result at here
    cases here with
    | @stays settled next stays contentful' site same outline =>
      rw [same tokens, List.forall_mem_append] at legible
      exact .of_stays stays site same outline (ih contentful' rfl legible.2)
    | @closes nodes outermost tag outline =>
      refine .closed (show ClosedBy draft.names (token :: tokens) [] token tokens from
        ⟨rfl, tag, ?_⟩) ?_
      · rw [outermost]
        rfl
      · rw [outline, List.append_nil]
    | fails nested inside => exact .fails (not_closedBy_of_fails nested inside)

end SfcLint.Assembly
