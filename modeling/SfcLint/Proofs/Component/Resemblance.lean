/-
# States that make the same component

A run of text that waits may have been read in other stretches, and with other signs masked, and of
the attributes of a block only `setup` and `lang` are asked for. States that differ in nothing else
go on to such states while the same tags are read, and end in the same component.
-/

import SfcLint.Component.Assembly
import SfcLint.Proofs.Markup.Veil
import SfcLint.Proofs.Text.Except

namespace SfcLint.Assembly

open Markup (Attribute Token TokenContent unmasked unmasked_append unmasked_unmasked)

/-- What is asked of the attributes of a block: whether it has `setup`, and its `lang`. -/
def scriptKind (attributes : List Attribute) : Bool × Option Text :=
  ((attributeValue? attributes "setup").isSome, (attributeValue? attributes "lang").join)

/-- The two tokens at a position say the same about tags. Nothing is said about other tokens. -/
inductive SameTag (position : Position) : TokenContent → TokenContent → Prop
  | startTag {name raw raw' : Text} {attributes attributes' : List Attribute} :
      scriptKind attributes' = scriptKind attributes →
        elementOf name raw' position = elementOf name raw position →
          SameTag position (.startTag name attributes raw) (.startTag name attributes' raw')
  | selfClosing {name raw raw' : Text} :
      elementOf name raw' position = elementOf name raw position →
        SameTag position (.selfClosing name raw) (.selfClosing name raw')
  | endTag (name : Text) : SameTag position (.endTag name) (.endTag name)
  | text (t t' : Text) : SameTag position (.text t) (.text t')
  | comment (t t' : Text) : SameTag position (.comment t) (.comment t')

theorem SameTag.refl (position : Position) (content : TokenContent) :
    SameTag position content content := by
  cases content with
  | startTag => exact .startTag rfl rfl
  | selfClosing => exact .selfClosing rfl
  | endTag name => exact .endTag name
  | text t => exact .text t t
  | comment t => exact .comment t t

/-! ## Drafts -/

/-- The draft with the run that waits in one stretch, its signs restored. -/
def Draft.settled (draft : Draft) : Draft :=
  { draft with run := draft.run.map fun run => (run.1, [unmasked run.2.reverse.flatten]) }

/-- Nodes are made of what a run shows, however it was read. -/
theorem Draft.flush_settled (draft : Draft) : draft.settled.flush = draft.flush := by
  obtain ⟨site, children, stack, _ | ⟨position, stretches⟩⟩ := draft
  · rfl
  · have same : unmasked ([unmasked stretches.reverse.flatten].reverse.flatten) =
        unmasked stretches.reverse.flatten := by
      simp only [List.reverse_singleton, List.flatten_singleton, unmasked_unmasked]
    rw [flush, flush, settled]
    dsimp only [Option.map_some]
    rw [same]

theorem Draft.flush_congr {draft draft' : Draft} (same : draft'.settled = draft.settled) :
    draft'.flush = draft.flush := by
  rw [← flush_settled draft', same, flush_settled]

/-- Two stretches of text in a row wait like one. -/
theorem Draft.settled_addText_addText (draft : Draft) (position later : Position) (t u : Text) :
    ((draft.addText position t).addText later u).settled =
      (draft.addText position (t ++ u)).settled := by
  obtain ⟨site, children, stack, _ | ⟨start, stretches⟩⟩ := draft <;> simp [addText, settled]

theorem Draft.settled_addText {draft draft' : Draft} {t t' : Text}
    (same : draft'.settled = draft.settled) (shows : unmasked t' = unmasked t)
    (position : Position) :
    (draft'.addText position t').settled = (draft.addText position t).settled := by
  obtain ⟨site, children, stack, run⟩ := draft
  obtain ⟨site', children', stack', run'⟩ := draft'
  simp only [settled, mk.injEq] at same
  obtain ⟨rfl, rfl, rfl, runs⟩ := same
  cases run with
  | none =>
    obtain rfl := Option.map_eq_none_iff.mp runs
    simp [addText, settled, shows]
  | some run =>
    obtain ⟨run', rfl, waits⟩ := Option.map_eq_some_iff.mp runs
    obtain ⟨start, earlier⟩ := Prod.mk.inj waits
    simp [addText, settled, start, (List.cons.inj earlier).1, shows]

/-! ## States -/

/-- The regions differ only in what cannot be told from them. -/
inductive Region.Resembles : Region → Region → Prop
  | outside : Resembles .outside .outside
  | template {draft draft' : Draft} :
      draft'.settled = draft.settled → Resembles (.template draft) (.template draft')
  | other (name : Text) (depth : Nat) (site : Site) {attributes attributes' : List Attribute} :
      scriptKind attributes' = scriptKind attributes →
        Resembles (.other name depth site attributes) (.other name depth site attributes')

/-- The states differ only in what cannot be told from them. -/
structure State.Resembles (state state' : State) : Prop where
  markup : state'.markup = state.markup
  scripts : state'.scripts = state.scripts
  plainSeen : state'.plainSeen = state.plainSeen
  setupSeen : state'.setupSeen = state.setupSeen
  region : state.region.Resembles state'.region

theorem Region.Resembles.refl : ∀ region : Region, region.Resembles region
  | .outside => .outside
  | .template _ => .template rfl
  | .other name depth site _ => .other name depth site rfl

theorem State.Resembles.refl (state : State) : state.Resembles state :=
  ⟨rfl, rfl, rfl, rfl, .refl _⟩

theorem Region.Resembles.trans {first second third : Region} (front : first.Resembles second)
    (back : second.Resembles third) : first.Resembles third := by
  cases front with
  | outside => exact back
  | template same =>
    cases back with
    | template more => exact .template (more.trans same)
  | other name depth site same =>
    cases back with
    | other _ _ _ more => exact .other name depth site (more.trans same)

theorem State.Resembles.trans {first second third : State} (front : first.Resembles second)
    (back : second.Resembles third) : first.Resembles third :=
  ⟨back.markup.trans front.markup, back.scripts.trans front.scripts,
    back.plainSeen.trans front.plainSeen, back.setupSeen.trans front.setupSeen,
    front.region.trans back.region⟩

theorem Region.Resembles.symm {first second : Region} (alike : first.Resembles second) :
    second.Resembles first := by
  cases alike with
  | outside => exact .outside
  | template same => exact .template same.symm
  | other name depth site same => exact .other name depth site same.symm

theorem State.Resembles.symm {first second : State} (alike : first.Resembles second) :
    second.Resembles first :=
  ⟨alike.markup.symm, alike.scripts.symm, alike.plainSeen.symm, alike.setupSeen.symm,
    alike.region.symm⟩

section Steps

variable {source : Text} {state state' after : State} {position : Position} {n : Nat}

/-- States that resemble each other may take regions that do. -/
theorem State.Resembles.withRegion (alike : state.Resembles state') {region region' : Region}
    (regions : region.Resembles region') :
    State.Resembles { state with region := region } { state' with region := region' } :=
  ⟨alike.markup, alike.scripts, alike.plainSeen, alike.setupSeen, regions⟩

theorem State.Resembles.openBlock {name raw raw' : Text} {attributes attributes' : List Attribute}
    {token token' : Token} (alike : state.Resembles state') (offset : token'.offset = token.offset)
    (place : token'.position = token.position) (length : raw'.length = raw.length)
    (kind : scriptKind attributes' = scriptKind attributes)
    (made : openBlock state token name attributes raw = .ok after) :
    ∃ after', Assembly.openBlock state' token' name attributes' raw' = .ok after' ∧
      after.Resembles after' := by
  have setup : (attributeValue? attributes' "setup").isSome =
      (attributeValue? attributes "setup").isSome := congrArg Prod.fst kind
  have other (site : Site) :
      (Region.other name 0 site attributes).Resembles (.other name 0 site attributes') :=
    .other _ _ _ kind
  -- Only the name of the block and what is open already decide, and both states have the same of
  -- them.
  rw [Assembly.openBlock] at made
  rw [Assembly.openBlock, offset, place, length, setup, alike.markup, alike.plainSeen,
    alike.setupSeen]
  dsimp only at made ⊢
  by_cases template : name = "template".toList
  · rw [if_pos template] at made ⊢
    by_cases second : state.markup.isSome = true
    · rw [if_pos second] at made
      contradiction
    · rw [if_neg second] at made ⊢
      obtain rfl := Except.ok.inj made
      exact ⟨_, rfl, rfl, alike.scripts, rfl, rfl, .refl _⟩
  · rw [if_neg template] at made ⊢
    by_cases script : name = "script".toList
    · rw [if_pos script] at made ⊢
      by_cases has : (attributeValue? attributes "setup").isSome = true
      · rw [if_pos has] at made ⊢
        by_cases second : state.setupSeen = true
        · rw [if_pos second] at made
          contradiction
        · rw [if_neg second] at made ⊢
          obtain rfl := Except.ok.inj made
          exact ⟨_, rfl, rfl, alike.scripts, rfl, rfl, other _⟩
      · rw [if_neg has] at made ⊢
        by_cases second : state.plainSeen = true
        · rw [if_pos second] at made
          contradiction
        · rw [if_neg second] at made ⊢
          obtain rfl := Except.ok.inj made
          exact ⟨_, rfl, rfl, alike.scripts, rfl, rfl, other _⟩
    · rw [if_neg script] at made ⊢
      obtain rfl := Except.ok.inj made
      exact ⟨_, rfl, rfl, alike.scripts, rfl, rfl, other _⟩

theorem State.Resembles.closeOther {name : Text} {site : Site}
    {attributes attributes' : List Attribute} {token token' : Token}
    (alike : state.Resembles state') (offset : token'.offset = token.offset)
    (kind : scriptKind attributes' = scriptKind attributes) :
    (closeOther source state token name site attributes).Resembles
      (Assembly.closeOther source state' token' name site attributes') := by
  have setup : (attributeValue? attributes' "setup").isSome =
      (attributeValue? attributes "setup").isSome := congrArg Prod.fst kind
  have lang : (attributeValue? attributes' "lang").join =
      (attributeValue? attributes "lang").join := congrArg Prod.snd kind
  rw [Assembly.closeOther, Assembly.closeOther, offset, setup, lang, alike.scripts]
  dsimp only
  split
  · exact ⟨alike.markup, rfl, alike.plainSeen, alike.setupSeen, .outside⟩
  · exact ⟨alike.markup, rfl, alike.plainSeen, alike.setupSeen, .outside⟩

theorem State.Resembles.closeInTemplate {name : Text} {draft draft' : Draft}
    {token token' : Token} (alike : state.Resembles state')
    (drafts : draft'.settled = draft.settled) (offset : token'.offset = token.offset)
    (place : token'.position = token.position)
    (made : closeInTemplate source state draft token name = .ok after) :
    ∃ after', Assembly.closeInTemplate source state' draft' token' name = .ok after' ∧
      after.Resembles after' := by
  rw [Assembly.closeInTemplate, Except.bind_eq_ok_iff] at made
  obtain ⟨flushed, flush, made⟩ := made
  rw [Assembly.closeInTemplate, Draft.flush_congr drafts, flush, offset, place]
  dsimp only [bind, Except.bind]
  -- Both drafts settle to the same draft, so the same element is open.
  cases stack : flushed.stack with
  | nil =>
    rw [stack] at made
    dsimp only at made ⊢
    by_cases template : name = "template".toList
    · rw [if_pos template] at made ⊢
      obtain rfl := Except.pure_eq_ok_iff.mp made
      exact ⟨_, rfl, rfl, alike.scripts, alike.plainSeen, alike.setupSeen, .outside⟩
    · rw [if_neg template] at made ⊢
      by_cases void : voidElements.contains name = true
      · rw [if_pos void] at made ⊢
        obtain rfl := Except.pure_eq_ok_iff.mp made
        exact ⟨_, rfl, alike.withRegion (.refl _)⟩
      · rw [if_neg void] at made
        contradiction
  | cons top below =>
    rw [stack] at made
    dsimp only at made ⊢
    by_cases closes : Text.lower top.tag = name
    · rw [if_pos closes] at made ⊢
      obtain rfl := Except.pure_eq_ok_iff.mp made
      exact ⟨_, rfl, alike.withRegion (.refl _)⟩
    · rw [if_neg closes] at made ⊢
      by_cases void : voidElements.contains name = true
      · rw [if_pos void] at made ⊢
        obtain rfl := Except.pure_eq_ok_iff.mp made
        exact ⟨_, rfl, alike.withRegion (.refl _)⟩
      · rw [if_neg void] at made
        split at made
        · contradiction
        · contradiction

theorem State.Resembles.inTemplate {draft draft' : Draft} {content content' : TokenContent}
    (alike : state.Resembles state') (drafts : draft'.settled = draft.settled)
    (shape : content'.shape = content.shape) (same : SameTag position content content')
    (made : inTemplate source state draft ⟨n, position, content⟩ = .ok after) :
    ∃ after', Assembly.inTemplate source state' draft' ⟨n, position, content'⟩ = .ok after' ∧
      after.Resembles after' := by
  cases same with
  | startTag _ element =>
    simp only [Assembly.inTemplate, Except.bind_eq_ok_iff] at made
    obtain ⟨flushed, flush, opened, read, made⟩ := made
    obtain rfl := Except.pure_eq_ok_iff.mp made
    simp only [Assembly.inTemplate, Draft.flush_congr drafts, flush, element, read]
    exact ⟨_, rfl, alike.withRegion (.refl _)⟩
  | selfClosing element =>
    simp only [Assembly.inTemplate, Except.bind_eq_ok_iff] at made
    obtain ⟨flushed, flush, opened, read, made⟩ := made
    obtain rfl := Except.pure_eq_ok_iff.mp made
    simp only [Assembly.inTemplate, Draft.flush_congr drafts, flush, element, read]
    exact ⟨_, rfl, alike.withRegion (.refl _)⟩
  | endTag name => exact alike.closeInTemplate drafts rfl rfl made
  | text t t' =>
    obtain rfl := Except.ok.inj made
    have shows := TokenContent.text.inj shape
    exact ⟨_, rfl, alike.withRegion (.template (Draft.settled_addText drafts shows position))⟩
  | comment t t' =>
    simp only [Assembly.inTemplate, Except.bind_eq_ok_iff] at made
    obtain ⟨flushed, flush, made⟩ := made
    obtain rfl := Except.pure_eq_ok_iff.mp made
    have shows : unmasked t' = unmasked t := TokenContent.comment.inj shape
    simp only [Assembly.inTemplate, Draft.flush_congr drafts, flush, shows]
    exact ⟨_, rfl, alike.withRegion (.refl _)⟩

/-- States that resemble each other still do after tokens that say the same. -/
theorem State.Resembles.step {content content' : TokenContent} (alike : state.Resembles state')
    (shape : content'.shape = content.shape) (same : SameTag position content content')
    (made : step source state ⟨n, position, content⟩ = .ok after) :
    ∃ after', Assembly.step source state' ⟨n, position, content'⟩ = .ok after' ∧
      after.Resembles after' := by
  obtain ⟨markup, scripts, plainSeen, setupSeen, region⟩ := state
  obtain ⟨markup', scripts', plainSeen', setupSeen', region'⟩ := state'
  have regions : region.Resembles region' := alike.region
  -- A token does what the region says, and both states are in regions of the same kind.
  cases regions with
  | outside =>
    cases same with
    | startTag kind element =>
      -- The content of a block starts behind its tag, and the tags are equally long.
      have length := congrArg List.length (TokenContent.startTag.inj shape).2.2
      rw [Markup.length_unmasked, Markup.length_unmasked] at length
      exact alike.openBlock rfl rfl length kind made
    | _ =>
      obtain rfl := Except.ok.inj made
      exact ⟨_, rfl, alike⟩
  | template drafts => exact alike.inTemplate drafts shape same made
  | other name depth site kinds =>
    cases same with
    | @startTag inner =>
      simp only [Assembly.step] at made ⊢
      by_cases again : inner = name
      · rw [if_pos again] at made ⊢
        obtain rfl := Except.ok.inj made
        exact ⟨_, rfl, alike.withRegion (.other name (depth + 1) site kinds)⟩
      · rw [if_neg again] at made ⊢
        obtain rfl := Except.ok.inj made
        exact ⟨_, rfl, alike⟩
    | endTag inner =>
      simp only [Assembly.step] at made ⊢
      by_cases closes : inner = name
      · rw [if_pos closes] at made ⊢
        cases depth with
        | zero =>
          obtain rfl := Except.ok.inj made
          exact ⟨_, rfl, alike.closeOther rfl kinds⟩
        | succ depth =>
          obtain rfl := Except.ok.inj made
          exact ⟨_, rfl, alike.withRegion (.other name depth site kinds)⟩
      · rw [if_neg closes] at made ⊢
        obtain rfl := Except.ok.inj made
        exact ⟨_, rfl, alike⟩
    | _ =>
      obtain rfl := Except.ok.inj made
      exact ⟨_, rfl, alike⟩

/-- A template that is still open makes no component. -/
theorem not_finish_of_template {draft : Draft} {component : Component}
    (inside : state.region = .template draft) : finish state ≠ .ok component := by
  intro made
  rw [finish, inside] at made
  dsimp only at made
  rw [Except.bind_eq_ok_iff] at made
  obtain ⟨flushed, -, made⟩ := made
  split at made
  · contradiction
  · contradiction

/-- States that resemble each other end in the same component. -/
theorem State.Resembles.finish {component : Component} (alike : state.Resembles state')
    (made : finish state = .ok component) : Assembly.finish state' = .ok component := by
  obtain ⟨markup, scripts, plainSeen, setupSeen, region⟩ := state
  obtain ⟨markup', scripts', plainSeen', setupSeen', region'⟩ := state'
  obtain ⟨rfl, rfl, rfl, rfl, regions⟩ := alike
  cases regions with
  | outside => exact made
  | template drafts => exact absurd made (not_finish_of_template rfl)
  | other name depth site kinds => exact made

end Steps

end SfcLint.Assembly
