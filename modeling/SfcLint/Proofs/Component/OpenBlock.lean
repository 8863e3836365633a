/-
# Blocks that are left open

A start tag at the top level opens a block, and the block ends with its own end tag: the one before
which the tags of its name are well nested. A block that has no such end tag takes all that
follows. At the end of the file a template or a script that is still open is at fault. A block of
any other name is passed over: the file is accepted, and what it was before that block is all that
is made of it.
-/

import SfcLint.Proofs.Component.Scripts
import SfcLint.Proofs.Component.TemplateBlock

namespace SfcLint

open Markup (Token TokenContent TokenFailure maskInterpolations)

namespace Assembly

/-- The name of an element, as it is written in the text of its start tag. -/
def writtenTag (name raw : Text) : Text :=
  ((writtenName.leading? raw).map (·.group "name")).getD name

/-- What a tag counts for the end of a block: only tags of the name of the block do. The elements of
a template go by the names that are written, and those that can have no content do not count. -/
def ownTag? (block : Text) (token : Token) : Option NestingTag :=
  match token.content with
  | .startTag name _ raw =>
      if block = templateName then
        if voidElements.contains name = false ∧ Text.lower (writtenTag name raw) = templateName then
          some (.opens block)
        else none
      else if name = block then some (.opens block) else none
  | .endTag name => if name = block then some (.closes block) else none
  | _ => none

/-- What follows the start tag of a block has its own end tag. -/
def ClosedIn (block : Text) (rest : List (Except TokenFailure Token)) : Prop :=
  ∃ (inner : List Token) (closing : Token) (back : List (Except TokenFailure Token)),
    rest = inner.map .ok ++ .ok closing :: back ∧ closing.content = .endTag block ∧
      WellNested (inner.filterMap (ownTag? block))

/-- Among the tokens of a source text a start tag opens a block at the top level. -/
structure OpensBlock (source : Text) (front : List Token) (opening : Token) (block : Text)
    (rest : List (Except TokenFailure Token)) : Prop where
  row : Markup.tokens (maskInterpolations source) = front.map .ok ++ .ok opening :: rest
  outside : LeadsOutside source .initial front
  tag : ∃ attributes raw, opening.content = .startTag block attributes raw

/-- What comes of a file with a block that is left open. -/
inductive LeftOpen (source : Text) (front : List Token) (block : Text) :
    Except ParseError Component → Prop
  /-- A template or a script is a fault in the structure. -/
  | refused {fault : StructureFault} {position : Position} :
      block = templateName ∨ block = scriptName →
        LeftOpen source front block (.error (.malformed fault position))
  /-- Any other block is passed over with all that follows. -/
  | passedOver {component : Component} : block ≠ templateName → block ≠ scriptName →
      Component.ofTokens source (front.map .ok) = .ok component →
        LeftOpen source front block (.ok component)
  /-- What follows cannot be cut into tokens. -/
  | unreadable {failure : TokenFailure} : LeftOpen source front block (.error (.unreadable failure))

variable {source block : Text} {state after : State} {token : Token} {depth : Nat}
  {rest : List (Except TokenFailure Token)}

/-! ## Inside a block -/

/-- So many more blocks of the name are open inside the one that is open at the top level. -/
inductive Holds (block : Text) : Region → Nat → Prop
  | template {draft : Draft} (named : block = templateName) :
      Holds block (.template draft) (draft.names.count templateName)
  | other {depth : Nat} {site : Site} {attributes : List Markup.Attribute}
      (named : block ≠ templateName) : Holds block (.other block depth site attributes) depth

theorem openAfter_replicate_opens :
    openAfter (List.replicate depth block) [.opens block] =
      some (List.replicate (depth + 1) block) := by
  rw [openAfter_opens, openAfter_nil, List.replicate_succ]

theorem openAfter_replicate_closes :
    openAfter (List.replicate (depth + 1) block) [.closes block] =
      some (List.replicate depth block) := by
  rw [List.replicate_succ, openAfter, if_pos rfl, openAfter_nil]

/-- Outside templates a token keeps what was found before. -/
def Keeps (block : Text) (state after : State) : Prop :=
  block ≠ templateName → after.markup = state.markup ∧ after.scripts = state.scripts

theorem Keeps.trans {last : State} (first : Keeps block state after)
    (later : Keeps block after last) : Keeps block state last := by
  intro other
  obtain ⟨markup, scripts⟩ := first other
  obtain ⟨markup', scripts'⟩ := later other
  exact ⟨markup'.trans markup, scripts'.trans scripts⟩

/-- What a token does inside a block with so many of its name open in it: the block stays open, it
is closed, or there is a fault, which only a template can have. -/
inductive BlockStep (block : Text) (state : State) (depth : Nat) (token : Token) :
    Except ParseError State → Prop
  | stays {after : State} {next : Nat} (holds : Holds block after.region next)
      (tags : openAfter (List.replicate depth block) (ownTag? block token).toList =
        some (List.replicate next block)) (keeps : Keeps block state after) :
      BlockStep block state depth token (.ok after)
  | closes {after : State} (outermost : depth = 0) (tag : token.content = .endTag block) :
      BlockStep block state depth token (.ok after)
  | fails {error : ParseError} (named : block = templateName) :
      BlockStep block state depth token (.error error)

theorem ownTag?_startTag_template {n : Nat} {position : Position} {name raw : Text}
    {attributes : List Markup.Attribute} :
    ownTag? templateName ⟨n, position, .startTag name attributes raw⟩ =
      if voidElements.contains name = false ∧ Text.lower (writtenTag name raw) = templateName then
        some (.opens templateName)
      else none := by
  rw [ownTag?]
  exact if_pos rfl

theorem ownTag?_startTag_other {n : Nat} {position : Position} {name raw : Text}
    {attributes : List Markup.Attribute} (named : block ≠ templateName) :
    ownTag? block ⟨n, position, .startTag name attributes raw⟩ =
      if name = block then some (.opens block) else none :=
  if_neg named

theorem ownTag?_endTag_self {n : Nat} {position : Position} :
    ownTag? block ⟨n, position, .endTag block⟩ = some (.closes block) :=
  if_pos rfl

theorem ownTag?_endTag_of_ne {n : Nat} {position : Position} {name : Text}
    (different : name ≠ block) : ownTag? block ⟨n, position, .endTag name⟩ = none :=
  if_neg different

/-- A token without a tag of the name of the block leaves it as it is. -/
theorem blockStep_of_neutral (holds : Holds block after.region depth)
    (neutral : ownTag? block token = none) (keeps : Keeps block state after) :
    BlockStep block state depth token (.ok after) := by
  refine .stays holds ?_ keeps
  rw [neutral, Option.toList_none, openAfter_nil]

theorem blockStep_other {site : Site} {attributes : List Markup.Attribute}
    (region : state.region = .other block depth site attributes) (named : block ≠ templateName) :
    BlockStep block state depth token (step source state token) := by
  obtain ⟨n, position, content⟩ := token
  have holds : Holds block state.region depth := by
    rw [region]
    exact .other named
  have same : Keeps block state state := fun _ => ⟨rfl, rfl⟩
  rw [step.eq_def]
  simp only [region]
  -- Only tags of the name of the block count in it: a start tag is one more open, an end tag is one
  -- less or ends the block.
  cases content with
  | startTag name attributes' raw =>
    by_cases own : name = block
    · subst own
      simp only [if_pos]
      refine .stays (.other named) ?_ fun _ => ⟨rfl, rfl⟩
      rw [ownTag?_startTag_other named, if_pos rfl]
      exact openAfter_replicate_opens
    · simp only [if_neg own]
      refine blockStep_of_neutral holds ?_ same
      rw [ownTag?_startTag_other named, if_neg own]
  | endTag name =>
    by_cases own : name = block
    · subst own
      simp only [if_pos]
      cases depth with
      | zero => exact .closes rfl rfl
      | succ depth =>
        refine .stays (.other named) ?_ fun _ => ⟨rfl, rfl⟩
        rw [ownTag?_endTag_self]
        exact openAfter_replicate_closes
    · simp only [if_neg own]
      exact blockStep_of_neutral holds (ownTag?_endTag_of_ne own) same
  | selfClosing name raw => exact blockStep_of_neutral holds rfl same
  | text t => exact blockStep_of_neutral holds rfl same
  | comment t => exact blockStep_of_neutral holds rfl same

/-! ## Inside a template -/

/-- Only an interpolation that does not end keeps a run from being made into nodes. -/
theorem flush_cases (draft : Draft) : (∃ flushed, draft.flush = .ok flushed) ∨
    ∃ position, draft.flush = .error (.malformed .unclosedInterpolation position) := by
  rw [Draft.flush]
  split
  · exact .inl ⟨_, rfl⟩
  · split
    · exact .inr ⟨_, rfl⟩
    · exact .inl ⟨_, rfl⟩

theorem names_of_flush {draft flushed : Draft} (made : draft.flush = .ok flushed) :
    flushed.names = draft.names := by
  rw [Draft.flush] at made
  split at made
  · rw [Except.ok.inj made]
  · split at made
    · contradiction
    · obtain rfl := Except.ok.inj made
      exact Draft.names_appendAll _ _

theorem tag_of_elementOf {name raw : Text} {position : Position} {opened : OpenElement}
    (read : elementOf name raw position = .ok opened) : opened.tag = writtenTag name raw := by
  obtain ⟨bindings, -, made⟩ := Except.bind_eq_ok_iff.mp read
  obtain rfl := Except.pure_eq_ok_iff.mp made
  rfl

/-- In a template what was found before is not counted on. -/
theorem keeps_template : Keeps templateName state after := fun other => absurd rfl other

theorem holds_template {draft : Draft} {names : List Text} (same : draft.names = names) :
    Holds templateName (.template draft) (names.count templateName) :=
  same ▸ .template rfl

/-- Where reading a template fails, that is a fault of the template. -/
theorem blockStep_bind {α : Type} {made : Except ParseError α} {next : α → Except ParseError State}
    (read : ∀ value, made = .ok value → BlockStep templateName state depth token (next value)) :
    BlockStep templateName state depth token (made >>= next) := by
  cases result : made with
  | error error => exact .fails rfl
  | ok value => exact read value result

theorem blockStep_closeInTemplate {draft : Draft} {n : Nat} {position : Position} {name : Text} :
    BlockStep templateName state (draft.names.count templateName) ⟨n, position, .endTag name⟩
      (closeInTemplate source state draft ⟨n, position, .endTag name⟩ name) := by
  have content : voidElements.contains templateName = false := by decide
  -- An end tag that closes nothing leaves the names as they are, and is none of a template.
  have ignored {flushed : Draft} (names : flushed.names = draft.names)
      (void : voidElements.contains name = true) :
      BlockStep templateName state (draft.names.count templateName) ⟨n, position, .endTag name⟩
        (.ok { state with region := .template flushed }) := by
    refine blockStep_of_neutral (holds_template names) (ownTag?_endTag_of_ne ?_) keeps_template
    rintro rfl
    rw [content] at void
    contradiction
  rw [closeInTemplate]
  refine blockStep_bind fun flushed made => ?_
  have names := names_of_flush made
  split
  -- With no element open the end tag is that of the template.
  next empty =>
    have outermost : draft.names = [] := by
      rw [← names]
      exact Draft.names_eq_nil_iff.mpr empty
    split
    next template =>
      refine .closes ?_ (congrArg TokenContent.endTag template)
      rw [outermost, List.count_nil]
    next =>
      split
      next void => exact ignored names void
      next => exact .fails rfl
  -- Otherwise it closes the innermost element, or it is at fault.
  next top below split =>
    have stack : draft.names =
        Text.lower top.tag :: below.map fun opened => Text.lower opened.tag := by
      rw [← names, Draft.names, split, List.map_cons]
    split
    next innermost =>
      refine .stays (holds_template (Draft.names_append _ _)) ?_ keeps_template
      rw [stack, List.count_cons]
      by_cases own : name = templateName
      · rw [own, ownTag?_endTag_self, innermost, own, if_pos (beq_self_eq_true _)]
        exact openAfter_replicate_closes
      · rw [ownTag?_endTag_of_ne own, innermost, if_neg (by simpa using own)]
        exact openAfter_nil _
    next =>
      split
      next void => exact ignored names void
      next =>
        split
        · exact .fails rfl
        · exact .fails rfl

/-- A start tag in a template opens one more element, unless it can have no content. -/
theorem blockStep_startTag {draft flushed : Draft} {opened : OpenElement} {n : Nat}
    {position : Position} {name raw : Text} {attributes : List Markup.Attribute}
    (names : flushed.names = draft.names) (tag : opened.tag = writtenTag name raw) :
    BlockStep templateName state (draft.names.count templateName)
      ⟨n, position, .startTag name attributes raw⟩
      (.ok { state with
        region := .template
          (if voidElements.contains name then flushed.append opened.close
          else { flushed with stack := opened :: flushed.stack }) }) := by
  by_cases void : voidElements.contains name
  · rw [if_pos void]
    refine blockStep_of_neutral (holds_template ?_) ?_ keeps_template
    · rw [Draft.names_append, names]
    · rw [ownTag?_startTag_template, if_neg fun both => Bool.false_ne_true (both.1.symm.trans void)]
  · rw [if_neg void]
    have pushed : ({ flushed with stack := opened :: flushed.stack } : Draft).names =
        Text.lower (writtenTag name raw) :: draft.names := by
      rw [← names, ← tag]
      rfl
    refine .stays (holds_template pushed) ?_ keeps_template
    rw [List.count_cons]
    by_cases own : Text.lower (writtenTag name raw) = templateName
    · rw [ownTag?_startTag_template, if_pos ⟨by simpa using void, own⟩, own,
        if_pos (beq_self_eq_true _)]
      exact openAfter_replicate_opens
    · rw [ownTag?_startTag_template, if_neg fun both => own both.2, if_neg (by simpa using own)]
      exact openAfter_nil _

theorem blockStep_template {draft : Draft} (region : state.region = .template draft) :
    BlockStep templateName state (draft.names.count templateName) token
      (step source state token) := by
  have stepped : step source state token = inTemplate source state draft token := by
    rw [step]
    simp only [region]
  rw [stepped]
  obtain ⟨n, position, content⟩ := token
  cases content with
  | endTag name => exact blockStep_closeInTemplate
  | text t =>
    refine blockStep_of_neutral (holds_template ?_) rfl keeps_template
    rw [Draft.addText]
    split <;> rfl
  | comment t =>
    rw [inTemplate]
    refine blockStep_bind fun flushed made => ?_
    refine blockStep_of_neutral (holds_template ?_) rfl keeps_template
    rw [Draft.names_append, names_of_flush made]
  | selfClosing name raw =>
    rw [inTemplate]
    refine blockStep_bind fun flushed made => blockStep_bind fun opened _ => ?_
    refine blockStep_of_neutral (holds_template ?_) rfl keeps_template
    rw [Draft.names_append, names_of_flush made]
  | startTag name attributes raw =>
    rw [inTemplate]
    refine blockStep_bind fun flushed made => blockStep_bind fun opened read => ?_
    exact blockStep_startTag (names_of_flush made) (tag_of_elementOf read)

/-- One token inside a block. -/
theorem blockStep (holds : Holds block state.region depth) :
    BlockStep block state depth token (step source state token) := by
  generalize region : state.region = here at holds
  cases holds with
  | @template draft named =>
    subst named
    exact blockStep_template region
  | other named => exact blockStep_other region named

/-! ## The rest of a file -/

/-- The block is closed in what follows, where so many of its name are open in it. -/
def ClosedFrom (depth : Nat) (block : Text) (rest : List (Except TokenFailure Token)) : Prop :=
  ∃ (inner : List Token) (closing : Token) (back : List (Except TokenFailure Token)),
    rest = inner.map .ok ++ .ok closing :: back ∧ closing.content = .endTag block ∧
      openAfter (List.replicate depth block) (inner.filterMap (ownTag? block)) = some []

theorem closedFrom_zero_iff : ClosedFrom 0 block rest ↔ ClosedIn block rest := by
  simp only [ClosedFrom, ClosedIn, List.replicate_zero, openAfter_eq_nil_iff]

theorem ClosedFrom.cons {next : Nat} (closed : ClosedFrom next block rest)
    (tags : openAfter (List.replicate depth block) (ownTag? block token).toList =
      some (List.replicate next block)) : ClosedFrom depth block (.ok token :: rest) := by
  obtain ⟨inner, closing, back, rfl, tag, nested⟩ := closed
  refine ⟨token :: inner, closing, back, rfl, tag, ?_⟩
  have split : (token :: inner).filterMap (ownTag? block) =
      (ownTag? block token).toList ++ inner.filterMap (ownTag? block) := by
    rw [List.filterMap_cons]
    cases ownTag? block token <;> rfl
  rw [split, openAfter_append, tags, Option.bind_some, nested]

/-- How the rest of a file is read in a block that is left open: the block is open at the end, the
file cannot be cut into tokens, or a template has a fault. -/
inductive ReadsOn (block : Text) (state : State) : Except ParseError State → Prop
  | ends {last : State} {depth : Nat} (holds : Holds block last.region depth)
      (keeps : Keeps block state last) : ReadsOn block state (.ok last)
  | unreadable {failure : TokenFailure} : ReadsOn block state (.error (.unreadable failure))
  | fails {error : ParseError} (named : block = templateName) : ReadsOn block state (.error error)

/-- A block without its end tag is open until the reading ends. -/
theorem readsOn (holds : Holds block state.region depth) (unclosed : ¬ ClosedFrom depth block rest) :
    ReadsOn block state (run source state rest) := by
  -- The induction is on the tokens that follow, with how many of the name are open left variable.
  induction rest generalizing state depth with
  | nil => exact .ends holds fun _ => ⟨rfl, rfl⟩
  | cons result later ih =>
    cases result with
    | error failure => exact .unreadable
    | ok token =>
      have here : BlockStep block state depth token (step source state token) := blockStep holds
      rw [run]
      generalize step source state token = result at here
      cases here with
      | @stays after next holds tags keeps =>
        have behind := ih holds fun closed => unclosed (closed.cons tags)
        show ReadsOn block state (run source after later)
        generalize run source after later = result at behind
        cases behind with
        | ends holds keeps' => exact .ends holds (keeps.trans keeps')
        | unreadable => exact .unreadable
        | fails named => exact .fails named
      | closes outermost tag =>
        -- This would be the end tag of the block.
        subst outermost
        exact absurd ⟨[], token, later, rfl, tag, openAfter_nil _⟩ unclosed
      | fails named => exact .fails named

theorem run_append (source : Text) (state : State) (front : List Token)
    (rest : List (Except TokenFailure Token)) :
    run source state (front.map .ok ++ rest) =
      (through source state front).bind fun after => run source after rest := by
  induction front generalizing state with
  | nil => rfl
  | cons token front ih =>
    rw [List.map_cons, List.cons_append, run, through_cons]
    cases step source state token with
    | error error => rfl
    | ok after => exact ih after

/-- A start tag at the top level opens its block with nothing in it, unless it is a second template
or script. -/
theorem openBlock_cases (state : State) (token : Token) (name raw : Text)
    (attributes : List Markup.Attribute) :
    (∃ after, openBlock state token name attributes raw = .ok after ∧
      Holds name after.region 0 ∧ Keeps name state after) ∨
    (name = templateName ∨ name = scriptName) ∧ ∃ fault position,
      openBlock state token name attributes raw = .error (.malformed fault position) := by
  have kept {after : State} (markup : after.markup = state.markup)
      (scripts : after.scripts = state.scripts) : Keeps name state after :=
    fun _ => ⟨markup, scripts⟩
  rw [openBlock]
  dsimp only
  split
  next isTemplate =>
    split
    · exact .inr ⟨.inl isTemplate, _, _, rfl⟩
    · exact .inl ⟨_, rfl, .template isTemplate, kept rfl rfl⟩
  next noTemplate =>
    split
    next isScript =>
      split
      · split
        · exact .inr ⟨.inr isScript, _, _, rfl⟩
        · exact .inl ⟨_, rfl, .other noTemplate, kept rfl rfl⟩
      · split
        · exact .inr ⟨.inr isScript, _, _, rfl⟩
        · exact .inl ⟨_, rfl, .other noTemplate, kept rfl rfl⟩
    next => exact .inl ⟨_, rfl, .other noTemplate, kept rfl rfl⟩

/-- A template or a script that is open at the end is a fault, any other block is none. -/
theorem finish_of_holds (holds : Holds block state.region depth) :
    ((block = templateName ∨ block = scriptName) ∧
      ∃ fault position, finish state = .error (.malformed fault position)) ∨
    block ≠ templateName ∧ block ≠ scriptName ∧
      finish state = .ok ⟨state.markup, logicOf state.scripts⟩ := by
  rw [finish]
  generalize state.region = region at holds
  cases holds with
  | @template draft named =>
    refine .inl ⟨.inl named, ?_⟩
    rcases flush_cases draft with ⟨flushed, made⟩ | ⟨position, failed⟩
    · simp only [made, bind, Except.bind]
      split
      · exact ⟨_, _, rfl⟩
      · exact ⟨_, _, rfl⟩
    · simp only [failed, bind, Except.bind]
      exact ⟨_, _, rfl⟩
  | other named =>
    dsimp only
    split
    next isScript => exact .inl ⟨.inr isScript, _, _, rfl⟩
    next noScript => exact .inr ⟨named, noScript, rfl⟩

/-- What comes of a file with a block that is left open. -/
theorem leftOpen {front : List Token} {opening : Token}
    (opens : OpensBlock source front opening block rest) (unclosed : ¬ ClosedIn block rest) :
    LeftOpen source front block (Component.ofSource source) := by
  obtain ⟨row, ⟨state, ran, outside⟩, attributes, raw, tag⟩ := opens
  -- Before the block nothing is open, so the file could end there.
  have before : Component.ofTokens source (front.map .ok) =
      .ok ⟨state.markup, logicOf state.scripts⟩ := by
    have finished : finish state = .ok ⟨state.markup, logicOf state.scripts⟩ := by
      rw [finish, outside]
    have read := run_append source .initial front []
    rw [List.append_nil, ran] at read
    rw [Component.ofTokens, read]
    exact finished
  have stepped : step source state opening = openBlock state opening block attributes raw := by
    rw [step.eq_def, outside, tag]
  rw [Component.ofSource, Component.ofTokens, row, run_append, ran]
  show LeftOpen source front block ((run source state (.ok opening :: rest)).bind finish)
  rw [run, stepped]
  rcases openBlock_cases state opening block raw attributes with
    ⟨after, made, holds, keeps⟩ | ⟨named, fault, position, failed⟩
  · rw [made]
    have reads : ReadsOn block after (run source after rest) :=
      readsOn holds fun closed => unclosed (closedFrom_zero_iff.mp closed)
    show LeftOpen source front block ((run source after rest).bind finish)
    generalize run source after rest = result at reads
    cases reads with
    | @ends last depth holds' keeps' =>
      show LeftOpen source front block (finish last)
      rcases finish_of_holds holds' with ⟨named, fault, position, failed⟩ | ⟨other, noScript, made⟩
      · rw [failed]
        exact .refused named
      · obtain ⟨markup, scripts⟩ := keeps.trans keeps' other
        rw [made, markup, scripts]
        exact .passedOver other noScript before
    | unreadable => exact .unreadable
    | @fails error named =>
      cases error with
      | malformed fault position => exact .refused (.inl named)
      | unreadable failure => exact .unreadable
  · rw [failed]
    exact .refused named

/-- **Only other blocks may stay open.** The blocks of a file that is accepted have their own end
tags exactly when no block is left open but a template, a script, or one behind which the file
cannot be cut into tokens. A template or a script that is left open is a fault in the structure;
with any other block that is left open the file is accepted as what stands before it. -/
theorem closed_or_left_open (source : Text) :
    ((∀ component, Component.ofSource source = .ok component → ∀ front opening block rest,
        OpensBlock source front opening block rest → ClosedIn block rest) ↔
      ∀ front opening block rest, OpensBlock source front opening block rest →
        ¬ ClosedIn block rest → block = templateName ∨ block = scriptName ∨
          ∃ failure, Component.ofSource source = .error (.unreadable failure)) ∧
    ∀ front opening block rest, OpensBlock source front opening block rest →
      ¬ ClosedIn block rest → LeftOpen source front block (Component.ofSource source) := by
  refine ⟨⟨fun closed front opening block rest opens unclosed => ?_,
    fun named component accepted front opening block rest opens => ?_⟩,
    fun _ _ _ _ => leftOpen⟩
  · have left := leftOpen opens unclosed
    generalize outcome : Component.ofSource source = result at left
    cases left with
    | refused named => exact named.imp_right .inl
    | passedOver => exact absurd (closed _ outcome _ _ _ _ opens) unclosed
    | unreadable => exact .inr (.inr ⟨_, rfl⟩)
  · by_contra unclosed
    have left := leftOpen opens unclosed
    rw [accepted] at left
    cases left with
    | passedOver noTemplate noScript =>
      rcases named _ _ _ _ opens unclosed with isTemplate | isScript | ⟨failure, failed⟩
      · exact noTemplate isTemplate
      · exact noScript isScript
      · rw [accepted] at failed
        contradiction

/-- A block of documentation without an end tag, and a template. -/
def unclosedDocs : Text := "<docs><template><p></p></template>".toList

/-- The tokens behind the first one. -/
def behindDocs : List (Except TokenFailure Token) :=
  (Markup.tokens (maskInterpolations unclosedDocs)).tail

theorem opensBlock_docs :
    OpensBlock unclosedDocs [] ⟨0, ⟨1, 1⟩, .startTag "docs".toList [] "<docs>".toList⟩
      "docs".toList behindDocs where
  row := by decide +kernel
  outside := ⟨.initial, rfl, rfl⟩
  tag := ⟨_, _, rfl⟩

theorem not_closedIn_docs : ¬ ClosedIn "docs".toList behindDocs := by
  have none : ∀ result ∈ behindDocs,
      result.toOption.map (·.content) ≠ some (.endTag "docs".toList) := by decide +kernel
  rintro ⟨inner, closing, back, row, tag, -⟩
  refine none (.ok closing) ?_ (congrArg some tag)
  rw [row]
  exact List.mem_append_right _ List.mem_cons_self

/-- The file is accepted as if nothing stood in it. -/
theorem closed_or_left_open_docs :
    ∃ component, Component.ofSource unclosedDocs = .ok component ∧
      Component.ofTokens unclosedDocs [] = .ok component ∧ component.nodes = [] := by
  have left := (closed_or_left_open unclosedDocs).2 _ _ _ _ opensBlock_docs not_closedIn_docs
  have accepted : (Component.ofSource unclosedDocs).toOption.isSome = true := by decide +kernel
  generalize Component.ofSource unclosedDocs = result at left accepted
  cases left with
  | refused => contradiction
  | unreadable => contradiction
  | passedOver _ _ before =>
    refine ⟨_, rfl, before, ?_⟩
    obtain rfl := Except.ok.inj before
    rfl

/-- A file is accepted although a block in it has no end tag. -/
theorem docs_left_open :
    ¬ ∀ source component, Component.ofSource source = .ok component →
      ∀ front opening block rest, OpensBlock source front opening block rest →
        ClosedIn block rest := by
  intro always
  have accepted : (Component.ofSource unclosedDocs).toOption.isSome = true := by decide +kernel
  obtain ⟨component, made⟩ := Option.isSome_iff_exists.mp accepted
  exact not_closedIn_docs
    (always _ component (Except.toOption_eq_some_iff.mp made) _ _ _ _ opensBlock_docs)

end Assembly

end SfcLint
