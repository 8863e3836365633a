/-
# From tokens to components

The tokens of a file open and close its top-level blocks. Inside a template they build a tree: a
start tag opens an element, its end tag closes it, and a stretch of text waits until something
else comes, because neighbouring stretches are one run. Elements without content need no end tag.
Other blocks are taken as they are written, up to their own end tag.
-/

import SfcLint.Component.Basic
import SfcLint.Markup.Interpolation
import SfcLint.Markup.Token

namespace SfcLint

open Markup (Token TokenFailure TokenContent Attribute)

/-- What can be wrong with the structure of a file. -/
inductive StructureFault
  | unclosedInterpolation
  | invalidEndTag (name : Text)
  | missingEndTag (tag : Text)
  | secondTemplate
  | secondScript (setup : Bool)
  deriving DecidableEq, Repr

/-- How a fault is reported. -/
def StructureFault.message : StructureFault → String
  | unclosedInterpolation => "Interpolation end sign was not found."
  | invalidEndTag name => "Invalid end tag: </" ++ String.ofList name ++ ">"
  | missingEndTag tag => "Element is missing end tag: <" ++ String.ofList tag ++ ">"
  | secondTemplate => "Single file component can contain only one <template> element"
  | secondScript setup =>
      "Single file component can contain only one <script" ++ (if setup then " setup" else "") ++
        "> element"

/-- Why a file could not be read as a component. -/
inductive ParseError
  /-- Its structure has a fault at a position. -/
  | malformed (fault : StructureFault) (position : Position)
  /-- It could not be cut into tokens. -/
  | unreadable (failure : TokenFailure)
  deriving DecidableEq, Repr

/-- How an error is reported. -/
def ParseError.message : ParseError → String
  | malformed fault _ => fault.message
  | unreadable failure => failure.message

namespace Assembly

/-- Where the start tag of a block stands, and where its content starts. -/
structure Site where
  content : Nat
  position : Position

/-- An element whose end tag has not come yet. Its children are held latest first. -/
structure OpenElement where
  tag : Text
  bindings : List Binding
  position : Position
  children : List Node

/-- The element, closed. -/
def OpenElement.close (opened : OpenElement) : Node :=
  .element opened.tag opened.bindings opened.children.reverse opened.position

/-- A template whose end tag has not come yet: the root's children, latest first, the open
elements, innermost first, and the run of text that waits, its latest stretch first. -/
structure Draft where
  site : Site
  children : List Node
  stack : List OpenElement
  run : Option (Position × List Text)

/-- The block that the next token belongs to. -/
inductive Region
  | outside
  | template (draft : Draft)
  | other (name : Text) (depth : Nat) (site : Site) (attributes : List Attribute)

/-- A script as it was found. -/
structure FoundScript where
  position : Position
  setup : Bool
  lang : Option Text
  body : Text

/-- What has been read of a file. -/
structure State where
  markup : Option Markup
  scripts : List FoundScript
  plainSeen : Bool
  setupSeen : Bool
  region : Region

/-- Nothing has been read. -/
def State.initial : State := ⟨none, [], false, false, .outside⟩

/-- The elements that have no content. -/
def voidElements : List Text :=
  ["area", "base", "br", "col", "embed", "hr", "img", "input", "link", "meta", "param", "source",
    "track", "wbr"].map String.toList

namespace Draft

/-- The draft with one more node at the innermost open place. -/
def append (draft : Draft) (node : Node) : Draft :=
  match draft.stack with
  | [] => { draft with children := node :: draft.children }
  | top :: below => { draft with stack := { top with children := node :: top.children } :: below }

/-- The draft with the waiting run of text made into nodes. -/
def flush (draft : Draft) : Except ParseError Draft :=
  match draft.run with
  | none => .ok draft
  | some (position, stretches) =>
      match Markup.nodesOfRun position (Markup.unmasked stretches.reverse.flatten) with
      | .error place => .error (.malformed .unclosedInterpolation place)
      | .ok nodes => .ok (nodes.foldl append { draft with run := none })

/-- The draft with a stretch of text after the run that waits. -/
def addText (draft : Draft) (position : Position) (t : Text) : Draft :=
  match draft.run with
  | none => { draft with run := some (position, [t]) }
  | some (start, stretches) => { draft with run := some (start, t :: stretches) }

end Draft

open Pattern

/-- The name of a tag as written, after the sign that opens the tag. -/
def writtenName : Pattern :=
  all ["<", blanks, capture "name" (some1 fun c => !Text.isBlank c && outside "/>" c)]

/-- An attribute as written, with its value if it has one. -/
def writtenAttribute : Pattern :=
  all [
    capture "name" (some1 fun c => !Text.isBlank c && outside "\"'>/=" c),
    optional (all [
      blanks, "=", blanks,
      any [
        all ["\"", capture "value" (many (outside "\"")), "\""],
        all ["'", capture "value" (many (outside "'")), "'"],
        capture "value" (some1 fun c => !Text.isBlank c && outside "\"'=<>\x60" c)]])]

/-- The tag and the bindings of an element, from the text of its start tag. -/
def elementOf (name raw : Text) (position : Position) : Except ParseError OpenElement := do
  let hit := writtenName.leading? raw
  let tag := (hit.map (·.group "name")).getD name
  let bodyStart := (hit.map (·.stop)).getD 0
  let body := Text.dropEndWhile (· == '/') (Text.dropEndWhile (· == '>') (raw.drop bodyStart))
  let bindings ← (writtenAttribute.hits body).mapM fun hit => do
    let value ← (hit.group? "value").mapM fun value =>
      match Markup.unescape value with
      | .ok value => .ok (Markup.unmasked value)
      | .error failure => .error (ParseError.unreadable (.longNumeral failure))
    let place := position.after (raw.take (bodyStart + hit.start))
    return Binding.ofAttribute (hit.group "name") value place
  return ⟨tag, bindings, position, []⟩

/-- The value of an attribute; the last of several of the same name counts. -/
def attributeValue? (attributes : List Attribute) (name : Text) : Option (Option Text) :=
  (attributes.reverse.find? (·.name == name)).map (·.value)

/-- A top-level start tag opens a block. -/
def openBlock (state : State) (token : Token) (name : Text) (attributes : List Attribute)
    (raw : Text) : Except ParseError State :=
  let site : Site := ⟨token.offset + raw.length, token.position⟩
  if name = "template".toList then
    if state.markup.isSome then .error (.malformed .secondTemplate token.position)
    else .ok { state with region := .template ⟨site, [], [], none⟩ }
  else
    let opened := { state with region := .other name 0 site attributes }
    if name = "script".toList then
      if (attributeValue? attributes "setup").isSome then
        if state.setupSeen then .error (.malformed (.secondScript true) token.position)
        else .ok { opened with setupSeen := true }
      else if state.plainSeen then .error (.malformed (.secondScript false) token.position)
      else .ok { opened with plainSeen := true }
    else .ok opened

/-- An end tag of its own name closes a block that is no template. -/
def closeOther (source : Text) (state : State) (token : Token) (name : Text) (site : Site)
    (attributes : List Attribute) : State :=
  let outside := { state with region := .outside }
  if name = "script".toList then
    let script : FoundScript :=
      ⟨source.positionAt site.content, (attributeValue? attributes "setup").isSome,
        (attributeValue? attributes "lang").join, source.slice site.content token.offset⟩
    { outside with scripts := state.scripts ++ [script] }
  else outside

/-- An end tag inside a template closes the innermost element, or the template. -/
def closeInTemplate (source : Text) (state : State) (draft : Draft) (token : Token)
    (name : Text) : Except ParseError State := do
  let draft ← draft.flush
  match draft.stack with
  | [] =>
      if name = "template".toList then
        let content := source.slice draft.site.content token.offset
        return { state with
          markup := some ⟨.root draft.children.reverse, content, draft.site.position⟩
          region := .outside }
      else if voidElements.contains name then
        return { state with region := .template draft }
      else throw (.malformed (.invalidEndTag name) token.position)
  | top :: below =>
      if Text.lower top.tag = name then
        return { state with region := .template ({ draft with stack := below }.append top.close) }
      else if voidElements.contains name then
        return { state with region := .template draft }
      else if draft.stack.any fun element => Text.lower element.tag == name then
        throw (.malformed (.missingEndTag top.tag) top.position)
      else throw (.malformed (.invalidEndTag name) token.position)

/-- A token inside a template. -/
def inTemplate (source : Text) (state : State) (draft : Draft) (token : Token) :
    Except ParseError State :=
  match token.content with
  | .startTag name _ raw => do
      let draft ← draft.flush
      let element ← elementOf name raw token.position
      let draft :=
        if voidElements.contains name then draft.append element.close
        else { draft with stack := element :: draft.stack }
      return { state with region := .template draft }
  | .selfClosing name raw => do
      let draft ← draft.flush
      let element ← elementOf name raw token.position
      return { state with region := .template (draft.append element.close) }
  | .endTag name => closeInTemplate source state draft token name
  | .text t => .ok { state with region := .template (draft.addText token.position t) }
  | .comment t => do
      let draft ← draft.flush
      return { state with
        region := .template (draft.append (.comment (Markup.unmasked t) token.position)) }

/-- What has been read after one more token. -/
def step (source : Text) (state : State) (token : Token) : Except ParseError State :=
  match state.region, token.content with
  | .outside, .startTag name attributes raw => openBlock state token name attributes raw
  | .outside, _ => .ok state
  | .template draft, _ => inTemplate source state draft token
  | .other name depth site attributes, .startTag inner _ _ =>
      if inner = name then .ok { state with region := .other name (depth + 1) site attributes }
      else .ok state
  | .other name depth site attributes, .endTag inner =>
      if inner = name then
        match depth with
        | depth + 1 => .ok { state with region := .other name depth site attributes }
        | 0 => .ok (closeOther source state token name site attributes)
      else .ok state
  | .other _ _ _ _, _ => .ok state

/-- What has been read after the tokens, up to the first error. -/
def run (source : Text) (state : State) :
    List (Except TokenFailure Token) → Except ParseError State
  | [] => .ok state
  | .error failure :: _ => .error (.unreadable failure)
  | .ok token :: later => do run source (← step source state token) later

/-- The scripts joined by line breaks, with the offsets of each. -/
def segmentsFrom : Nat → List FoundScript → List ScriptSegment
  | _, [] => []
  | offset, script :: later =>
      ⟨offset, script.position, script.setup, script.lang⟩ ::
        segmentsFrom (offset + script.body.length + 1) later

/-- The scripts as one text, if there are any. -/
def logicOf (scripts : List FoundScript) : Option Logic :=
  if scripts.isEmpty then none
  else some ⟨Text.join ['\n'] (scripts.map (·.body)), segmentsFrom 0 scripts⟩

/-- The component that has been read when the tokens end. A template or a script must be closed. -/
def finish (state : State) : Except ParseError Component :=
  match state.region with
  | .template draft => do
      let draft ← draft.flush
      match draft.stack with
      | top :: _ => throw (.malformed (.missingEndTag top.tag) top.position)
      | [] => throw (.malformed (.missingEndTag "template") draft.site.position)
  | .other name _ site _ =>
      if name = "script".toList then
        .error (.malformed (.missingEndTag "script") site.position)
      else .ok ⟨state.markup, logicOf state.scripts⟩
  | .outside => .ok ⟨state.markup, logicOf state.scripts⟩

end Assembly

namespace Component

/-- The component that some tokens of a source text make. -/
def ofTokens (source : Text) (tokens : List (Except TokenFailure Token)) :
    Except ParseError Component := do
  Assembly.finish (← Assembly.run source .initial tokens)

/-- The component in the text of a component file. -/
def ofSource (source : Text) : Except ParseError Component :=
  ofTokens source (Markup.tokens (Markup.maskInterpolations source))

end Component

end SfcLint
