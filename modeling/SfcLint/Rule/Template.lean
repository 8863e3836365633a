/-
# Rules about templates

Repetition without a usable key or together with a condition, expressions that are too complex for
a template, markup from data, and nesting that is too deep.
-/

import SfcLint.Rule.Basic
import SfcLint.Script.Iteration
import SfcLint.Script.Phrase
import SfcLint.Text.Case

namespace SfcLint.Rule

open Pattern

/-- An element is repeated and conditional at once. -/
def vifWithVfor : Rule := ofSuspects fun component _ =>
  (component.elements.filter fun node => node.hasDirective "for" && node.hasDirective "if").map
    fun node =>
      .certain node.position .critical
        "Using v-if and v-for on the same element creates undefined behavior"
        ("<li v-for=\"user in users\" v-if=\"user.isActive\"> → " ++
          "<li v-for=\"user in activeUsers\"> where activeUsers = " ++
          "computed(() => users.filter(u => u.isActive))")

/-- The path holds the marker, in any mixture of cases and with either slash. -/
def isEscalated (path : Text) : Option String → Bool
  | none => false
  | some marker =>
      !marker.isEmpty &&
        (Text.lower (path.map fun c => if c = '\\' then '/' else c)).includes
          (Text.lower marker.toList)

/-- A repeated element has no key. -/
def vforWithoutKey : Rule := ofSuspects fun component path =>
  (component.elements.filter fun node => node.hasDirective "for" && !node.hasKey).map fun node =>
    ⟨node.position, fun thresholds => some
      ⟨if isEscalated path thresholds.marker then .critical else .high,
        "Missing :key attribute in v-for iteration",
        "Add :key=\"uniqueId\" to the iterated element"⟩⟩

/-- Names that stand for an index where an iteration has none of its own. -/
def usualIndexNames : List Text := ["index", "idx"].map String.toList

/-- The names of the index of an iteration. -/
def indexNames (iteration : Script.Iteration) : List Text :=
  match iteration.indexAlias? with
  | some name => [name]
  | none => usualIndexNames

/-- The key of a repeated element is the index of its iteration. -/
def isKeyedByIndex (node : Node) : Bool :=
  match node.directive? "for", (node.boundAttribute? "key").bind (·.expression) with
  | some directive, some (c :: key) =>
      match directive.expression.bind Script.Iteration.ofExpression? with
      | some iteration => (indexNames iteration).contains (Text.strip (c :: key))
      | none => false
  | _, _ => false

/-- A repeated element has its index as its key. -/
def vforIndexAsKey : Rule := ofSuspects fun component _ =>
  (component.elements.filter isKeyedByIndex).map fun node =>
    .certain node.position .high
      "Using array index as v-for key causes incorrect component reuse"
      "Use unique identifier instead of array index for :key"

/-- How severe it is to have the expression in a template. -/
def expressionSeverity? (expression : Text) (thresholds : Thresholds) : Option Severity :=
  let length : Int := expression.length
  let hasCall := expression.contains '(' && expression.contains ')'
  let members : Int := expression.count '.' + 1
  let hasChoice := expression.contains '?' || expression.includes "&&" || expression.includes "||"
  if thresholds.limit .templateExpressionLength < length ∨ hasCall then some .critical
  else if thresholds.limit .templateExpressionLengthHigh < length ∨
      thresholds.limit .templateMemberChainDepth < members then some .high
  else if thresholds.limit .templateExpressionLengthMedium < length ∨ hasChoice then some .medium
  else none

/-- An expression in a text of the template. -/
def interpolationSuspect? : Node → Option Suspect
  | .interpolation expression position => some
      ⟨position, fun thresholds => (expressionSeverity? expression thresholds).map fun severity =>
        let length := expression.length
        ⟨severity,
          s!"Complex template expression ({length} chars) violates separation of concerns",
          "Move complex logic to computed property or method"⟩⟩
  | _ => none

/-- An expression in the template is too complex. -/
def complexTemplateExpression : Rule := ofSuspects fun component _ =>
  component.nodes.filterMap interpolationSuspect?

/-- A quoted text without quotes, backslashes or placeholders inside, and nothing else. -/
def fixedText : Pattern :=
  all [start, blanks,
    any [
      all ["'", many (outside "'\\"), "'"],
      all ["\"", many (outside "\"\\"), "\""],
      all ["\x60", many (outside "\x60$\\"), "\x60"]],
    blanks, stop]

/-- What shows that an expression takes its value from somewhere else. -/
def derivedValue : Pattern :=
  any ["\x7b\x7b", "$", "(", "[",
    all [one fun c => Text.isNameChar c || c == ')' || c == ']', blanks, optional "?", ".",
      blanks, one Text.isNameStart]]

/-- How severe it is to take markup from the expression. -/
def markupSeverity? (expression : Text) : Option Severity :=
  if expression.isEmpty || (fixedText.leading? expression).isSome then none
  else if derivedValue.occursIn expression then some .critical
  else some .high

/-- Markup is taken from data. -/
def vhtmlXssRisk : Rule := ofSuspects fun component _ =>
  component.elements.filterMap fun node =>
    ((node.directive? "html").bind (·.expression)).bind fun expression =>
      (markupSeverity? expression).map fun severity =>
        .certain node.position severity
          "Using v-html with dynamic content creates XSS vulnerability"
          "Use text interpolation or sanitize content before using v-html"

/-- How severe a depth of nesting is. -/
def nestingSeverity? (depth : Int) (thresholds : Thresholds) : Option Severity :=
  if depth ≤ thresholds.limit .templateDepth then none
  else if thresholds.limit .deepTemplateDepth < depth then some .critical
  else if thresholds.limit .templateDepthHigh < depth then some .high
  else some .medium

/-- The template is nested too deeply. -/
def deepTemplateNesting : Rule := ofSuspects fun component _ =>
  component.template?.toList.map fun root =>
    let depth := root.depth
    ⟨Position.start, fun thresholds => (nestingSeverity? depth thresholds).map fun severity =>
      ⟨severity, s!"Template nesting depth of {depth} exceeds recommended limit",
        "Extract nested content into separate components"⟩⟩

end SfcLint.Rule
