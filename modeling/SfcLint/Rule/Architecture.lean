/-
# Rules about the architecture of components

Components that do too much, that take the name of an element, that hand props on without using
them, or that reach into their neighbours.
-/

import SfcLint.Rule.Basic
import SfcLint.Script.Options
import SfcLint.Script.Props

namespace SfcLint.Rule

open Pattern

/-! ## Size -/

/-- A measure of the size of a component, and the limit for it. -/
structure SizeMeasure where
  label : String
  value : Nat
  limit : Limit
  deriving DecidableEq, Repr

/-- The measures of a component with the given code. -/
def sizeMeasures (component : Component) (code : Text) :
    Except Script.Failure (List SizeMeasure) := do
  let props ← Script.declaredProps code
  let computed ← Script.countComputed code
  return [
    ⟨"Script LOC", code.lineCount, .componentScriptLength⟩,
    ⟨"Methods", Script.countMethods code, .componentMethodCount⟩,
    ⟨"Props", props.length, .componentPropsCount⟩,
    ⟨"Computed", computed, .componentComputedCount⟩,
    ⟨"Template depth", (component.template?.map Node.depth).getD 0, .componentTemplateDepth⟩]

/-- The measures above their limits. -/
def excesses (measures : List SizeMeasure) (thresholds : Thresholds) : List SizeMeasure :=
  measures.filter fun measure => thresholds.limit measure.limit < measure.value

/-- How severe a number of measures above their limits is. -/
def excessSeverity? (count : Nat) : Option Severity :=
  if 3 < count then some .critical
  else if 2 < count then some .high
  else if 0 < count then some .medium
  else none

/-- What is said about the measures of a component. -/
def sizeVerdict? (measures : List SizeMeasure) (thresholds : Thresholds) : Option Verdict :=
  let found := excesses measures thresholds
  (excessSeverity? found.length).map fun severity =>
    ⟨severity,
      "God component detected: " ++
        ", ".intercalate (found.map fun measure => s!"{measure.label}: {measure.value}"),
      "Split component into smaller, focused components"⟩

/-- The component is too large by one measure or more. -/
def godComponent : Rule := fun component _ =>
  match component.script? with
  | none => .ok []
  | some code => do
      let measures ← sizeMeasures component code
      return [⟨Position.start, sizeVerdict? measures⟩]

/-! ## Naming -/

/-- Names of elements that a component must not take. -/
def elementNames : List Text :=
  ["div", "span", "input", "button", "form", "table", "tr", "td", "th", "ul", "li", "ol", "p", "h1",
    "h2", "h3", "h4", "h5", "h6", "a", "img", "select", "option", "textarea", "label", "section",
    "article", "header", "footer", "nav", "aside", "main"].map String.toList

/-- The component has the name of an element. -/
def singleWordComponentName : Rule := fun component path => do
  let name ← Script.componentName (component.script?.getD []) path
  return match name with
    | some name =>
        if elementNames.contains name then
          let name := String.ofList name
          [.certain Position.start .critical
            s!"Component name '{name}' conflicts with HTML element"
            s!"Rename to '{name}Component' or use PascalCase"]
        else []
    | none => []

/-! ## Coupling -/

/-- The identifier that a binding hands to a child as it is. -/
def forwardedName? (binding : Binding) : Option Text :=
  if binding.isStatic || binding.name != "bind".toList || binding.arg.all (·.isEmpty) then none
  else (binding.expression.filter Script.isIdentifier).map Text.strip

/-- The identifiers that the template hands to children as they are. -/
def forwardedNames (component : Component) : List Text :=
  component.elements.flatMap fun node => node.bindings.filterMap forwardedName?

/-- The declared props that the code does not use and the template hands on. -/
def passedProps (component : Component) (code : Text) : Except Script.Failure (List Text) := do
  let props ← Script.declaredProps code
  let used := Script.usedProps (Script.maskProps code) props
  let forwarded := forwardedNames component
  return props.filter fun prop => !used.contains prop && forwarded.contains prop

/-- How severe it is to hand on a number of props. -/
def passingSeverity? (count : Int) (thresholds : Thresholds) : Option Severity :=
  if count < thresholds.limit .propDrillingMinimum then none
  else if thresholds.limit .propDrillingHigh ≤ count then some .high
  else some .medium

/-- Props are handed on without being used. -/
def propDrilling : Rule := onScript fun component code => do
  if (← Script.declaredProps code).isEmpty then return []
  let passed ← passedProps component code
  let count := passed.length
  let names := String.ofList (Text.join ", " passed)
  return [⟨Position.start, fun thresholds => (passingSeverity? count thresholds).map fun severity =>
    ⟨severity,
      s!"Potential prop drilling: {count} props passed through without local usage ({names})",
      "Consider using provide/inject or state management instead of prop drilling"⟩⟩]

/-- The first place where the code holds the text. -/
def atFirst (part : Text) (severity : Severity) (message refactoring : String)
    (component : Component) (code : Text) : List Suspect :=
  (Text.offsetOf? part code).toList.map fun (offset : Nat) =>
    .certain (component.scriptPosition offset) severity message refactoring

/-- The ways in which a component reaches for the root, its parent or a child. -/
def instanceAccess : List (Pattern × String) :=
  [(all [freshName, "this.$root", edge], "Accessing $root creates tight coupling"),
    (all [freshName, "this.$parent.", some1 Text.isNameChar],
      "Accessing parent properties directly"),
    (all [freshName, "this.$children[", some1 Text.isDigit, "]"],
      "Accessing specific child by index")]

/-- The first place of each way in which a component reaches for its neighbours. -/
def instanceAccesses (component : Component) (code : Text) : List Suspect :=
  instanceAccess.filterMap fun (pattern, message) => (pattern.first? code).map fun hit =>
    .certain (component.scriptPosition hit.start) .high message
      "Refactor to use proper Vue.js patterns (props/events for parent-child communication)"

/-- The component changes a prop. -/
def propMutationSuspect (component : Component) (mutation : Script.PropMutation) : Suspect :=
  let site := String.ofList mutation.site
  let prop := String.ofList mutation.prop
  .certain (component.scriptPosition mutation.offset) .critical
    s!"Direct prop mutation: '{site}' on prop '{prop}' violates one-way data flow"
    "Use local data property and emit events to parent"

/-- The component reaches into its neighbours or changes what they gave it. -/
def tightCoupling : Rule := onScript fun component code => do
  let mutations ← Script.propMutations code
  return atFirst "$parent" .critical
      "Direct access to $parent violates component isolation"
      "Use props for parent-child communication or emit events" component code ++
    atFirst "$children" .critical
      "Direct access to $children violates component isolation"
      "Use $refs for specific child access or redesign component structure" component code ++
    mutations.map (propMutationSuspect component) ++
    instanceAccesses component code

end SfcLint.Rule
