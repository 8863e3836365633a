/-
# Rules about reactivity

Reactive objects that are made of the wrong thing, taken apart or replaced, computed values that
have side effects, and watchers that look too deep or only copy.
-/

import SfcLint.Rule.Basic
import SfcLint.Script.Blanking
import SfcLint.Script.Destructuring
import SfcLint.Script.Effect
import SfcLint.Script.Options
import SfcLint.Script.Size

namespace SfcLint.Rule

open Pattern

/-! ## Reactive objects -/

/-- A reactive object made of a plain value, perhaps in quotes. -/
def reactivePlainValue : Pattern :=
  all [freshRoot, "reactive", blanks, "(", blanks, capture "quote" (optional Script.quote),
    capture "value"
      (any ["true", "false", "null", "undefined", some1 Text.isDigit,
        all [many Text.isDigit, ".", some1 Text.isDigit]]),
    again "quote", blanks, ")"]

/-- A reactive object made of a quoted text. -/
def reactiveText : Pattern :=
  all [freshRoot, "reactive", blanks, "(", blanks,
    capture "value" (all [Script.quote, many fun c => !Script.isQuote c, Script.quote]), blanks, ")"]

/-- The call that should take the place of a reactive object. -/
def asReference (hit : Hit) : String :=
  let value := String.ofList (hit.group "value")
  s!"reactive({value}) → ref({value})"

/-- Reactive objects made of plain values. -/
def plainValues (component : Component) (code : Text) : List Suspect :=
  let plain := reactivePlainValue.hits code
  let texts := (reactiveText.hits code).filter fun hit => plain.all (·.start != hit.start)
  (plain.map fun hit => .certain (component.scriptPosition hit.start) .high
      "Using reactive() with primitive value - use ref() instead" (asReference hit)) ++
    texts.map fun hit => .certain (component.scriptPosition hit.start) .medium
      "Using reactive() with string literal - consider if ref() is more appropriate"
      (asReference hit)

/-- How to take members out of a reactive object. -/
def keepReferences : String :=
  "const \x7b prop \x7d = reactive(\x7b...\x7d) → " ++
    "const \x7b prop \x7d = toRefs(reactive(\x7b...\x7d))"

/-- The declarations that take a reactive object apart with nothing since the one before, given the
offset of its second character, that keeps references. -/
def unguarded (code : Text) : Nat → List Script.Destructuring → List Script.Destructuring
  | _, [] => []
  | previous, item :: items =>
      let kept := (code.slice previous item.offset).includes "toRefs("
      let later := unguarded code (item.offset + 1) items
      if item.callee = "reactive".toList ∧ ¬kept then item :: later else later

/-- An object that is assigned to a name. -/
def objectAssignment : Pattern :=
  all [freshRoot, capture "name" (some1 Text.isNameChar), blanks, "=", blanks, Script.beforeBrace]

/-- The declaration of a reactive object under a name. -/
def reactiveDeclaration (name : Text) : Pattern :=
  all [freshRoot, Script.declarator, blanks1, literal name, blanks, Script.annotation, "=", blanks,
    "reactive", edge]

/-- A keyword of a declaration at the end of a text. -/
def declaratorAtEnd : Pattern := all [Script.declarator, blanks1, stop]

/-- Keywords that may look like the name of what is assigned. -/
def declarators : List Text := ["const", "let", "var"].map String.toList

/-- The assignment replaces a reactive object. -/
def replacesReactive (code : Text) (hit : Hit) : Bool :=
  let name := hit.group "name"
  !declarators.contains name && (reactiveDeclaration name).occursIn code &&
    !declaratorAtEnd.occursIn (Text.lastLine (code.take hit.start))

/-- An object takes the place of a reactive one. -/
def replacementSuspect (component : Component) (hit : Hit) : Suspect :=
  let name := String.ofList (hit.group "name")
  .certain (component.scriptPosition hit.start) .high
    s!"Replacing entire reactive object '{name}' loses reactivity connections"
    "Update individual properties instead of replacing the entire object"

/-- A reactive object is made of a plain value, taken apart, or replaced. -/
def refReactiveConfusion : Rule := onScript fun component code => do
  let found ← Script.destructurings code
  return plainValues component code ++
    ((unguarded code 0 found).map fun item =>
      .certain (component.scriptPosition item.offset) .critical
        "Destructuring reactive object without toRefs() breaks reactivity" keepReferences) ++
    ((objectAssignment.hits code).filter (replacesReactive code)).map
      (replacementSuspect component)

/-! ## Destructuring -/

/-- What is lost when a declaration takes something reactive apart. -/
def lossOf? (code : Text) (item : Script.Destructuring) : Option Verdict :=
  let keys := String.ofList (Text.join ", " item.keys)
  let callee := String.ofList item.callee
  if callee = "reactive" then
    if Text.includes (code.take (item.stop + 100)) "toRefs(" then none
    else some
      ⟨.critical, s!"Destructuring reactive object breaks reactivity for properties: {keys}",
        keepReferences⟩
  else if callee = "ref" ∧ item.keys = ["value".toList] then
    let name := String.ofList (item.names.headD [])
    some
      ⟨.critical, "Destructuring ref's .value property breaks reactivity",
        "const \x7bvalue: " ++ name ++ "\x7d = ref(...) → const " ++ name ++ " = ref(...)"⟩
  else if callee = "defineProps" ∨ callee = "withDefaults" then
    if code.includes "toRefs(" then none
    else some
      ⟨.high, s!"Destructuring props breaks reactivity for: {keys}",
        "const \x7b prop \x7d = defineProps(...) → const props = defineProps(...); " ++
          "const \x7b prop \x7d = toRefs(props)"⟩
  else if callee = "computed" then
    some
      ⟨.medium, "Destructuring computed object may break reactivity",
        "const \x7b prop \x7d = computed(\x7b...\x7d) → const obj = computed(\x7b...\x7d); " ++
          "const \x7b prop \x7d = toRefs(obj)"⟩
  else none

/-- Something reactive is taken apart and loses its reactivity. -/
def destructuringReactivityLoss : Rule := onScript fun component code => do
  return (← Script.destructurings code).filterMap fun item =>
    (lossOf? code item).map fun verdict =>
      ⟨component.scriptPosition item.offset, fun _ => some verdict⟩

/-! ## Computed values -/

/-- A computed value with side effects. -/
def impureSuspect? (component : Component) (computed : Script.ComputedBody) : Option Suspect :=
  match Script.effects computed.body with
  | [] => none
  | effects =>
      let severity := if effects.contains .mutation || effects.contains .async then Severity.critical
        else .high
      let label := match computed.name.filter (!·.isEmpty) with
        | some name => " '" ++ String.ofList name ++ "'"
        | none => ""
      let described := ", ".intercalate (effects.map (·.description))
      some (.certain (component.scriptPosition computed.offset) severity
        s!"Impure computed property{label}: {described}"
        "Move side effects to methods, watchers, or make computed pure")

/-- A computed value has side effects. -/
def computedSideEffects : Rule := onScript fun component code => do
  return (← Script.computedBodies code).filterMap (impureSuspect? component)

/-! ## Watchers -/

/-- An option that is switched on. -/
def switchedOn (name : String) : Pattern := all [edge, name, blanks, ":", blanks, "true", edge]

/-- What is said about a watcher that looks at all levels of a source of the given size. -/
def depthVerdict (size : Nat) (thresholds : Thresholds) : Verdict :=
  let advice := "Consider shallow watching or restructuring data to avoid deep watching"
  if thresholds.limit .deepWatcherHigh < size then
    ⟨.high, s!"Deep watcher on large object ({size} properties) creates significant overhead",
      advice⟩
  else if thresholds.limit .deepWatcherMedium < size then
    ⟨.medium, s!"Deep watcher on moderately large object ({size} properties)", advice⟩
  else ⟨.low, "Using deep watcher may be expensive", advice⟩

/-- The source may be looked at on all levels without being asked to. -/
def mayBeDeep (source : Text) : Bool :=
  source.head? == some '[' || source.head? == some '\x7b' || Script.isIdentifier source

/-- A watcher that looks at all levels of its source, or may do so. -/
def watcherSuspect? (component : Component) (code : Text) (call : Script.Call) :
    Except Script.Failure (Option Suspect) :=
  match Script.splitCommas call.args.body with
  | source :: _ :: ('\x7b' :: options) :: _ =>
      let options : Text := '\x7b' :: options
      let position := component.scriptPosition call.start
      if (switchedOn "deep").occursIn options then do
        let size ← Script.watchedSize source code
        return some ⟨position, fun thresholds => some (depthVerdict size thresholds)⟩
      else if (switchedOn "immediate").occursIn options then .ok none
      else if mayBeDeep source then
        .ok (some (.certain position .low
          "Potential implicit deep watching - consider if immediate: true is needed"
          "Add immediate: true if you need initial execution, or ensure shallow watching"))
      else .ok none
  | _ => .ok none

/-- A watcher looks at all levels of its source. -/
def deepWatcherOveruse : Rule := onScript fun component code => do
  return (← (Script.plainCalls ["watch"] code).mapM (watcherSuspect? component code)).filterMap id

/-- What shows that a watcher does more than assign. -/
def watcherEffect : Pattern :=
  seq edge (words ["console.", "fetch(", "setTimeout(", "setInterval(", "clearTimeout(",
    "clearInterval(", "document.", "window.", "localStorage.", "sessionStorage.", "async", "await",
    "Promise.", "then(", "catch(", "finally("])

/-- An equals sign that assigns. -/
def assigns : Pattern := seq "=" (ahead false (one (among "=>")))

/-- An assignment to a member. -/
def memberAssignment : Pattern :=
  all [some1 Text.isNameChar, plus (seq "." (some1 Text.isNameChar)), blanks, assigns]

/-- An assignment of any kind. -/
def anyAssignment : Pattern :=
  all [some1 fun c => Text.isNameChar c || among ".[]'\"" c, blanks, optional (one (among "+-*/")),
    assigns]

/-- A declaration. -/
def declaration : Pattern := seq Script.declarator (one Text.isBlank)

/-- The pattern matches at the start of the text. -/
def begins (p : Pattern) (t : Text) : Bool := (p.leading? t).isSome

/-- The statements of a function, one in each line or before a semicolon. -/
def statements (body : Text) : List Text :=
  (Script.split body [';']).flatMap fun piece => Script.split piece ['\n']

/-- The statement assigns to something that is there already. -/
def isAssignment (statement : Text) : Bool :=
  begins anyAssignment statement && !begins declaration statement

/-- How many assignments to members a function makes that does nothing but assign. -/
def pureAssignments (body : Text) : Nat :=
  let clean := Text.strip (Script.blankComments body)
  let found := statements clean
  if watcherEffect.occursIn clean || !found.all isAssignment then 0
  else (found.filter (begins memberAssignment)).length

/-- The function that a watcher runs. -/
def watcherCallback? (call : Script.Call) : Option Text :=
  match Script.splitCommas call.args.body with
  | [] => none
  | first :: rest =>
      let callback := if call.name = "watchEffect".toList then some first else rest.head?
      ((callback.bind Script.functionBody?).bind (·.block?)).map (·.body)

/-- A watcher that does nothing but assign to members. -/
def copyingSuspect? (component : Component) (call : Script.Call) : Option Suspect :=
  let position := component.scriptPosition call.start
  let advice := "Replace watcher with computed property: " ++
    "const computedValue = computed(() => \x7b /* logic */ \x7d)"
  (watcherCallback? call).bind fun body =>
    match pureAssignments body with
    | 0 => none
    | 1 => some (.certain position .medium
        "Watcher only assigns to reactive state - should be computed property" advice)
    | _ => some (.certain position .high
        "Watcher performs multiple reactive assignments - should be computed properties" advice)

/-- A watcher does what a computed value is for. -/
def watcherShouldBeComputed : Rule := inScript fun component code =>
  (Script.plainCalls ["watch", "watchEffect"] code).filterMap (copyingSuspect? component)

end SfcLint.Rule
