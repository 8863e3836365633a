/-
# Rules about performance

Long lists that are rendered in full, large data that is reactive on all levels, listeners that are
never removed, and libraries that are imported as a whole.
-/

import SfcLint.Rule.Basic
import SfcLint.Script.Import
import SfcLint.Script.Iteration
import SfcLint.Script.Listener
import SfcLint.Script.Size
import SfcLint.Script.Store

namespace SfcLint.Rule

open Pattern

/-! ## Lists and data -/

/-- What is said about a list of the given size. -/
def listVerdict? (size : Nat) (thresholds : Thresholds) : Option Verdict :=
  let message := s!"Large list ({size} items) without virtualization"
  let advice := "Use vue-virtual-scroller or similar library: npm install vue-virtual-scroller"
  if size < thresholds.limit .largeListMinimum then none
  else if thresholds.limit .largeListCritical ≤ size then some ⟨.critical, message, advice⟩
  else if thresholds.limit .largeListHigh ≤ size then
    some ⟨.high, message ++ " - must virtualize for performance", advice⟩
  else if thresholds.limit .virtualizationThreshold ≤ size then
    some ⟨.medium, message ++ " - should consider virtualization", advice⟩
  else some ⟨.low, message ++ " - consider virtualization for better performance", advice⟩

/-- A repeated element, judged by the size of what it iterates over. -/
def listSuspect? (code : Text) (node : Node) : Except Script.Failure (Option Suspect) :=
  match ((node.directive? "for").bind (·.expression)).bind Script.Iteration.ofExpression? with
  | none => .ok none
  | some iteration => do
      let size ← Script.listSize iteration.source code
      return some ⟨node.position, listVerdict? size⟩

/-- A long list is rendered in full. -/
def largeListNoVirtualization : Rule := fun component _ => do
  let code := component.script?.getD []
  if Script.usesVirtualization code then return []
  return (← component.elements.mapM (listSuspect? code)).filterMap id

/-- What is said about reactive data of the given size. -/
def dataVerdict? (size : Nat) (thresholds : Thresholds) : Option Verdict :=
  let message :=
    s!"Large reactive data structure ({size} items/properties) should use shallow reactivity"
  let advice := "Use shallowRef() or shallowReactive() for large datasets: " ++
    "const data = shallowRef(largeObject)"
  if size ≤ thresholds.limit .shallowReactivityMinimum then none
  else if thresholds.limit .shallowReactivityThreshold < size then
    some ⟨.high, message ++ " - critical for performance", advice⟩
  else some ⟨.medium, message, advice⟩

/-- The data that a call makes reactive. -/
def reactiveData? (call : Script.Call) : Option Text :=
  match Script.splitCommas call.args.body with
  | [] => none
  | first :: _ =>
      if call.name = "computed".toList then
        match Script.functionBody? first with
        | some (.expression body) => some (Script.withoutParens body)
        | _ => none
      else some first

/-- Reactive data, judged by its size. -/
def dataSuspect? (component : Component) (code : Text) (call : Script.Call) :
    Except Script.Failure (Option Suspect) :=
  match reactiveData? call with
  | none => .ok none
  | some expression => do
      let size ← Script.dataSize expression code
      return some ⟨component.scriptPosition call.start, dataVerdict? size⟩

/-- Large data is reactive on all levels. -/
def missingShallowReactivity : Rule := onScript fun component code => do
  let calls := Script.calls (words ["ref", "reactive", "computed"]) true code
  return (← calls.mapM (dataSuspect? component code)).filterMap id

/-! ## Listeners -/

/-- A listener is never removed. -/
def eventListenerMemoryLeak : Rule := inScript fun component code =>
  let hooks := Script.cleanupHooks code
  ((Script.listeners code).filter fun listener => !Script.hasRemoval listener hooks).map
    fun listener =>
      let event := String.ofList listener.event
      .certain (component.scriptPosition listener.offset) .critical
        s!"Event listener for '{event}' added but not removed - causes memory leak"
        ("Add removeEventListener in onUnmounted (Composition API) or beforeDestroy " ++
          "(Options API)")

/-! ## Libraries -/

/-- A library that is large: its size, how severe it is to import all of it, what to import
instead, and what it is mostly used for. -/
structure LargeLibrary where
  size : String
  severity : Severity
  recommended : String
  exports : String
  deriving DecidableEq, Repr

/-- Large libraries by name. -/
def largeLibraries : List (String × LargeLibrary) := [
  ("lodash", ⟨"~70KB", .critical, "lodash-es", "map, filter, find, cloneDeep"⟩),
  ("underscore", ⟨"~20KB", .high, "lodash-es or native methods", "map, filter, find, clone"⟩),
  ("moment", ⟨"~200KB", .critical, "dayjs or date-fns", "format, add, subtract, isValid"⟩),
  ("jquery", ⟨"~30KB", .high, "native DOM APIs", "ajax, get, post, on"⟩),
  ("axios", ⟨"~15KB", .medium, "fetch API", "get, post, put, delete"⟩)]

/-- Libraries whose parts cannot be told apart. -/
def indivisibleLibraries : List String :=
  ["lodash", "underscore", "jquery", "bluebird", "q", "async", "request", "express", "chalk",
    "colors", "commander"]

/-- The name of a module between quotes. -/
def moduleName : Pattern :=
  all [Script.plainQuote, capture "module" (some1 (outside "'\"")), Script.plainQuote]

/-- An import of some names of a module. -/
def namedImport : Pattern :=
  all [freshRoot, "import", blanks, "\x7b", many (outside "\x7d"), "\x7d", blanks, "from", blanks1,
    moduleName]

/-- An import of everything from a module. -/
def wildcardImport : Pattern :=
  all [freshRoot, "import", blanks, "*", blanks, "as", blanks1, some1 Text.isNameChar, blanks1,
    "from", blanks1, moduleName]

/-- A large library that is imported as a whole. -/
def fullImport? (component : Component) (imported : Script.ImportedModule) : Option Suspect :=
  let name := String.ofList imported.path
  (largeLibraries.lookup name).map fun library =>
    .certain (component.scriptPosition imported.offset) library.severity
      s!"Full import of '{name}' ({library.size}) prevents tree-shaking"
      ("Import specific functions: import \x7b " ++ library.exports ++ " \x7d from '" ++
        library.recommended ++ "'")

/-- Names that are imported from a library whose parts cannot be told apart. -/
def indivisibleImport? (component : Component) (hit : Hit) : Option Suspect :=
  let name := String.ofList (hit.group "module")
  if indivisibleLibraries.contains name then
    some (.certain (component.scriptPosition hit.start) .high
      s!"Import from CommonJS library '{name}' cannot be tree-shaken"
      "Use ES module version or import from specific sub-paths")
  else none

/-- Everything that is imported from a large library. -/
def everythingImport? (component : Component) (hit : Hit) : Option Suspect :=
  let name := String.ofList (hit.group "module")
  (largeLibraries.lookup name).map fun library =>
    .certain (component.scriptPosition hit.start) library.severity
      s!"Wildcard import of '{name}' ({library.size}) prevents tree-shaking"
      ("Import specific exports: import \x7b " ++ library.exports ++ " \x7d from '" ++ name ++ "'")

/-- A library is imported as a whole. -/
def fullLibraryImport : Rule := inScript fun component code =>
  (Script.defaultImports code).filterMap (fun (_, imported) => fullImport? component imported) ++
    (namedImport.hits code).filterMap (indivisibleImport? component) ++
    (wildcardImport.hits code).filterMap (everythingImport? component)

end SfcLint.Rule
