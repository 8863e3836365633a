/-
# Rules about state

Stores whose mutations wait for something, that are too large or need each other, stores that are
asked for too late, state that belongs in a store, and values that are handed down without a type.
-/

import SfcLint.Rule.Basic
import SfcLint.Script.Effect
import SfcLint.Script.Store

namespace SfcLint.Rule

open Pattern

/-! ## Stores with sections -/

/-- A mutation that waits for something. -/
def asyncMutation? (component : Component) (handler : Script.NamedBody) : Option Suspect :=
  if Script.asyncMarker.occursIn handler.body then
    let name := String.ofList handler.name
    some (.certain (component.scriptPosition handler.offset) .critical
      (s!"Vuex mutation '{name}' contains async operations - " ++
        "mutations must be synchronous")
      ("Move async operations to actions: actions: \x7b asyncAction(\x7b commit \x7d) " ++
        "\x7b commit('syncMutation') \x7d \x7d"))
  else none

/-- A mutation waits for something. -/
def vuexAsyncInMutation : Rule := onScript fun component code => do
  let handlers ← (Script.mutationBlocks code).mapM Script.handlers
  return handlers.flatten.filterMap (asyncMutation? component)

/-- A measure of the size of a store, what is said when it is too large, and its limits. -/
structure StoreMeasure where
  value : Nat
  table : TierTable
  message : String
  refactoring : String
  deriving DecidableEq, Repr

/-- How many members with a key a section of a store has. -/
def sectionSize (block : Script.Span) (key : String) : Except Script.Failure Nat := do
  match ← Script.storeSection? block key.toList with
  | none => return 0
  | some members => do
      let entries ← Script.objectEntries members
      return (entries.filter fun entry => entry.key.any (!·.isEmpty)).length

/-- The measures of a store. -/
def storeMeasures (code : Text) (block : Script.Span) :
    Except Script.Failure (List StoreMeasure) := do
  let state ← sectionSize block "state"
  let mutations ← sectionSize block "mutations"
  let actions ← sectionSize block "actions"
  let getters ← sectionSize block "getters"
  let lines := Text.lineCount (code.slice block.start (block.stop + 1))
  return [
    ⟨state, .vuexState, s!"Vuex store has {state} state properties",
      "Split store into domain-specific modules using Vuex modules"⟩,
    ⟨mutations, .vuexMutation, s!"Vuex store has {mutations} mutations",
      "Decompose mutations into domain-specific modules"⟩,
    ⟨actions, .vuexAction, s!"Vuex store has {actions} actions",
      "Split async logic into feature-specific action modules"⟩,
    ⟨getters, .vuexGetter, s!"Vuex store has {getters} getters",
      "Extract computed properties into separate getter modules"⟩,
    ⟨lines, .vuexStoreLine, s!"Vuex store module is {lines} lines",
      "Refactor into multiple domain-driven store modules"⟩]

/-- What is said about a measure of a store. -/
def storeVerdict? (measure : StoreMeasure) (thresholds : Thresholds) : Option Verdict :=
  ((thresholds.tiers measure.table).classify measure.value).map fun severity =>
    ⟨severity, s!"{measure.message} ({severity.name} threshold exceeded)", measure.refactoring⟩

/-- A store is too large by one measure or more. -/
def vuexGodStore : Rule := onScript fun component code => do
  let blocks ← Script.storeBlocks code
  let suspects ← blocks.mapM fun block => do
    return (← storeMeasures code block).map fun measure =>
      (⟨component.scriptPosition block.start, storeVerdict? measure⟩ : Suspect)
  return suspects.flatten

/-! ## Stores with an identifier -/

/-- Each pair of a list's members, in order. -/
def pairs : List α → List (α × α)
  | [] => []
  | a :: as => as.map (fun b => (a, b)) ++ pairs as

/-- Two stores need each other. -/
def isCircular (pair : Script.StoreDefinition × Script.StoreDefinition) : Bool :=
  pair.1.id != pair.2.id && Script.referencesStore pair.1.body pair.2 &&
    Script.referencesStore pair.2.body pair.1

/-- A store that is asked for by its quoted name. -/
def storeByName : Pattern :=
  all [freshRoot, "useStore", blanks, "(", blanks, Script.quote,
    capture "name" (some1 fun c => !Script.isQuote c), Script.quote, blanks, ")"]

/-- Several stores are asked for by name. -/
def storesTogether (component : Component) (code : Text) : List Suspect :=
  let hits := storeByName.hits code
  match hits, (hits.map (·.group "name")).eraseDups with
  | first :: _, names@(_ :: _ :: _) =>
      let listed := String.ofList (Text.join ", " names)
      [.certain (component.scriptPosition first.start) .medium
        ("Multiple Pinia stores used together - monitor for circular dependencies: " ++ listed)
        "Ensure stores don't read each other's state during initialization"]
  | _, _ => []

/-- Stores need each other, or might. -/
def piniaCircularDependency : Rule := onScript fun component code => do
  let stores ← Script.storeDefinitions code
  return ((pairs stores).filter isCircular).map (fun (store, other) =>
      let id := String.ofList store.id
      let otherId := String.ofList other.id
      .certain (component.scriptPosition store.offset) .critical
        s!"Circular dependency between Pinia stores '{id}' and '{otherId}'"
        "Move cross-store reads to actions or getters for lazy evaluation") ++
    storesTogether component code

/-- The keyword of an asynchronous function. -/
def asyncKeyword : Pattern := all [freshRoot, "async", blanks1]

/-- The name of a method, up to its parameters. -/
def methodName : Pattern :=
  all [ahead false (seq "function" edge), identifier, blanks, ahead true "("]

/-- The function that sets a component up, up to its parameters. -/
def setupFunction : Pattern :=
  all [freshRoot, "setup", blanks, optional (all [":", blanks]), Script.beforeFunction]

/-- Where a function may start, and the offset to read it from. -/
def functionStarts (code : Text) : List (Nat × Nat) :=
  ((asyncKeyword.hits code).map fun hit =>
    (hit.start, match methodName.leading? hit.rest with
      | some name => hit.stop + name.stop
      | none => hit.start)) ++
  (setupFunction.hits code).map fun hit => (hit.start, hit.stop)

/-- The block of the function that is read from an offset, with the offset of the block. -/
def blockFrom? (code : Text) (offset : Nat) : Option (Nat × Text) :=
  ((Script.functionBody? (code.drop offset)).bind (·.block?)).map fun block =>
    (offset + block.start, block.body)

/-- The blocks of asynchronous functions and of functions that set a component up, each once and
with the offset where its function starts. -/
def waitingBlocks (code : Text) : List (Nat × Text) :=
  let found := (functionStarts code).filterMap fun (first, offset) =>
    (blockFrom? code offset).map fun (place, body) => (place, first, body)
  let once := found.foldl (fun kept item =>
    if kept.any (·.1 == item.1) then kept else kept ++ [item]) []
  (once.map (·.2)).mergeSort fun a b => a.1 ≤ b.1

/-- A call that asks for a store. -/
def storeCall : Pattern :=
  all [freshRoot,
    any ["useStore",
      all ["use", one fun c => 'A' ≤ c && c ≤ 'Z', many Text.isNameChar, "Store"]],
    blanks, "("]

/-- The keyword that waits. -/
def awaitKeyword : Pattern := all [freshRoot, "await", nameEnds]

/-- A store is asked for after the first wait. -/
def asksAfterWaiting (body : Text) : Bool :=
  match awaitKeyword.first? body with
  | some hit => (storeCall.firstFrom? hit.stop hit.text.getLast? hit.rest).isSome
  | none => false

/-- What is to be done when something is there. -/
def thenCall : Pattern := all [".then", blanks, "("]

/-- A store is asked for when something is there. -/
def asksInChain (code : Text) (hit : Hit) : Bool :=
  match (Script.spanAt? code (hit.stop - 1)).map fun span => Script.splitCommas span.body with
  | some (first :: _) => (Script.functionBody? first).any fun body => storeCall.occursIn body.text
  | _ => false

/-- A store is asked for too late. -/
def piniaUsestoreAfterAwait : Rule := inScript fun component code =>
  (((waitingBlocks code).filter fun block => asksAfterWaiting block.2).map fun block =>
    .certain (component.scriptPosition block.1) .critical
      "useStore() called after await - may use wrong Pinia instance in SSR"
      "Move useStore() calls before any await statements or use store instance from parameter") ++
  ((thenCall.hits code).filter (asksInChain code)).map fun hit =>
    .certain (component.scriptPosition hit.start) .high
      "useStore() in promise chain - may cause SSR context issues"
      "Capture store instance before async operations"

/-! ## State of an application -/

/-- Names that usually stand for state of a whole application, by what they stand for. -/
def sharedNames : List (String × List String) := [
  ("authentication",
    ["isAuthenticated", "isLoggedIn", "user", "currentUser", "authToken", "session"]),
  ("preferences",
    ["theme", "darkMode", "lightMode", "colorScheme", "language", "locale", "preferences"]),
  ("app state",
    ["isLoading", "loading", "globalLoading", "appState", "sidebarOpen", "menuOpen"]),
  ("settings", ["settings", "config", "configuration", "userSettings", "appConfig"]),
  ("cache", ["cache", "cachedData", "apiCache", "dataCache"])]

/-- What a name usually stands for, if it is state of a whole application. -/
def sharedKind? (name : Text) : Option String :=
  (sharedNames.find? fun entry => entry.2.contains (String.ofList name)).map (·.1)

/-- The function that gives a component its state, up to its parameters. -/
def localStateFunction : Pattern :=
  all [freshRoot, words ["data", "setup"], blanks, optional (all [":", blanks]),
    Script.beforeFunction]

/-- The keys of the members of an object that have one. -/
def memberKeys (members : Text) : Except Script.Failure (List Text) := do
  return ((← Script.objectEntries members).filterMap (·.key)).filter (!·.isEmpty)

/-- The keys of the objects that a function returns. -/
def returnedKeys : Script.FunctionBody → Except Script.Failure (List Text)
  | .expression t =>
      match Script.objectBody? (Script.withoutParens (Text.strip t)) with
      | some members => memberKeys members
      | none => .ok []
  | .block span => do
      let objects := (Script.returnObject.hits span.body).filterMap fun hit =>
        Script.spanAt? span.body hit.stop
      return (← objects.mapM fun object => memberKeys object.body).flatten

/-- Of some names, the first for each kind of state that belongs in a store. -/
def firstOfKinds (names : List Text) : List (String × Text) :=
  let found := names.filterMap fun name => (sharedKind? name).map fun kind => (kind, name)
  found.foldl (fun kept item => if kept.any (·.1 == item.1) then kept else kept ++ [item]) []

/-- State in the result of a function that belongs in a store. -/
def returnedState (component : Component) (hit : Hit) : Except Script.Failure (List Suspect) :=
  match Script.functionBody? hit.rest with
  | none => .ok []
  | some body => do
      return (firstOfKinds (← returnedKeys body)).map fun (kind, name) =>
        let name := String.ofList name
        .certain (component.scriptPosition hit.start) .high
          s!"{kind} state '{name}' should be in global store, not local component state"
          ("Move to Pinia/Vuex store: defineStore() or createStore() for " ++
            "shared state management")

/-- A variable that holds something reactive. -/
def localReference : Pattern :=
  all [freshRoot, words ["const", "let"], blanks1, capture "name" identifier, blanks, "=", blanks,
    words ["ref", "reactive"], blanks, optional (all ["<", many (outside "()"), ">"]), blanks, "("]

/-- A variable that belongs in a store. -/
def variableSuspect? (component : Component) (hit : Hit) : Option Suspect :=
  (sharedKind? (hit.group "name")).map fun kind =>
    let name := String.ofList (hit.group "name")
    .certain (component.scriptPosition hit.start) .medium
      s!"Variable '{name}' appears to be global {kind} - should use Pinia/Vuex store"
      "Extract to store: const useStore = defineStore('name', () => \x7b ... \x7d)"

/-- A component keeps state for itself that belongs in a store. -/
def stateLocalizationAntipattern : Rule := onScript fun component code => do
  let mentions (part : String) : Bool := code.includes part.toList
  let returned ←
    if mentions "provide(" || mentions "provide," then .ok []
    else (localStateFunction.hits code).mapM (returnedState component)
  let declared :=
    if mentions "defineStore" || mentions "createStore" || mentions "provide" then []
    else (localReference.hits code).filterMap (variableSuspect? component)
  return returned.flatten ++ declared

/-! ## Values that are handed down -/

/-- The text starts and ends with the same quote and has none inside. -/
def isQuotedKey (t : Text) : Bool :=
  match t with
  | first :: rest =>
      Script.isQuote first && rest.getLast? == some first && !rest.dropLast.contains first
  | [] => false

/-- The key that marks a value with its type. -/
def typedKey : Pattern := whole "InjectionKey"

/-- A call that hands a value down, or takes one, under a key without a type. -/
def injectionSuspect? (component : Component) (call : Script.Call) : Option Suspect :=
  let position := component.scriptPosition call.start
  match Script.splitCommas call.args.body with
  | [] => none
  | key :: rest =>
      if !isQuotedKey key then none
      else if call.name.endsWith "provide" then
        some (.certain position .high
          "provide() uses string key without InjectionKey - lacks type safety"
          ("Use InjectionKey: const key = Symbol() as InjectionKey<Type>; " ++
            "provide(key, value)"))
      else if rest.isEmpty then
        some (.certain position .high
          "inject() uses string key without default value - may cause runtime errors"
          ("Provide default value: inject(key, defaultValue) or use InjectionKey " ++
            "for type safety"))
      else none

/-- Values are handed down, and no key in the code marks a type. -/
def withoutTypedKey (component : Component) (code : Text) (calls : List Script.Call) :
    List Suspect :=
  match calls with
  | first :: _ =>
      if typedKey.occursIn code then []
      else
        [.certain (component.scriptPosition first.start) .medium
          "Component uses provide/inject without InjectionKey for type safety"
          ("Import InjectionKey: import type \x7b InjectionKey \x7d from 'vue'; " ++
            "const key = Symbol() as InjectionKey<Type>")]
  | [] => []

/-- Values are handed down without a type. -/
def untypedProvideInject : Rule := inScript fun component code =>
  let calls := Script.calls Script.injectionFunction false code
  calls.filterMap (injectionSuspect? component) ++ withoutTypedKey component code calls

end SfcLint.Rule
