/-
# Anti-patterns

The closed catalogue of anti-patterns, each in one category. The order of the catalogue is the
order in which a component is checked.
-/

import SfcLint.Issue.Severity
import SfcLint.Json.Printer

namespace SfcLint

/-- The groups that anti-patterns fall into. -/
inductive Category
  | template
  | architecture
  | reactivity
  | state
  | routing
  | performance
  | typeSafety
  | testing
  deriving DecidableEq, Repr

namespace Category

/-- All categories, in the order of the catalogue. -/
def every : List Category :=
  [template, architecture, reactivity, state, routing, performance, typeSafety, testing]

/-- The name of a category. -/
def name : Category → String
  | template => "template"
  | architecture => "architecture"
  | reactivity => "reactivity"
  | state => "state"
  | routing => "routing"
  | performance => "performance"
  | typeSafety => "type-safety"
  | testing => "testing"

/-- The category of a name. -/
def ofName? (name : String) : Option Category := every.find? (·.name == name)

/-- Some names are not those of categories. -/
structure UnknownNames where
  names : List String
  deriving DecidableEq, Repr

/-- How unknown names are reported. -/
def UnknownNames.message (failure : UnknownNames) : String :=
  "Unknown category: " ++ ", ".intercalate failure.names ++ ". Valid: " ++
    (Json.list (every.map fun category => .string category.name)).shown

/-- The categories of some names. -/
def readAll (names : List String) : Except UnknownNames (List Category) :=
  match names.filter fun name => (ofName? name).isNone with
  | [] => .ok (names.filterMap ofName?)
  | unknown => .error ⟨unknown⟩

end Category

/-- The anti-patterns that are looked for. -/
inductive AntiPattern
  | vifWithVfor
  | vforWithoutKey
  | vforIndexAsKey
  | complexTemplateExpression
  | vhtmlXssRisk
  | deepTemplateNesting
  | godComponent
  | singleWordComponentName
  | propDrilling
  | tightCoupling
  | refReactiveConfusion
  | destructuringReactivityLoss
  | computedSideEffects
  | deepWatcherOveruse
  | watcherShouldBeComputed
  | vuexAsyncInMutation
  | vuexGodStore
  | piniaCircularDependency
  | piniaUsestoreAfterAwait
  | stateLocalizationAntipattern
  | untypedProvideInject
  | infiniteNavigationLoop
  | missingLazyLoading
  | godGuardAntipattern
  | largeListNoVirtualization
  | missingShallowReactivity
  | eventListenerMemoryLeak
  | fullLibraryImport
  | untypedProps
  | untypedEmits
  | refTypeInferenceIssues
  | implementationTesting
  | piniaStateLeak
  | snapshotOveruse
  deriving DecidableEq, Repr

namespace AntiPattern

/-- The catalogue. -/
def catalogue : List AntiPattern :=
  [vifWithVfor, vforWithoutKey, vforIndexAsKey, complexTemplateExpression, vhtmlXssRisk,
    deepTemplateNesting, godComponent, singleWordComponentName, propDrilling, tightCoupling,
    refReactiveConfusion, destructuringReactivityLoss, computedSideEffects, deepWatcherOveruse,
    watcherShouldBeComputed, vuexAsyncInMutation, vuexGodStore, piniaCircularDependency,
    piniaUsestoreAfterAwait, stateLocalizationAntipattern, untypedProvideInject,
    infiniteNavigationLoop, missingLazyLoading, godGuardAntipattern, largeListNoVirtualization,
    missingShallowReactivity, eventListenerMemoryLeak, fullLibraryImport, untypedProps,
    untypedEmits, refTypeInferenceIssues, implementationTesting, piniaStateLeak, snapshotOveruse]

/-- The identifier of an anti-pattern in reports. -/
def id : AntiPattern → String
  | vifWithVfor => "VIF_WITH_VFOR"
  | vforWithoutKey => "VFOR_WITHOUT_KEY"
  | vforIndexAsKey => "VFOR_INDEX_AS_KEY"
  | complexTemplateExpression => "COMPLEX_TEMPLATE_EXPRESSION"
  | vhtmlXssRisk => "VHTML_XSS_RISK"
  | deepTemplateNesting => "DEEP_TEMPLATE_NESTING"
  | godComponent => "GOD_COMPONENT"
  | singleWordComponentName => "SINGLE_WORD_COMPONENT_NAME"
  | propDrilling => "PROP_DRILLING"
  | tightCoupling => "TIGHT_COUPLING"
  | refReactiveConfusion => "REF_REACTIVE_CONFUSION"
  | destructuringReactivityLoss => "DESTRUCTURING_REACTIVITY_LOSS"
  | computedSideEffects => "COMPUTED_SIDE_EFFECTS"
  | deepWatcherOveruse => "DEEP_WATCHER_OVERUSE"
  | watcherShouldBeComputed => "WATCHER_SHOULD_BE_COMPUTED"
  | vuexAsyncInMutation => "VUEX_ASYNC_IN_MUTATION"
  | vuexGodStore => "VUEX_GOD_STORE"
  | piniaCircularDependency => "PINIA_CIRCULAR_DEPENDENCY"
  | piniaUsestoreAfterAwait => "PINIA_USESTORE_AFTER_AWAIT"
  | stateLocalizationAntipattern => "STATE_LOCALIZATION_ANTIPATTERN"
  | untypedProvideInject => "UNTYPED_PROVIDE_INJECT"
  | infiniteNavigationLoop => "INFINITE_NAVIGATION_LOOP"
  | missingLazyLoading => "MISSING_LAZY_LOADING"
  | godGuardAntipattern => "GOD_GUARD_ANTIPATTERN"
  | largeListNoVirtualization => "LARGE_LIST_NO_VIRTUALIZATION"
  | missingShallowReactivity => "MISSING_SHALLOW_REACTIVITY"
  | eventListenerMemoryLeak => "EVENT_LISTENER_MEMORY_LEAK"
  | fullLibraryImport => "FULL_LIBRARY_IMPORT"
  | untypedProps => "UNTYPED_PROPS"
  | untypedEmits => "UNTYPED_EMITS"
  | refTypeInferenceIssues => "REF_TYPE_INFERENCE_ISSUES"
  | implementationTesting => "IMPLEMENTATION_TESTING"
  | piniaStateLeak => "PINIA_STATE_LEAK"
  | snapshotOveruse => "SNAPSHOT_OVERUSE"

/-- The category of an anti-pattern. -/
def category : AntiPattern → Category
  | vifWithVfor | vforWithoutKey | vforIndexAsKey | complexTemplateExpression | vhtmlXssRisk
  | deepTemplateNesting => .template
  | godComponent | singleWordComponentName | propDrilling | tightCoupling => .architecture
  | refReactiveConfusion | destructuringReactivityLoss | computedSideEffects | deepWatcherOveruse
  | watcherShouldBeComputed => .reactivity
  | vuexAsyncInMutation | vuexGodStore | piniaCircularDependency | piniaUsestoreAfterAwait
  | stateLocalizationAntipattern | untypedProvideInject => .state
  | infiniteNavigationLoop | missingLazyLoading | godGuardAntipattern => .routing
  | largeListNoVirtualization | missingShallowReactivity | eventListenerMemoryLeak
  | fullLibraryImport => .performance
  | untypedProps | untypedEmits | refTypeInferenceIssues => .typeSafety
  | implementationTesting | piniaStateLeak | snapshotOveruse => .testing

/-- The anti-pattern of an identifier. -/
def ofId? (id : String) : Option AntiPattern := catalogue.find? (·.id == id)

/-- The identifiers of the catalogue in the order of their characters. -/
def sortedIds : List String := (catalogue.map id).mergeSort fun a b => a ≤ b

/-- The categories with the anti-patterns of each. -/
def byCategory : List (Category × List AntiPattern) :=
  Category.every.map fun category => (category, catalogue.filter (·.category == category))

/-- The anti-patterns of the named categories, in the order of the catalogue. No name at all
stands for every category. -/
def select (names : List String) : Except Category.UnknownNames (List AntiPattern) :=
  if names.isEmpty then .ok catalogue
  else do
    let wanted ← Category.readAll names
    return catalogue.filter fun pattern => wanted.contains pattern.category

end AntiPattern

end SfcLint
