/-
# Checks

A check looks for the issues of one anti-pattern and may fail. Checks run one after the other and
do not disturb each other: the issues of those that succeed are reported together, the most severe
first, and each one that fails leaves an error and an event.
-/

import SfcLint.Analysis.Event
import SfcLint.Issue.AntiPattern
import SfcLint.Rule.Architecture
import SfcLint.Rule.Performance
import SfcLint.Rule.Reactivity
import SfcLint.Rule.Routing
import SfcLint.Rule.State
import SfcLint.Rule.Template
import SfcLint.Rule.Testing
import SfcLint.Rule.Typing

namespace SfcLint

/-- The rule that finds an anti-pattern. -/
def AntiPattern.rule : AntiPattern → Rule
  | vifWithVfor => Rule.vifWithVfor
  | vforWithoutKey => Rule.vforWithoutKey
  | vforIndexAsKey => Rule.vforIndexAsKey
  | complexTemplateExpression => Rule.complexTemplateExpression
  | vhtmlXssRisk => Rule.vhtmlXssRisk
  | deepTemplateNesting => Rule.deepTemplateNesting
  | godComponent => Rule.godComponent
  | singleWordComponentName => Rule.singleWordComponentName
  | propDrilling => Rule.propDrilling
  | tightCoupling => Rule.tightCoupling
  | refReactiveConfusion => Rule.refReactiveConfusion
  | destructuringReactivityLoss => Rule.destructuringReactivityLoss
  | computedSideEffects => Rule.computedSideEffects
  | deepWatcherOveruse => Rule.deepWatcherOveruse
  | watcherShouldBeComputed => Rule.watcherShouldBeComputed
  | vuexAsyncInMutation => Rule.vuexAsyncInMutation
  | vuexGodStore => Rule.vuexGodStore
  | piniaCircularDependency => Rule.piniaCircularDependency
  | piniaUsestoreAfterAwait => Rule.piniaUsestoreAfterAwait
  | stateLocalizationAntipattern => Rule.stateLocalizationAntipattern
  | untypedProvideInject => Rule.untypedProvideInject
  | infiniteNavigationLoop => Rule.infiniteNavigationLoop
  | missingLazyLoading => Rule.missingLazyLoading
  | godGuardAntipattern => Rule.godGuardAntipattern
  | largeListNoVirtualization => Rule.largeListNoVirtualization
  | missingShallowReactivity => Rule.missingShallowReactivity
  | eventListenerMemoryLeak => Rule.eventListenerMemoryLeak
  | fullLibraryImport => Rule.fullLibraryImport
  | untypedProps => Rule.untypedProps
  | untypedEmits => Rule.untypedEmits
  | refTypeInferenceIssues => Rule.refTypeInferenceIssues
  | implementationTesting => Rule.implementationTesting
  | piniaStateLeak => Rule.piniaStateLeak
  | snapshotOveruse => Rule.snapshotOveruse

/-- The issues of an anti-pattern in a component, in the order in which its rule finds them. -/
def AntiPattern.issues (pattern : AntiPattern) (component : Component) (path : String)
    (thresholds : Thresholds) : Except Script.Failure (List Issue) := do
  return (← pattern.rule component path.toList).filterMap (·.issue? pattern.id thresholds)

/-- A named way to find issues, which may fail with a reason. -/
structure Check where
  id : String
  run : Component → String → Thresholds → Except String (List Issue)

/-- The check for an anti-pattern. -/
def AntiPattern.check (pattern : AntiPattern) : Check :=
  ⟨pattern.id, fun component path thresholds =>
    (pattern.issues component path thresholds).mapError Script.Failure.message⟩

namespace Check

/-- What a check came to: its issues or the reason why it failed. -/
abbrev Outcome := String × Except String (List Issue)

/-- The issues of a check, if it succeeded. -/
def Outcome.issues : Outcome → List Issue
  | (_, .ok issues) => issues
  | (_, .error _) => []

/-- The name of a check that failed, and the reason. -/
def Outcome.failure? : Outcome → Option (String × String)
  | (_, .ok _) => none
  | (id, .error reason) => some (id, reason)

/-- What the checks come to, one after the other. -/
def outcomes (checks : List Check) (component : Component) (path : String)
    (thresholds : Thresholds) : List Outcome :=
  checks.map fun check => (check.id, check.run component path thresholds)

/-- The result for a file that the checks came to. -/
def collect (path : String) (outcomes : List Outcome) : Run FileResult :=
  let failures := outcomes.filterMap Outcome.failure?
  ⟨failures.map fun (id, reason) => .checkFailed path id reason,
    path, Issue.sort (outcomes.flatMap Outcome.issues),
    failures.map fun (id, reason) => id ++ ": " ++ reason⟩

/-- The result of running checks on a component. -/
def runAll (checks : List Check) (component : Component) (path : String) (thresholds : Thresholds) :
    Run FileResult :=
  collect path (outcomes checks component path thresholds)

end Check

end SfcLint
