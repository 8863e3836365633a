/-
# Rules about tests

Tests that look inside a component, that share stores with each other, or that compare snapshots
where they should say what they expect. These rules have nothing to say about other files.
-/

import SfcLint.Rule.Basic
import SfcLint.Script.Import
import SfcLint.Script.Suite

namespace SfcLint.Rule

open Pattern

/-- A rule about the script of a test. -/
def inTest (suspects : Component → Text → List Suspect) : Rule := fun component path =>
  if Script.isTestFile path then inScript suspects component path else .ok []

/-! ## Looking inside -/

/-- An expectation about a member of something, in one line. -/
def expectedMember (member : String) : Pattern :=
  all [freshRoot, "expect(", run false (· != '\n'), member, some1 Text.isNameChar]

/-- The ways in which a test looks inside a component. -/
def insideAccess : List Pattern :=
  [all [freshRoot, "wrapper.vm.", some1 Text.isNameChar],
    all [freshName, "setData", blanks, "("],
    all [freshRoot, "wrapper.setProps", blanks, "("],
    expectedMember ".computed.", expectedMember ".data."]

/-- A place where a test looks inside a component. -/
def insideSuspect (component : Component) (hit : Hit) : Suspect :=
  let text := String.ofList hit.text
  .certain (component.scriptPosition hit.start) .medium
    s!"Test accesses internal implementation: {text}"
    "Test behavior (rendered output, events) instead of internal state"

/-- What shows that a test case looks inside a component. -/
def insideSign : Pattern :=
  any [all ["wrapper.vm", edge], all ["setData", edge], ".data.", ".computed."]

/-- What shows that a test case checks behaviour: it interacts, or checks events or output. -/
def behaviourSigns : List Pattern :=
  [all [edge,
      any (["trigger", "click", "type", "fill", "select", "check", "uncheck"].map caseless), edge],
    caseless "emit",
    all [".",
      any ["text", "html", "classes", "attributes", all ["find", many Text.isWordChar]], blanks,
      "("]]

/-- The test case looks inside a component and checks no behaviour. -/
def onlyLooksInside (case : Script.NamedBody) : Bool :=
  insideSign.occursIn case.body && !behaviourSigns.any (·.occursIn case.body)

/-- A test looks inside a component. -/
def implementationTesting : Rule := inTest fun component code =>
  (insideAccess.flatMap fun access => (access.hits code).map (insideSuspect component)) ++
    ((Script.testCases code).filter onlyLooksInside).map fun case =>
      let name := String.ofList case.name
      .certain (component.scriptPosition case.offset) .high
        s!"Test \"{name}\" only tests internal implementation without behavior verification"
        ("Add behavior assertions: expect(wrapper.text()).toContain(\"expected\") or " ++
          "expect(wrapper.emitted()).toHaveProperty(\"event\")")

/-! ## Stores in tests -/

/-- The name of a function that gives a store. -/
def storeFunction : Pattern :=
  any ["useStore",
    all ["use", one fun c => 'A' ≤ c && c ≤ 'Z', many Text.isNameChar, "Store"]]

/-- A sign that the test uses stores. -/
def storeSign : Pattern :=
  all [freshRoot, any [storeFunction, "defineStore", "createPinia"], nameEnds]

/-- A call that gives a store to a test. -/
def testStoreCall : Pattern := all [freshRoot, storeFunction, blanks, "("]

/-- What gives each test its own stores. -/
def isolation : Pattern :=
  any [
    all ["setActivePinia", blanks, "(", blanks, "createPinia", blanks, "(", blanks, ")", blanks,
      ")"],
    all [freshRoot, "createTestingPinia", blanks, "("]]

/-- What runs before each test. -/
def beforeEachCall : Pattern := all [freshRoot, "beforeEach", blanks, "("]

/-- Stores that tests share, said where the tests are set up or else where a store is used. -/
def sharedStores (component : Component) (code : Text) (uses : List Hit) : List Suspect :=
  match beforeEachCall.first? code, uses with
  | some hit, _ => [.certain (component.scriptPosition hit.start) .critical
      ("Test file uses Pinia stores without proper isolation - " ++
        "state pollution between tests")
      "Add to beforeEach: setActivePinia(createPinia()) or use createTestingPinia()"]
  | none, first :: _ => [.certain (component.scriptPosition first.start) .high
      ("Pinia store used in tests without proper setup - may cause shared state " ++
        "between tests")
      ("Add beforeEach(() => \x7b setActivePinia(createPinia()) \x7d) or use " ++
        "createTestingPinia()")]
  | none, [] => []

/-- Several stores are used without isolation. -/
def severalStores (component : Component) : List Hit → List Suspect
  | first :: _ :: _ => [.certain (component.scriptPosition first.start) .medium
      "Multiple Pinia stores used without test isolation setup"
      "Isolate store instances: beforeEach(() => setActivePinia(createPinia()))"]
  | _ => []

/-- Tests share stores with each other. -/
def piniaStateLeak : Rule := inTest fun component code =>
  if !storeSign.occursIn code || isolation.occursIn code then []
  else
    let uses := testStoreCall.hits code
    sharedStores component code uses ++ severalStores component uses

/-! ## Snapshots -/

/-- A comparison with a snapshot of any kind. -/
def snapshotCall : Pattern :=
  all [".toMatch", optional "Inline", "Snapshot", blanks, "("]

/-- A comparison with a snapshot in a file. -/
def fileSnapshot : Pattern := all [blanks, ".toMatchSnapshot", blanks, "("]

/-- What shows that something rendered is compared. -/
def renderedSign : Pattern :=
  any ["wrapper.", "component.", all [freshRoot, words ["shallowMount", "mount"], blanks, "("]]

/-- How many comparisons with snapshots come to one test. Without tests there are none. -/
def snapshotRatio (snapshots tests : Nat) : Binary64 :=
  if tests = 0 then .ofInt 0 else .ofQuotient false snapshots tests

/-- A ratio in percent, rounded to the nearest whole number. -/
def percent (ratio : Binary64) : Int :=
  (((ratio.scale 100).add (.ofQuotient false 1 2)).floor?).getD 0

/-- How severe a ratio of snapshots to tests is. -/
def snapshotSeverity? (ratio : Binary64) (thresholds : Thresholds) : Option Severity :=
  if (thresholds.ratio .snapshotTest).lt ratio then
    if (thresholds.ratio .snapshotTestHigh).lt ratio then some .high else some .medium
  else none

/-- The snapshots of all tests, judged by how many come to one test. -/
def snapshotShare (component : Component) (snapshots tests : Nat) : Suspect :=
  let ratio := snapshotRatio snapshots tests
  let share := percent ratio
  ⟨component.scriptPosition 0, fun thresholds =>
    (snapshotSeverity? ratio thresholds).map fun severity =>
      ⟨severity,
        s!"{share}% of tests use snapshots ({snapshots}/{tests}) - reduces test effectiveness",
        "Replace snapshots with specific assertions: " ++
          "expect(element).toHaveTextContent(\"expected\") or " ++
          "expect(result).toEqual(expectedValue)"⟩⟩

/-- As many snapshots as tests. -/
def onlySnapshots (component : Component) (snapshots tests : Nat) : List Suspect :=
  if tests ≠ 0 ∧ snapshots = tests then
    [.certain (component.scriptPosition 0) .high
      "Test file contains only snapshot tests - provides no behavioral verification"
      ("Add behavioral assertions alongside snapshots or replace with specific " ++
        "expectations")]
  else []

/-- The call compares something rendered with a snapshot in a file. -/
def comparesRendered (code : Text) (call : Script.Call) : Bool :=
  (fileSnapshot.leading? (code.drop (call.args.stop + 1))).isSome &&
    renderedSign.occursIn call.args.body

/-- A test case with several snapshots. -/
def severalSnapshots? (component : Component) (case : Script.NamedBody) : Option Suspect :=
  let count := (fileSnapshot.hits case.body).length
  if 1 < count then
    let name := String.ofList case.name
    some (.certain (component.scriptPosition case.offset) .medium
      s!"Test \"{name}\" uses {count} snapshots - test multiple behaviors separately"
      "Split into separate tests or use specific assertions for each behavior")
  else none

/-- Tests compare snapshots where they should say what they expect. -/
def snapshotOveruse : Rule := inTest fun component code =>
  let snapshots := (snapshotCall.hits code).length
  let tests := (Script.testCalls code).length
  snapshotShare component snapshots tests ::
    onlySnapshots component snapshots tests ++
    (((Script.plainCalls ["expect"] code).filter (comparesRendered code)).map fun call =>
      .certain (component.scriptPosition call.start) .low
        ("Snapshot testing component output - consider specific assertions for better " ++
          "test clarity")
        ("Test specific behaviors: expect(wrapper.text()).toBe(\"expected\") " ++
          "instead of snapshot")) ++
    (Script.testCases code).filterMap (severalSnapshots? component)

end SfcLint.Rule
