/-
# Rules about routing

Guards that send a navigation back to where it came from, routes whose components are loaded at
once, and guards that do too much.
-/

import SfcLint.Rule.Basic
import SfcLint.Script.Guard
import SfcLint.Script.Import

namespace SfcLint.Rule

open Pattern

/-! ## Redirection -/

/-- The guards that can redirect. -/
def redirectingGuards : List Text :=
  ["beforeEach", "beforeResolve", "beforeEnter", "beforeRouteEnter", "beforeRouteUpdate"].map
    String.toList

/-- A quoted path. -/
def quotedPath : Pattern :=
  all [capture "quote" Script.quote, capture "path" (some1 fun c => !Script.isQuote c),
    again "quote"]

/-- A redirection by going on to a path. -/
def nextRedirection : Pattern :=
  all [freshRoot, "next", blanks, "(", blanks, quotedPath, blanks, ")"]

/-- A redirection by returning a path. -/
def returnedRedirection : Pattern := all [freshName, "return", blanks1, quotedPath]

/-- Where the body of a guard starts in the code. -/
def bodyOffset (code : Text) (guard : Script.NamedBody) : Nat :=
  guard.offset + (Text.offsetOf? guard.body (code.drop guard.offset)).getD 0

/-- A comparison of the route with a path. -/
def routeComparison (path : Text) : Pattern :=
  any [
    all ["to.", words ["path", "name"], blanks, "!=", optional "=", blanks, Script.quote,
      literal path, Script.quote],
    all ["from.path", blanks, "==", optional "=", blanks, Script.quote, literal path,
      Script.quote]]

/-- A condition on the user or on anything. -/
def accessCondition : Pattern :=
  any ["to.meta.requiresAuth", "isAuthenticated", all [edge, "if", blanks, "("]]

/-- The code checks the route before it redirects to a path. -/
def checksRoute (preceding path : Text) : Bool :=
  let rooted : Text := '/' :: path.dropWhile (· == '/')
  (routeComparison path).occursIn preceding || (routeComparison rooted).occursIn preceding ||
    accessCondition.occursIn preceding

/-- Anything that may make a redirection depend on the route. -/
def anyCondition : Pattern :=
  any [all [edge, "if", blanks, "("], "?", "|", "&", all [".path", edge], all [".name", edge],
    all [".meta", edge]]

/-- The redirections of a guard that may lead back to it. -/
def loopsOf (component : Component) (code : Text) (guard : Script.NamedBody) : List Suspect :=
  let offset := bodyOffset code guard
  let unchecked := (nextRedirection.hits guard.body).filter fun hit =>
    !checksRoute (guard.body.take hit.start) (hit.group "path")
  let unconditional := (returnedRedirection.hits guard.body).filter fun hit =>
    !anyCondition.occursIn (guard.body.take hit.start)
  (unchecked.map fun hit =>
    let path := String.ofList (hit.group "path")
    .certain (component.scriptPosition (offset + hit.start)) .critical
      (s!"Navigation guard redirects to '{path}' without checking current route - " ++
        "causes infinite loop")
      ("Add route check: if (to.path !== '/target') next('/target') or use " ++
        "route meta fields")) ++
  unconditional.map fun hit =>
    let path := String.ofList (hit.group "path")
    .certain (component.scriptPosition (offset + hit.start)) .critical
      s!"Unconditional redirect to '{path}' will cause infinite loop"
      "Add condition: if (!isAuthenticated) return '/login' or check to.path first"

/-- A guard may send a navigation back to itself. -/
def infiniteNavigationLoop : Rule := inScript fun component code =>
  ((Script.guards code).filter fun guard => redirectingGuards.contains guard.name).flatMap
    (loopsOf component code)

/-! ## Loading -/

/-- A route that names its component. -/
def routeComponent : Pattern :=
  all [freshRoot, "component", blanks, ":", blanks, capture "name" identifier, blanks,
    any [ahead true (one (among ",\x7d\n")), stop]]

/-- Routes whose components are imported, in order, and then these imports. -/
def missingLazyLoading : Rule := inScript fun component code =>
  let imports := Script.defaultImports code
  let routed := (routeComponent.hits code).filterMap fun hit =>
    let name := String.ofList (hit.group "name")
    (imports.lookup name).map fun imported => (hit.start, name, imported)
  let names := (routed.map fun (_, name, _) => name).eraseDups
  let files := names.filterMap fun name =>
    ((imports.lookup name).filter fun imported => imported.path.endsWith ".vue").map fun imported =>
      (name, imported)
  (routed.map fun (offset, name, _) =>
    .certain (component.scriptPosition offset) .high
      s!"Route component '{name}' is eagerly loaded - increases initial bundle size"
      "Use lazy loading: component: () => import('./Component.vue')") ++
  files.map fun (name, imported) =>
    let path := String.ofList imported.path
    .certain (component.scriptPosition imported.offset) .medium
      s!"Component '{name}' imported statically but used in routes"
      s!"Remove static import and use: component: () => import('{path}')"

/-! ## Size of guards -/

/-- What a guard may be responsible for. -/
inductive Duty
  | authentication
  | permissions
  | redirection
  | dataFetching
  | analytics
  | metaValidation
  | loadingStates
  | documentManipulation
  | stateManagement
  | errorHandling
  deriving DecidableEq, Repr

namespace Duty

/-- All duties, in the order in which they are listed. -/
def every : List Duty :=
  [authentication, permissions, redirection, dataFetching, analytics, metaValidation,
    loadingStates, documentManipulation, stateManagement, errorHandling]

/-- The name of a duty. -/
def name : Duty → String
  | authentication => "authentication"
  | permissions => "permissions"
  | redirection => "redirection"
  | dataFetching => "data-fetching"
  | analytics => "analytics"
  | metaValidation => "meta-validation"
  | loadingStates => "loading-states"
  | documentManipulation => "document-manipulation"
  | stateManagement => "state-management"
  | errorHandling => "error-handling"

/-- One of some words as a whole, in any mixture of cases. -/
def wholeWord (ws : List String) : Pattern := all [edge, any (ws.map caseless), edge]

/-- What shows that a guard has the duty. -/
def sign : Duty → Pattern
  | authentication => wholeWord ["isauthenticated", "isloggedin", "checkauth", "token", "auth"]
  | permissions => wholeWord ["haspermission", "checkpermission", "canaccess", "role", "roles"]
  | redirection =>
      any [all [edge, "next", blanks, "(", blanks, Script.quote],
        all [edge, "return", blanks1, Script.quote]]
  | dataFetching => wholeWord ["fetch", "axios", "api", "loaddata", "getdata"]
  | analytics =>
      any [wholeWord ["analytics", "track", "log", "gtag", "segment"],
        all [edge, caseless "console", "."]]
  | metaValidation => all [edge, caseless "to", ".", caseless "meta", edge]
  | loadingStates => wholeWord ["loading", "isloading", "setloading"]
  | documentManipulation =>
      any [all [edge, caseless "document", "."],
        all [edge, caseless "title", blanks, "=", ahead false "="]]
  | stateManagement => wholeWord ["store", "commit", "dispatch", "usestore"]
  | errorHandling => wholeWord ["catch", "error", "try", "throw"]

end Duty

/-- The duties that the body of a guard shows. -/
def duties (body : Text) : List Duty := Duty.every.filter fun duty => duty.sign.occursIn body

/-- How severe it is for a guard to have a number of duties and of lines. Nothing is said unless
one of them is above the middle limit. -/
def guardSeverity? (duties lines : Nat) (thresholds : Thresholds) : Option Severity :=
  let dutyTiers := thresholds.tiers .guardResponsibility
  let lineTiers := thresholds.tiers .guardLine
  if dutyTiers.medium.isAtLeast (duties : Int) && lineTiers.medium.isAtLeast (lines : Int) then none
  else Severity.stronger? (dutyTiers.classify duties) (lineTiers.classify lines)

/-- A guard, judged by its duties and lines. -/
def guardSuspect (component : Component) (guard : Script.NamedBody) : Suspect :=
  let found := duties guard.body
  let count := found.length
  let lines := Text.lineCount guard.body
  let named := ", ".intercalate ((found.take 3).map Duty.name)
  let more := if 3 < count then "..." else ""
  ⟨component.scriptPosition guard.offset, fun thresholds =>
    (guardSeverity? count lines thresholds).map fun severity =>
      ⟨severity,
        s!"Navigation guard has {count} responsibilities ({lines} lines) - " ++
          "violates single responsibility principle",
        s!"Split into separate guards: {named}{more}"⟩⟩

/-- A guard does too much. -/
def godGuardAntipattern : Rule := inScript fun component code =>
  (Script.guards code).map (guardSuspect component)

end SfcLint.Rule
