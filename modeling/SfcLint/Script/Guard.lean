/-
# Navigation guards

The functions that decide about a navigation: those registered on a router, declared under the
name of a guard, or given as an option of a route or component.
-/

import SfcLint.Script.Call
import SfcLint.Script.Function
import SfcLint.Script.Phrase
import SfcLint.Script.Split

namespace SfcLint.Script

open Pattern

/-- The registration of a guard on some object. -/
def guardRegistration : Pattern :=
  seq (plus (seq (some1 Text.isNameChar) "."))
    (words ["beforeEach", "beforeResolve", "afterEach"])

/-- The last part of a name with dots. -/
def memberName (t : Text) : Text := (Text.splitAt '.' t).getLast?.getD []

/-- The guard that a call registers. -/
def registeredGuard? (call : Call) : Option NamedBody :=
  (((splitCommas call.args.body).head?.bind functionBody?).bind FunctionBody.block?).map
    fun block => ⟨memberName call.name, block.body, call.start⟩

/-- The names of guards that are declared as functions or variables. -/
def declaredGuard : Pattern :=
  capture "name" (words ["beforeEach", "beforeResolve", "afterEach", "beforeEnter"])

/-- The declaration of a guard, up to its function. -/
def guardDeclaration : Pattern :=
  any [
    all [freshRoot, optional (all ["async", blanks1]), "function", blanks1, declaredGuard, blanks,
      ahead true "("],
    all [freshRoot, declarator, blanks1, declaredGuard, blanks, "=", blanks],
    all [freshRoot,
      capture "name"
        (words ["beforeEnter", "beforeRouteEnter", "beforeRouteUpdate", "beforeRouteLeave"]),
      blanks,
      any [all [":", blanks], ahead true "("]]]

/-- The guard that a hit of `guardDeclaration` starts. -/
def declaredGuard? (hit : Hit) : Option NamedBody :=
  ((functionBody? hit.rest).bind FunctionBody.block?).map fun block =>
    ⟨hit.group "name", block.body, hit.start⟩

/-- The guards of a script, in order. -/
def guards (t : Text) : List NamedBody :=
  let found := (calls guardRegistration false t).filterMap registeredGuard? ++
    (guardDeclaration.hits t).filterMap declaredGuard?
  found.mergeSort fun a b => a.offset ≤ b.offset

end SfcLint.Script
