/-
# Event listeners and cleanup

Listeners that a script adds for a literal event name, the hooks in which a component cleans up
after itself, and whether a hook removes a listener.
-/

import SfcLint.Script.Call
import SfcLint.Script.Function
import SfcLint.Script.Options
import SfcLint.Script.Phrase
import SfcLint.Script.Split

namespace SfcLint.Script

/-- The hooks in which a component cleans up: those registered by a call, and its options. -/
structure CleanupHooks where
  composition : List NamedBody
  options : List NamedBody
  deriving DecidableEq, Repr

/-- The bodies of all hooks. -/
def CleanupHooks.bodies (hooks : CleanupHooks) : List Text :=
  (hooks.composition ++ hooks.options).map (·.body)

open Pattern

/-- The hook that a call registers. -/
def registeredHook? (call : Call) : Option NamedBody :=
  ((splitCommas call.args.body).head?.bind functionBody?).map fun body =>
    ⟨call.name, body.text, call.start⟩

/-- An option that is a cleanup hook, up to its function. -/
def cleanupOption : Pattern :=
  all [freshRoot,
    capture "name" (words ["beforeDestroy", "destroyed", "beforeUnmount", "unmounted"]),
    blanks, optional (all [":", blanks]), beforeFunction]

/-- The hook that a hit of `cleanupOption` starts. -/
def optionHook? (hit : Hit) : Option NamedBody :=
  ((functionBody? hit.rest).bind FunctionBody.block?).map fun block =>
    ⟨hit.group "name", block.body, hit.start⟩

/-- The hooks in which the component cleans up. -/
def cleanupHooks (t : Text) : CleanupHooks :=
  ⟨(plainCalls ["onUnmounted", "onBeforeUnmount"] t).filterMap registeredHook?,
    (cleanupOption.hits t).filterMap optionHook?⟩

/-- A listener: what it is added to, the event, the handler as written, and where it is added. -/
structure Listener where
  target : Text
  event : Text
  handler : Text
  offset : Nat
  deriving DecidableEq, Repr

/-- The call that adds a listener, up to its arguments. -/
def listenerCall : Pattern :=
  all [freshName,
    capture "target" (star (seq (some1 Text.isNameChar) ".")),
    "addEventListener", blanks, "("]

/-- The listener that a hit of `listenerCall` adds, if its event is a literal. -/
def listenerOf? (t : Text) (hit : Hit) : Option Listener :=
  (spanAt? t (hit.stop - 1)).bind fun args =>
    match splitCommas args.body with
    | event :: handler :: _ =>
        (unquoted? event).map fun event =>
          let target := Text.dropEndWhile (· == '.') (hit.group "target")
          ⟨if target.isEmpty then "this" else target, event, handler, hit.start⟩
    | _ => none

/-- The listeners that the script adds, in order. -/
def listeners (t : Text) : List Listener := (listenerCall.hits t).filterMap (listenerOf? t)

/-- The start of a call that removes a listener. -/
def removal (listener : Listener) : Pattern :=
  all ["removeEventListener", blanks, "(", blanks, quote, literal listener.event, quote, blanks,
    ",", blanks, literal listener.handler]

/-- Some hook removes the listener. -/
def hasRemoval (listener : Listener) (hooks : CleanupHooks) : Bool :=
  hooks.bodies.any (removal listener).occursIn

end SfcLint.Script
