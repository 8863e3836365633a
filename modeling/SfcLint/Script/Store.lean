/-
# Stores

Stores as a script defines them. One kind is an object with sections for state, mutations, actions
and getters, of which the mutations are also found on their own. The other kind is defined by a
call with an identifier, and is used through the function that the call returns.
-/

import SfcLint.Script.Call
import SfcLint.Script.Entry
import SfcLint.Script.Function
import SfcLint.Script.Options
import SfcLint.Script.Phrase

namespace SfcLint.Script

open Pattern

/-! ## Stores with sections -/

/-- What stands before an object of mutations. -/
def mutationsStart : Pattern :=
  seq
    (any [
      all [freshRoot, "mutations", blanks, ":", blanks],
      all [freshRoot, declarator, blanks1, "mutations", blanks, annotation, "=", blanks]])
    beforeBrace

/-- The objects of mutations. -/
def mutationBlocks (t : Text) : List Span :=
  (mutationsStart.hits t).filterMap fun hit => spanAt? t hit.stop

/-- The functions among the members of an object, by name. -/
def handlers (block : Span) : Except Failure (List NamedBody) := do
  let entries ← objectEntries block.body
  return entries.filterMap fun entry =>
    match entry.key, entry.kind with
    | none, _ => none
    | some _, .shorthand => none
    | some key, _ =>
        (functionBody? entry.value).map fun body =>
          ⟨key, body.text, block.start + 1 + entry.offset⟩

/-- What stands before the object of a store. -/
def storeStart : Pattern :=
  seq
    (any [
      all [freshRoot, "createStore", blanks, "(", blanks],
      all [freshName, "new", blanks1, "Vuex.Store", blanks, "(", blanks],
      all [freshRoot, declarator, blanks1, "store", blanks, "=", blanks],
      all ["export", blanks1, "default", blanks]])
    beforeBrace

/-- The object that a hit of `storeStart` starts, if it is a store. What a module exports is one
only when it has state and something that changes it. -/
def storeBlockOf? (t : Text) (hit : Hit) : Except Failure (Option Span) :=
  match spanAt? t hit.stop with
  | none => .ok none
  | some block => do
      let keys := (← objectEntries block.body).map (·.key)
      let has (key : String) : Bool := keys.contains (some key.toList)
      let explicit := !hit.text.startsWith "export"
      return if explicit || (has "state" && (has "mutations" || has "actions")) then some block
        else none

/-- The objects that are stores with sections. -/
def storeBlocks (t : Text) : Except Failure (List Span) := do
  return (← (storeStart.hits t).mapM (storeBlockOf? t)).filterMap id

/-- A `return` before an object. -/
def returnObject : Pattern := all [freshName, "return", blanks, beforeBrace]

/-- The text between the braces of an object that the text starts with. -/
def objectBody? (t : Text) : Option Text :=
  if t.head? = some '\x7b' then (spanAt? t 0).map (·.body) else none

/-- The text without a parenthesis at its start and one at its end. -/
def withoutParens (t : Text) : Text :=
  match t with
  | '(' :: rest => if t.getLast? = some ')' then Text.strip rest.dropLast else t
  | _ => t

/-- The object that a member gives: its value, or what its function returns. -/
def sectionOfEntry? (entry : Entry) : Option Text :=
  if entry.kind = .property ∧ entry.value.head? = some '\x7b' then objectBody? entry.value
  else
    match functionBody? entry.value with
    | none => none
    | some (.expression t) => objectBody? (withoutParens (Text.strip t))
    | some (.block span) =>
        (returnObject.first? span.body).bind fun hit =>
          (spanAt? span.body hit.stop).map (·.body)

/-- The members of a section of a store, as text. -/
def storeSection? (block : Span) (key : Text) : Except Failure (Option Text) := do
  let entries ← objectEntries block.body
  return (entries.find? fun entry => entry.key == some key).bind sectionOfEntry?

/-! ## Stores with an identifier -/

/-- A store with an identifier: the variable that its definition is assigned to, the arguments of
the definition, and where it stands. -/
structure StoreDefinition where
  id : Text
  accessor : Option Text
  body : Text
  offset : Nat
  deriving DecidableEq, Repr

/-- A variable that is about to be assigned, at the end of a text. -/
def assignmentAtEnd : Pattern :=
  all [declarator, blanks1, capture "name" identifier, blanks, "=", blanks, stop]

/-- The identifier that the first argument of a definition gives: a quoted text, or the value of
the last `id` of an object if that is quoted. -/
def storeId? (argument : Text) : Except Failure (Option Text) :=
  match unquoted? argument with
  | some id => .ok (some id)
  | none =>
      if argument.head? = some '\x7b' then do
        let entries ← objectEntries ((objectBody? argument).getD [])
        let ids := entries.filter fun entry => entry.key == some "id".toList
        return ids.getLast?.bind fun entry => unquoted? entry.value
      else .ok none

/-- The store that a call defines, if it has an identifier. -/
def storeDefinitionOf? (t : Text) (call : Call) : Except Failure (Option StoreDefinition) :=
  match splitCommas call.args.body with
  | [] => .ok none
  | first :: _ => do
      match ← storeId? first with
      | none => return none
      | some [] => return none
      | some id =>
          let line := Text.replaceAll (Text.lastLine (t.take call.start)) "export " []
          let accessor := (assignmentAtEnd.first? line).map (·.group "name")
          return some ⟨id, accessor, call.args.body, call.start⟩

/-- The stores with an identifier that the script defines. -/
def storeDefinitions (t : Text) : Except Failure (List StoreDefinition) := do
  return (← (plainCalls ["defineStore"] t).mapM (storeDefinitionOf? t)).filterMap id

/-- The text is an identifier, up to a line break at its end. -/
def isIdentifierLine (t : Text) : Bool := ((all [identifier, stop]).leading? t).isSome

/-- The text uses the store, through its accessor or by a member of its identifier. -/
def referencesStore (t : Text) (store : StoreDefinition) : Bool :=
  (store.accessor.any fun accessor => (all [whole accessor, blanks, "("]).occursIn t) ||
    (isIdentifierLine store.id &&
      (all [whole store.id, ".", one Text.isNameChar]).occursIn t)

end SfcLint.Script
