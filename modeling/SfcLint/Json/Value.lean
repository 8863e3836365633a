/-
# Data values

Values as settings files, requests and reports hold them: texts, numbers, truth values, nothing,
lists, and objects whose members keep their order. Whole numbers and numbers with a fraction or an
exponent are told apart. Setting a member that is there already replaces its value in place.

An object laid over another one adds its members and lays those that both have over each other.
Anything else covers what lies below it.
-/

import SfcLint.Number.Binary64

namespace SfcLint

/-- A data value. -/
inductive Json
  | null
  | bool (value : Bool)
  | int (value : Int)
  | float (value : Binary64)
  | string (value : String)
  | list (items : List Json)
  | object (members : List (String × Json))

namespace Json

instance : Inhabited Json := ⟨null⟩

/-- The members with one more, or with the value of the member of that name replaced. -/
def upsert {α : Type} (key : String) (value : α) : List (String × α) → List (String × α)
  | [] => [(key, value)]
  | (k, v) :: rest => if k = key then (k, value) :: rest else (k, v) :: upsert key value rest

/-- Members from left to right, where a later one replaces an earlier one of the same name. -/
def upsertAll {α : Type} (members : List (String × α)) : List (String × α) :=
  members.foldl (fun done (key, value) => upsert key value done) []

/-- The member of an object. -/
def get? (value : Json) (key : String) : Option Json :=
  match value with
  | object members => members.lookup key
  | _ => none

/-! ## Laying one value over another -/

mutual

/-- The value covered by an upper one. -/
def coveredBy (lower : Json) : Json → Json
  | object members =>
      match lower with
      | object below => object (membersCoveredBy below members)
      | _ => object members
  | value => value

/-- The members of a lower object covered by those of an upper one, one after the other. -/
def membersCoveredBy (below : List (String × Json)) : List (String × Json) → List (String × Json)
  | [] => below
  | (key, value) :: members =>
      let placed :=
        match below.lookup key with
        | some lower => coveredBy lower value
        | none => value
      membersCoveredBy (upsert key placed below) members

end

end Json

end SfcLint
