/-
# Requests and responses

A request names a method and a path, and may bring a body with data: a file to analyse, or several
of them, with thresholds and categories. A body whose data is not of the expected form is refused
as a whole. Nothing is converted, and members that mean nothing are passed over.
-/

import SfcLint.Analysis.Batch
import SfcLint.Json.Printer
import SfcLint.Json.Reader

namespace SfcLint

/-- A request of a client at some time. -/
structure Request where
  method : String
  path : String
  body : Text
  client : String
  time : Rat

/-- The request that an object describes. A body that is no text is sent as data. -/
def Request.ofJson? (value : Json) (time : Rat) : Option Request :=
  match value.get? "method", value.get? "path" with
  | some (.string method), some (.string path) =>
      let client :=
        match value.get? "client" with
        | some (.string client) => client
        | _ => "unknown"
      let body :=
        match value.get? "body" with
        | some (.string body) => body
        | some body => body.compact
        | none => ""
      some ⟨method, path, body.toList, client, time⟩
  | _, _ => none

/-- A status and a body with data. A body that is refused leaves the reasons out. -/
structure Response where
  status : Nat
  body : Option Json

namespace Response

/-- A good answer. -/
def ok (body : Json) : Response := ⟨200, some body⟩

/-- The response as a data value. -/
def toJson (response : Response) : Json :=
  .object (("status", .int response.status) ::
    match response.body with
    | some body => [("json", body)]
    | none => [])

/-- An answer that says only what is wrong. -/
def refusal (status : Nat) (detail : String) : Response :=
  ⟨status, some (.object [("detail", .string detail)])⟩

/-- The answer to a body that is not of the expected form. -/
def malformed : Response := ⟨422, none⟩

end Response

/-- What to look for in the files of a request, and under which thresholds. -/
structure RequestOptions where
  thresholds : Overrides
  categories : List String

namespace RequestOptions

/-- Values of thresholds, if any are given. -/
def readThresholds : Option Json → Option Overrides
  | none => some []
  | some .null => some []
  | some (.object members) => some members
  | some _ => none

/-- A value that is a text. -/
def readText? : Json → Option String
  | .string s => some s
  | _ => none

/-- Names of categories, if any are given. -/
def readCategories : Option Json → Option (List String)
  | none => some []
  | some .null => some []
  | some (.list items) => items.mapM readText?
  | some _ => none

/-- The options among the members of a body. -/
def read (members : List (String × Json)) : Option RequestOptions := do
  return ⟨← readThresholds (members.lookup "thresholds"),
    ← readCategories (members.lookup "categories")⟩

end RequestOptions

/-- The file that members describe, with its path under the given key. The path is not empty. -/
def SourceFile.ofMembers (pathKey : String) (members : List (String × Json)) :
    Option SourceFile := do
  let path ← RequestOptions.readText? (← members.lookup pathKey)
  let content ← RequestOptions.readText? (← members.lookup "content")
  if path.isEmpty then none else some ⟨path, content⟩

/-- A request to analyse one file. -/
structure FileRequest where
  file : SourceFile
  options : RequestOptions

/-- A request to analyse several files. -/
structure FilesRequest where
  files : List SourceFile
  options : RequestOptions

/-- The members of a body. A byte order mark before the data does not count. -/
def Request.members? (request : Request) : Option (List (String × Json)) :=
  match Json.read ((Text.dropFront? "\ufeff" request.body).getD request.body) with
  | .ok (.object members) => some members
  | _ => none

/-- The file that a body asks about. -/
def FileRequest.read (request : Request) : Option FileRequest := do
  let members ← request.members?
  return ⟨← SourceFile.ofMembers "file_path" members, ← RequestOptions.read members⟩

/-- The files that a body asks about. -/
def FilesRequest.read (request : Request) : Option FilesRequest := do
  let members ← request.members?
  match members.lookup "files" with
  | some (.list items) =>
      let files ← items.mapM fun item =>
        match item with
        | .object members => SourceFile.ofMembers "path" members
        | _ => none
      return ⟨files, ← RequestOptions.read members⟩
  | _ => none

end SfcLint
