/-
# The service

The service answers requests about the state of the service, the catalogue of anti-patterns, and
files to analyse. Thresholds of a request are laid over the configured ones. Every client is held
to a rate, before anything else is looked at, unless the configured rate is not positive. A file
that cannot even be cut into tokens, and a number of workers that is none, make the service fail.
-/

import SfcLint.Report.Summary
import SfcLint.Service.RateLimit
import SfcLint.Service.Request
import SfcLint.Settings.Basic

namespace SfcLint

/-- Why a request has no answer. -/
inductive ServiceFailure
  | unreadable (failure : Markup.TokenFailure)
  | batch (failure : BatchError)

/-- How the failure is reported. -/
def ServiceFailure.message : ServiceFailure → String
  | unreadable failure => failure.message
  | batch failure => failure.message

/-- What can be asked for. -/
inductive Resource
  | health
  | patterns
  | file
  | files
  deriving DecidableEq, Repr

namespace Resource

/-- All resources. -/
def every : List Resource := [health, patterns, file, files]

/-- The path of a resource. -/
def path : Resource → String
  | health => "/health"
  | patterns => "/patterns"
  | file => "/analyze"
  | files => "/analyze/batch"

/-- The method by which a resource is asked for. -/
def method : Resource → String
  | health | patterns => "GET"
  | file | files => "POST"

/-- The resource of a path. What follows a question mark does not count. -/
def ofPath? (path : String) : Option Resource :=
  let plain := String.ofList (path.toList.takeWhile (· != '?'))
  every.find? (·.path == plain)

end Resource

/-- A service with its settings and the buckets of its clients. -/
structure Service where
  settings : Settings
  buckets : Buckets

namespace Service

/-- A service that has not been asked anything. -/
def start (settings : Settings) : Service := ⟨settings, []⟩

/-- The thresholds of a request laid over the configured ones. -/
def merged (settings : Settings) (given : Overrides) : Overrides :=
  given.foldl (fun values (name, value) => Json.upsert name value values) settings.thresholds

/-- The plan that a request asks for. -/
def plan (settings : Settings) (options : RequestOptions) : Except PlanError Plan :=
  Plan.make (some (merged settings options.thresholds)) options.categories

/-- The catalogue as a data value. -/
def catalogue : Json :=
  .object [
    ("patterns", .list (AntiPattern.sortedIds.map Json.string)),
    ("categories", .object (AntiPattern.byCategory.map fun (category, patterns) =>
      (category.name, .list (patterns.map fun pattern => .string pattern.id))))]

/-- The answer about one file. -/
def analyzeFile (settings : Settings) (request : Request) : Except ServiceFailure Response :=
  match FileRequest.read request with
  | none => .ok .malformed
  | some asked =>
      match plan settings asked.options with
      | .error failure => .ok (.refusal 400 failure.message)
      | .ok plan =>
          match (plan.analyze asked.file.path asked.file.content).result with
          | .ok result => .ok (.ok result.toJson)
          | .error failure => .error (.unreadable failure)

/-- The results for several files as a data value. -/
def batchJson (results : List FileResult) : Json :=
  .object [
    ("summary", (Summary.ofResults results).toJson),
    ("results", .list (results.map FileResult.toJson))]

/-- The answer about several files. -/
def analyzeFiles (settings : Settings) (request : Request) : Except ServiceFailure Response :=
  match FilesRequest.read request with
  | none => .ok .malformed
  | some asked =>
      if asked.files.isEmpty then .ok (.refusal 400 "files must not be empty")
      else
        match plan settings asked.options with
        | .error failure => .ok (.refusal 400 failure.message)
        | .ok plan =>
            if settings.workers.any (· ≤ 0) then .error (.batch .noWorkers)
            else .ok (.ok (batchJson (plan.analyzeAll [] asked.files).result))

/-- The answer to a request, whatever the rate. -/
def answer (settings : Settings) (request : Request) : Except ServiceFailure Response :=
  match Resource.ofPath? request.path with
  | none => .ok (.refusal 404 "Not Found")
  | some resource =>
      if request.method ≠ resource.method then .ok (.refusal 405 "Method Not Allowed")
      else
        match resource with
        | .health => .ok (.ok (.object [("status", .string "ok")]))
        | .patterns => .ok (.ok catalogue)
        | .file => analyzeFile settings request
        | .files => analyzeFiles settings request

/-- The limit that clients are held to, if there is one. -/
def limit? (settings : Settings) : Option RateLimit :=
  if 0 < settings.rateLimit then some (.make settings.rateLimit none) else none

/-- The answer to a request, and the service after it. -/
def handle (service : Service) (request : Request) : Except ServiceFailure Response × Service :=
  match limit? service.settings with
  | none => (answer service.settings request, service)
  | some limit =>
      let ((allowed, _), buckets) :=
        service.buckets.call limit Rounding.binary request.client request.time
      let response :=
        if allowed then answer service.settings request
        else .ok (.refusal 429 "Rate limit exceeded. Try again later.")
      (response, { service with buckets })

/-- The answers to some requests, one after the other, up to the first failure. -/
def handleAll (service : Service) : List Request → Except ServiceFailure (List Response)
  | [] => .ok []
  | request :: requests =>
      match service.handle request with
      | (.error failure, _) => .error failure
      | (.ok response, service) =>
          (handleAll service requests).map fun responses => response :: responses

end Service

end SfcLint
