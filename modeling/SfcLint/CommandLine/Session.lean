/-
# Running a command

A run starts from the files on the disk, the variables of the environment, a moment and the words
of a command line. It comes to lines on two streams, an exit status, files that it writes, and what
it serves. Messages of the log go to the first stream; they leave it to the report when that is
data or a page and is not written to a file. A run that cannot go on crashes.
-/

import SfcLint.Analysis.Batch
import SfcLint.CommandLine.Invocation
import SfcLint.Files.Search
import SfcLint.Settings.Load

namespace SfcLint

/-- Why a run cannot go on. -/
inductive Crash
  /-- The variables give no settings. -/
  | settings (failure : BuildError)
  /-- A file cannot be written. -/
  | file (failure : FileError)

/-- How the failure is reported. -/
def Crash.message : Crash → String
  | settings failure => failure.message
  | file failure => failure.message

/-- Why a found file cannot be read. -/
inductive ReadFault
  /-- There is nothing to read. -/
  | file (failure : FileError)
  /-- It is no text. -/
  | bytes (failure : Utf8Error)
  deriving DecidableEq, Repr

/-- How the fault is reported. -/
def ReadFault.message : ReadFault → String
  | file failure => failure.message
  | bytes failure => failure.message

/-- How urgent a message of the log is. -/
inductive LogLevel
  | debug
  | info
  | warning
  | error
  deriving DecidableEq, Repr

/-- The name of a level. -/
def LogLevel.name : LogLevel → String
  | debug => "DEBUG"
  | info => "INFO"
  | warning => "WARNING"
  | error => "ERROR"

/-- A message of the log. -/
structure LogMessage where
  level : LogLevel
  text : String
  deriving DecidableEq, Repr

/-- The message as a line. -/
def LogMessage.line (message : LogMessage) : String :=
  "[" ++ message.level.name ++ "] " ++ message.text ++ "\n"

/-- The lines of a log. Debug messages appear only on request. -/
def logLines (verbose : Bool) (messages : List LogMessage) : String :=
  String.join ((messages.filter fun message => verbose || message.level != .debug).map
    LogMessage.line)

/-- What is served, and where. -/
structure ServedAt where
  settings : Settings
  options : ServeOptions

/-- What a run comes to. Without a status it simply ends. -/
structure Outcome where
  status : Option Nat
  out : String
  err : String
  disk : Disk
  served : Option ServedAt

namespace Outcome

/-- A run that only writes to the first stream. -/
def saying (disk : Disk) (status : Option Nat) (out : String) : Outcome :=
  ⟨status, out, "", disk, none⟩

/-- A run that ends with one message of the log. -/
def logging (disk : Disk) (status : Nat) (level : LogLevel) (text : String) : Outcome :=
  saying disk (some status) (LogMessage.line ⟨level, text⟩)

end Outcome

/-- What a run starts from. -/
structure Session where
  disk : Disk
  environment : Environment
  moment : Moment

namespace Session

/-- The bytes of a text as files hold it. -/
def write (disk : Disk) (path content : String) : Except Crash Disk :=
  (disk.write (Path.ofText path.toList) (Utf8.encode content.toList)).mapError .file

/-- The message of the log about an event, if there is one. -/
def messageOf? : Event → Option LogMessage
  | .parseStarted _ | .fileStarted _ => none
  | .parseFailed path reason | .fileFailed path reason =>
      some ⟨.warning, s!"Analysis failed for {path}: {reason}"⟩
  | .checkFailed path check reason =>
      some ⟨.warning, s!"Analysis failed for {path} ({check}): {reason}"⟩
  | .fileCompleted path issues => some ⟨.debug, s!"Analyzed {path}: {issues} issue(s)"⟩

/-- The limits of the command line over configured values, each once. -/
def overridesOf (limits : List (Limit × Int)) (configured : Overrides) : Overrides :=
  CommandLine.limitFlags.foldl (fun overrides (limit, _) =>
    match limits.lookup limit with
    | some value => Json.upsert limit.publicName (.int value) overrides
    | none => overrides) configured

/-- The text of a found file. -/
def textOf (disk : Disk) (path : String) : Except ReadFault SourceFile := do
  let bytes ← (disk.bytes (Path.ofText path.toList)).mapError .file
  let text ← (Disk.readText bytes).mapError .bytes
  return ⟨path, String.ofList text⟩

/-- The result for a file that cannot be read, with the reason. -/
def unreadable (path : String) (fault : ReadFault) : FileResult :=
  ⟨path, [], [s!"Could not read file: {fault.message}"]⟩

/-- Results in the order of their paths. -/
def sortByPath (results : List FileResult) : List FileResult :=
  results.mergeSort fun a b => a.path ≤ b.path

/-- What an analysis works with: settings and flags taken together. -/
structure Task where
  verbose : Bool
  format : ReportFormat
  output : Option String
  patterns : List Text
  exclude : List String
  overrides : Overrides
  categories : List String
  workers : Option Int
  failOn : Option Severity

/-- The task that the flags ask for under some settings. An empty path and no workers at all count
as not given. -/
def taskOf (settings : Settings) (verbose : Bool) (options : AnalyzeOptions) : Task where
  verbose := verbose || options.verbose || settings.verbose
  format := options.format.getD settings.format
  output := Settings.nonempty? options.output
  patterns := options.patterns.flatMap Search.splitPatterns
  exclude := settings.exclude ++ (Search.splitPatterns options.exclude).map String.ofList
  overrides := overridesOf options.limits settings.thresholds
  categories := options.categories.map Category.name
  workers := (options.workers.filter (· ≠ 0)).or settings.workers
  failOn := options.failOn

namespace Task

/-- The report takes the first stream, and the log the second. -/
def reportsAlone (task : Task) : Bool := task.format != .console && task.output.isNone

/-- A run of the task that wrote a report, or none, between messages of the log. -/
def outcome (task : Task) (disk : Disk) (status : Nat) (before : List LogMessage)
    (report : String) (after : List LogMessage) : Outcome :=
  let before := logLines task.verbose before
  let after := logLines task.verbose after
  if task.reportsAlone then ⟨some status, report, before ++ after, disk, none⟩
  else ⟨some status, before ++ report ++ after, "", disk, none⟩

/-- The first message of the log. -/
def opening (task : Task) : LogMessage :=
  let patterns := (Json.list (task.patterns.map fun t => .string (String.ofList t))).shown
  let exclude := (Json.list (task.exclude.map Json.string)).shown
  ⟨.debug, s!"Patterns: {patterns}; exclude: {exclude}"⟩

/-- The paths of the files to analyse. -/
def paths (task : Task) (disk : Disk) : List String :=
  Search.run ⟨task.patterns, task.exclude.map String.toList, Search.standardExtensions⟩ disk

/-- The files that can be read. -/
def readable (disk : Disk) (paths : List String) : List SourceFile :=
  paths.filterMap fun path => (textOf disk path).toOption

/-- The files that cannot be read, with the reasons. -/
def faulty (disk : Disk) (paths : List String) : List (String × ReadFault) :=
  paths.filterMap fun path =>
    match textOf disk path with
    | .ok _ => none
    | .error fault => some (path, fault)

/-- The messages about files that cannot be read. -/
def faultMessages (faulty : List (String × ReadFault)) : List LogMessage :=
  faulty.map fun (path, fault) => ⟨.warning, s!"Could not read {path}: {fault.message}"⟩

/-- The results for some files with the events on the way, if the options are accepted. Those whose
paths are stuck do not end in time. -/
def analyze (task : Task) (stuck : List String) (files : List SourceFile) :
    Except BatchError (Run (List FileResult)) :=
  match Plan.make (some task.overrides) task.categories with
  | .error failure => .error (.plan failure)
  | .ok plan =>
      if !files.isEmpty && task.workers.any (· ≤ 0) then .error .noWorkers
      else .ok (plan.analyzeAll stuck files)

/-- All results of an analysis, in the order of their paths. -/
def results (run : Run (List FileResult)) (faulty : List (String × ReadFault)) :
    List FileResult :=
  sortByPath (run.result ++ faulty.map fun (path, fault) => unreadable path fault)

/-- The status that the results lead to, and the message about it. -/
def verdict (task : Task) (results : List FileResult) : Nat × List LogMessage :=
  match task.failOn with
  | some limit =>
      if reaches limit results then (2, [⟨.debug, s!"Found issues at or above {limit.name}"⟩])
      else (0, [])
  | none => (0, [])

/-- The run of a task. -/
def run (task : Task) (stuck : List String) (disk : Disk) (moment : Moment) :
    Except Crash Outcome :=
  let paths := task.paths disk
  let opening := [task.opening]
  if paths.isEmpty then
    .ok (task.outcome disk 0
      (opening ++ [⟨.warning, "No files found matching the specified patterns."⟩]) "" [])
  else
    let faulty := faulty disk paths
    let opening := opening ++ [⟨.info, s!"Analyzing {paths.length} Vue.js file(s)..."⟩] ++
      faultMessages faulty
    match task.analyze stuck (readable disk paths) with
    | .error failure =>
        .ok (task.outcome disk 1
          (opening ++ [⟨.error, s!"Invalid analysis options: {failure.message}"⟩]) "" [])
    | .ok run =>
        let opening := opening ++ run.events.filterMap messageOf?
        let results := results run faulty
        let report := Report.render task.format task.verbose moment results
        let (status, closing) := task.verdict results
        match task.output with
        | none => .ok (task.outcome disk status opening (report ++ "\n") closing)
        | some path => do
            let disk ← write disk path report
            return task.outcome disk status opening ""
              (⟨.info, s!"Report saved to: {path}"⟩ :: closing)

end Task

/-- The settings of a run, or the outcome of a run that has none. -/
def settings (session : Session) (variableFile configFile : Option String) :
    Except Crash (Except Outcome Settings) :=
  match Settings.load session.disk session.environment variableFile configFile with
  | .ok settings => .ok (.ok settings)
  | .error (.config failure) =>
      .ok (.error (Outcome.logging session.disk 1 .error failure.message))
  | .error (.build failure) => .error (.settings failure)

/-- The run of an analysis. -/
def analyze (session : Session) (stuck : List String) (invocation : Invocation)
    (options : AnalyzeOptions) : Except Crash Outcome := do
  match ← session.settings invocation.variableFile options.config with
  | .error outcome => return outcome
  | .ok settings =>
      (taskOf settings invocation.verbose options).run stuck session.disk session.moment

/-- The run that writes a fresh settings file. -/
def init (session : Session) (force : Bool) : Except Crash Outcome := do
  if session.disk.reaches (Path.ofText Settings.configName.toList) && !force then
    return Outcome.logging session.disk 1 .warning
      "Configuration file already exists. Use --force to overwrite."
  else
    let disk ← write session.disk Settings.configName
      (Settings.initialDocument.pretty ++ "\n")
    return Outcome.logging disk 0 .info s!"Configuration file created: {Settings.configName}"

/-- The list of all anti-patterns by category. -/
def patternList : String :=
  let rule := String.ofList (List.replicate 60 '=')
  "\n" ++ rule ++ "\nDETECTABLE ANTI-PATTERNS\n" ++ rule ++ "\n" ++
    String.join (AntiPattern.byCategory.map fun (category, patterns) =>
      "\n" ++ String.ofList (Text.upper category.name.toList) ++ ":\n" ++
        String.join (patterns.map fun pattern => "  " ++ pattern.id ++ "\n")) ++
    "\n" ++ rule ++ "\n\n"

/-- The run of the service. -/
def serve (session : Session) (invocation : Invocation) (options : ServeOptions) :
    Except Crash Outcome := do
  match ← session.settings invocation.variableFile none with
  | .error outcome => return outcome
  | .ok settings => return ⟨none, "", "", session.disk, some ⟨settings, options⟩⟩

/-- The run of a command line in which the analysis of some files does not end in time. -/
def runDespite (session : Session) (stuck words : List String) : Except Crash Outcome :=
  match CommandLine.read (words.map String.toList) with
  | .error .help => .ok (Outcome.saying session.disk (some 0) CommandLine.usage)
  | .error .refused => .ok ⟨some 2, "", CommandLine.usage, session.disk, none⟩
  | .ok invocation =>
      match invocation.command with
      | none => .ok (Outcome.saying session.disk (some 1) CommandLine.usage)
      | some (.analyze options) => session.analyze stuck invocation options
      | some (.init force) => session.init force
      | some .listPatterns => .ok (Outcome.saying session.disk none patternList)
      | some (.serve options) => session.serve invocation options

/-- The run of a command line. -/
def run (session : Session) (words : List String) : Except Crash Outcome :=
  session.runDespite [] words

end Session

end SfcLint
