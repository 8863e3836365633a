/-
# Commands

A command line names a command, with flags of its own behind it and common flags before it:
analysing files, writing a fresh settings file, listing the anti-patterns, and serving. Values are
checked in the order in which they are given, and a request for help ends the reading.
-/

import SfcLint.CommandLine.Word
import SfcLint.Issue.AntiPattern
import SfcLint.Report.Format
import SfcLint.Threshold.Basic

namespace SfcLint

/-- What to analyse and how to report it. -/
structure AnalyzeOptions where
  patterns : List Text := []
  format : Option ReportFormat := none
  output : Option String := none
  verbose : Bool := false
  config : Option String := none
  exclude : Text := []
  categories : List Category := []
  workers : Option Int := none
  failOn : Option Severity := none
  limits : List (Limit × Int) := []

/-- Where to serve. -/
structure ServeOptions where
  host : String := "0.0.0.0"
  port : Int := 8000
  reload : Bool := false
  deriving DecidableEq, Repr

/-- What to do. -/
inductive Command
  | analyze (options : AnalyzeOptions)
  | init (force : Bool)
  | listPatterns
  | serve (options : ServeOptions)

/-- What a command line says. -/
structure Invocation where
  variableFile : Option String := none
  verbose : Bool := false
  command : Option Command := none

namespace CommandLine

/-- The flags before a command. -/
inductive CommonFlag
  | help
  | variableFile
  | verbose
  deriving DecidableEq, Repr

/-- The flags of the analysis. -/
inductive AnalyzeFlag
  | help
  | format
  | output
  | verbose
  | config
  | exclude
  | category
  | workers
  | failOn
  | limit (limit : Limit)
  deriving DecidableEq, Repr

/-- The flags of the other commands. -/
inductive ServeFlag
  | help
  | force
  | host
  | port
  | reload
  deriving DecidableEq, Repr

/-- The names of the flags before a command. -/
def commonFlags : List (Flag CommonFlag) :=
  [⟨.help, ["-h", "--help"], false⟩,
    ⟨.variableFile, ["--env-file"], true⟩,
    ⟨.verbose, ["--verbose", "-v"], false⟩]

/-- The limits that have flags, in the order in which they are applied. -/
def limitFlags : List (Limit × String) :=
  [(.templateExpressionLength, "--threshold-template-expression-length"),
    (.templateDepth, "--threshold-template-depth"),
    (.componentScriptLength, "--threshold-component-script-length"),
    (.componentMethodCount, "--threshold-component-method-count")]

/-- The names of the flags of the analysis. -/
def analyzeFlags : List (Flag AnalyzeFlag) :=
  [⟨.help, ["-h", "--help"], false⟩,
    ⟨.format, ["--format", "-f"], true⟩,
    ⟨.output, ["--output", "-o"], true⟩,
    ⟨.verbose, ["--verbose", "-v"], false⟩,
    ⟨.config, ["--config", "-c"], true⟩,
    ⟨.exclude, ["--exclude", "-e"], true⟩,
    ⟨.category, ["--category"], true⟩,
    ⟨.workers, ["--workers"], true⟩,
    ⟨.failOn, ["--fail-on"], true⟩] ++
  limitFlags.map fun (limit, name) => ⟨.limit limit, [name], true⟩

/-- The flag that asks how to use a command. -/
def helpFlag : Flag ServeFlag := ⟨.help, ["-h", "--help"], false⟩

/-- The names of the flags for a fresh settings file. -/
def initFlags : List (Flag ServeFlag) := [helpFlag, ⟨.force, ["--force"], false⟩]

/-- The names of the flags for serving. -/
def serveFlags : List (Flag ServeFlag) :=
  [helpFlag, ⟨.host, ["--host"], true⟩, ⟨.port, ["--port"], true⟩,
    ⟨.reload, ["--reload"], false⟩]

/-- What a value stands for, if it stands for anything. -/
def accepted (value : Option α) : Except Stop α :=
  match value with
  | some value => .ok value
  | none => .error .refused

/-- What is said before the command, with one more flag. -/
def applyCommon (invocation : Invocation) (flag : CommonFlag) (value : Option Text) :
    Except Stop Invocation :=
  match flag with
  | .help => .error .help
  | .variableFile => .ok { invocation with variableFile := value.map String.ofList }
  | .verbose => .ok { invocation with verbose := true }

/-- What to analyse, with one more flag. -/
def applyAnalyze (options : AnalyzeOptions) (flag : AnalyzeFlag) (value : Option Text) :
    Except Stop AnalyzeOptions :=
  let text := value.getD []
  let name := String.ofList text
  match flag with
  | .help => .error .help
  | .format => return { options with format := ← accepted ((ReportFormat.ofName? name).map some) }
  | .output => .ok { options with output := some name }
  | .verbose => .ok { options with verbose := true }
  | .config => .ok { options with config := some name }
  | .exclude => .ok { options with exclude := text }
  | .category =>
      return { options with
        categories := options.categories ++ [← accepted (Category.ofName? name)] }
  | .workers =>
      return { options with workers := ← accepted ((Text.wholeNumber? text).map some) }
  | .failOn =>
      return { options with failOn := ← accepted ((Severity.read text).toOption.map some) }
  | .limit limit =>
      return { options with
        limits := (limit, ← accepted (Text.wholeNumber? text)) :: options.limits }

/-- Where to serve, with one more flag. -/
def applyServe (options : ServeOptions) (flag : ServeFlag) (value : Option Text) :
    Except Stop ServeOptions :=
  let text := value.getD []
  match flag with
  | .help => .error .help
  | .host => .ok { options with host := String.ofList text }
  | .port => return { options with port := ← accepted (Text.wholeNumber? text) }
  | .reload => .ok { options with reload := true }
  | .force => .ok options

/-- Whether to overwrite a settings file, with one more flag. -/
def applyInit (force : Bool) (flag : ServeFlag) (_ : Option Text) : Except Stop Bool :=
  match flag with
  | .help => .error .help
  | .force => .ok true
  | _ => .ok force

/-- What all flags of a command say, and whether some word has no place. -/
def readFlagsOnly (flags : List (Flag α)) (apply : σ → α → Option Text → Except Stop σ)
    (state : σ) (words : List Text) : Except Stop (σ × Bool) := do
  let words ← Word.readAll flags words
  let (reading, _) ← Reading.readFlags flags apply true ⟨state, false, none⟩ words
  return (reading.state, reading.stray)

/-- What the words of an analysis say. The patterns stand together, and there is at least one. -/
def readAnalyze (words : List Text) : Except Stop (AnalyzeOptions × Bool) := do
  let words ← Word.readAll analyzeFlags words
  let (reading, rest) ←
    Reading.readFlags analyzeFlags applyAnalyze false ⟨{}, false, none⟩ words
  let patterns := Word.plainTexts (rest.takeWhile Word.isPlain)
  let (reading, _) ←
    Reading.readFlags analyzeFlags applyAnalyze true reading (rest.dropWhile Word.isPlain)
  if patterns.isEmpty then .error .refused
  else return ({ reading.state with patterns }, reading.stray)

/-- The command of a name with the words behind it, and whether some word has no place. -/
def readCommand (name : Text) (words : List Text) : Except Stop (Command × Bool) := do
  match String.ofList name with
  | "analyze" =>
      let (options, stray) ← readAnalyze words
      return (.analyze options, stray)
  | "init" =>
      let (force, stray) ← readFlagsOnly initFlags applyInit false words
      return (.init force, stray)
  | "list-patterns" =>
      let (_, stray) ← readFlagsOnly [helpFlag] applyInit false words
      return (.listPatterns, stray)
  | "serve" =>
      let (options, stray) ← readFlagsOnly serveFlags applyServe {} words
      return (.serve options, stray)
  | _ => throw .refused

/-- What a command line says. -/
def read (words : List Text) : Except Stop Invocation := do
  let words ← Word.readAll commonFlags words
  let (reading, rest) ← Reading.readFlags commonFlags applyCommon false ⟨{}, false, none⟩ words
  match rest with
  | [] => if reading.stray then throw .refused else return reading.state
  | word :: rest =>
      let (command, stray) ← readCommand word.text (rest.map (·.text))
      if reading.stray || stray then throw .refused
      else return { reading.state with command := some command }

/-- How the program is used. -/
def usage : String :=
  "usage: vue-antipatterns [-h] [--env-file FILE] [-v] " ++
    "\x7banalyze,init,list-patterns,serve\x7d ...\n"

end CommandLine

end SfcLint
