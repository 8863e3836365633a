/-
# Loading settings

Settings are built from the variables of the environment and of a file of variables. Then a
settings file is looked for: the one that is named, or else one in the current folder, or else one
in the home folder. It is read as a layer of its own over the variables, and the settings that it
names are taken from there. At last the thresholds must be accepted.
-/

import SfcLint.Files.Disk
import SfcLint.Settings.Layer
import SfcLint.Settings.VariableFile

namespace SfcLint

/-- Why settings cannot be built from their layers. -/
inductive BuildError
  /-- The file of variables is no text. -/
  | bytes (failure : Utf8Error)
  /-- A variable does not hold the data that its setting needs. -/
  | badVariable (failure : UnreadableVariable)
  /-- Values are not accepted. -/
  | invalid (problems : List Problem)
  deriving DecidableEq, Repr

/-- How the failure is reported. -/
def BuildError.message : BuildError → String
  | bytes failure => failure.message
  | badVariable failure => failure.message
  | invalid problems => Problem.summary problems

/-- Why a settings file cannot be read. -/
inductive ConfigFault
  | file (failure : FileError)
  | bytes (failure : Utf8Error)
  | data (failure : Json.ReadError)
  | badVariable (failure : UnreadableVariable)

/-- How the failure is reported. -/
def ConfigFault.message : ConfigFault → String
  | file failure => failure.message
  | bytes failure => failure.message
  | data failure => failure.message
  | badVariable failure => failure.message

/-- Why a settings file or the thresholds are not accepted. -/
inductive ConfigError
  | unreadable (path : String) (fault : ConfigFault)
  | notObject (path : String)
  | unknown (path : String) (names : List String)
  | invalid (path : String) (problems : List Problem)
  | thresholds (path : Option String) (failure : OverrideError)

/-- How the failure is reported. -/
def ConfigError.message : ConfigError → String
  | unreadable path fault => s!"Failed to read config file {path}: {fault.message}"
  | notObject path => s!"Config file '{path}' must contain a JSON object"
  | unknown path names =>
      s!"Config file '{path}' contains unknown settings: " ++ ", ".intercalate names ++
        ". Valid settings are: " ++ ", ".intercalate Setting.sortedNames
  | invalid path problems => s!"Invalid config file '{path}': {Problem.summary problems}"
  | thresholds (some path) failure =>
      s!"Invalid thresholds in config file '{path}': {failure.message}"
  | thresholds none failure => s!"Invalid thresholds in settings: {failure.message}"

/-- Why settings cannot be loaded. -/
inductive LoadError
  /-- The variables alone give no settings. -/
  | build (failure : BuildError)
  | config (failure : ConfigError)

/-- How the failure is reported. -/
def LoadError.message : LoadError → String
  | build failure => failure.message
  | config failure => failure.message

/-- The variables that a program is started with. -/
abbrev Environment := List (String × String)

namespace Variables

/-- The name in small letters. -/
def fold (name : String) : String := String.ofList (Text.lower name.toList)

/-- Variables by their names in small letters; of several with one name the last counts. -/
def ofPairs (pairs : List (String × Option String)) : Variables :=
  (Json.upsertAll ((Json.upsertAll pairs).map fun (name, value) => (fold name, value))).filterMap
    fun (name, value) => value.map fun value => (name, value)

/-- The variables of an environment. -/
def ofEnvironment (environment : Environment) : Variables :=
  ofPairs (environment.map fun (name, value) => (name, some value))

/-- The variables that a text defines in an environment. -/
def ofText (environment : Environment) (t : Text) : Variables :=
  let known := environment.map fun (name, value) => (name.toList, value.toList)
  ofPairs ((VariableFile.read known t).map fun (name, value) =>
    (String.ofList name, value.map String.ofList))

end Variables

namespace Disk

/-- The path with a tilde at its start replaced by the home folder. -/
def expandHome (disk : Disk) (path : Path) : Path :=
  if !path.isAbsolute && path.parts.head? == some ['~'] then
    ⟨['/'], disk.home ++ path.parts.drop 1⟩
  else path

/-- The text of a file, with its line ends as line breaks. -/
def readText (bytes : List UInt8) : Except Utf8Error Text :=
  (Utf8.decode bytes).map Text.withLineBreaks

end Disk

namespace Settings

/-- The name of the settings file in the current folder. -/
def configName : String := ".vue-analysis.json"

/-- The name of the file of variables when no other is named. -/
def variableFileName : String := ".env"

/-- The variables of a file of variables. A file that is not there has none. -/
def fileVariables (disk : Disk) (environment : Environment) (name : String) :
    Except Utf8Error Variables :=
  let path := disk.expandHome (Path.ofText name.toList)
  match disk.bytes path with
  | .ok bytes => (Disk.readText bytes).map (Variables.ofText environment)
  | .error _ => .ok []

/-- The layer that the variables make. -/
def variableLayer (disk : Disk) (environment : Environment) (variableFile : String) :
    Except BuildError Layer := do
  let fileVariables ← (fileVariables disk environment variableFile).mapError .bytes
  let environment ← (Layer.ofEnvironment (Variables.ofEnvironment environment)).mapError
    .badVariable
  let file ← (Layer.ofVariableFile fileVariables).mapError .badVariable
  return file.coveredBy environment

/-- The settings that a layer over the variables gives. -/
def build (disk : Disk) (environment : Environment) (variableFile : String) (upper : Layer) :
    Except BuildError Settings := do
  let vars ← variableLayer disk environment variableFile
  (ofLayer (vars.coveredBy upper)).mapError .invalid

/-- The path of the settings file: the one that is named, or the first of the usual ones that is
there. -/
def configPath? (disk : Disk) (named : Option String) : Option Path :=
  match named with
  | some name => some (Path.ofText name.toList)
  | none =>
      let usual : List Path :=
        [⟨['/'], disk.current ++ [configName.toList]⟩,
          ⟨['/'], disk.home ++ [".vue-analysis".toList, "config.json".toList]⟩]
      usual.find? disk.reaches

/-- The value that a settings file holds. -/
def readConfig (disk : Disk) (path : Path) : Except ConfigFault Json := do
  let bytes ← (disk.bytes path).mapError .file
  let text ← (Disk.readText bytes).mapError .bytes
  (Json.read text).mapError .data

/-- Why the layer of a settings file gives no settings. -/
def ofBuildError (path : String) : BuildError → ConfigError
  | .bytes failure => .unreadable path (.bytes failure)
  | .badVariable failure => .unreadable path (.badVariable failure)
  | .invalid problems =>
      match (problems.filter (·.defect == .unknownKey)).map fun problem =>
          problem.location.headD "unknown" with
      | [] => .invalid path problems
      | names => .unknown path names

/-- The settings with those that a settings file names taken from it. -/
def withConfig (disk : Disk) (environment : Environment) (settings : Settings) (path : Path) :
    Except ConfigError Settings := do
  let value ← (readConfig disk path).mapError (.unreadable path.toString)
  match value with
  | .object members =>
      let upper := Layer.ofMembers members
      let fromFile ← (build disk environment variableFileName upper).mapError
        (ofBuildError path.toString)
      return settings.taking fromFile fun setting => (upper.given? setting).isSome
  | _ => .error (.notObject path.toString)

/-- A name that says something. -/
def nonempty? (name : Option String) : Option String := name.filter fun name => !name.isEmpty

/-- The settings that a program runs with. -/
def load (disk : Disk) (environment : Environment) (variableFile configFile : Option String) :
    Except LoadError Settings := do
  let variableFile := (nonempty? variableFile).getD variableFileName
  let settings ← (build disk environment variableFile Layer.empty).mapError .build
  let path := configPath? disk (nonempty? configFile)
  let settings ← match path with
    | some path => (withConfig disk environment settings path).mapError .config
    | none => .ok settings
  match settings.thresholds.resolve Thresholds.standard with
  | .ok _ => return settings
  | .error failure => .error (.config (.thresholds (path.map Path.toString) failure))

/-- The settings that the members of an object give, without any variables. -/
def ofMembers (members : List (String × Json)) : Except BuildError Settings :=
  (ofLayer (Layer.ofMembers members)).mapError .invalid

end Settings

end SfcLint
