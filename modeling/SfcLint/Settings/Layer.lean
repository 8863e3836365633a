/-
# Layers of settings

Settings come in layers: what a file or a caller says lies over the variables of the environment,
those over a file of variables, and those over the standard values. A layer gives values to some
settings, each under the name that was used, and may hold names that no setting has. In a layer
over another one values that are objects are laid over each other, and all others replace what lies
below.
-/

import SfcLint.Json.Value
import SfcLint.Settings.Basic
import SfcLint.Text.Case

namespace SfcLint

/-- Where variables come from. -/
inductive VariableSource
  | environment
  | file
  deriving DecidableEq, Repr

/-- How a source is named in messages. -/
def VariableSource.name : VariableSource → String
  | environment => "EnvSettingsSource"
  | file => "DotEnvSettingsSource"

/-- A value and the name under which it was given. -/
structure GivenValue where
  key : String
  value : Json

/-- Values for some settings, and names that no setting has. -/
structure Layer where
  given? : Setting → Option GivenValue
  unknown : List String

/-- The variable for a setting holds no data. -/
structure UnreadableVariable where
  setting : Setting
  source : VariableSource
  deriving DecidableEq, Repr

/-- How an unreadable variable is reported. -/
def UnreadableVariable.message (failure : UnreadableVariable) : String :=
  s!"error parsing value for field \"{failure.setting.name}\" " ++
    s!"from source \"{failure.source.name}\""

/-- Variables by their names in small letters. -/
abbrev Variables := List (String × String)

namespace Layer

/-- The layer that says nothing. -/
def empty : Layer := ⟨fun _ => none, []⟩

/-- The layer that the members of an object make. -/
def ofMembers (members : List (String × Json)) : Layer where
  given? setting :=
    setting.names.findSome? fun name => (members.lookup name).map fun value => ⟨name, value⟩
  unknown := (members.map (·.1)).filter fun name => (Setting.ofName? name).isNone

/-- The name of the variable for a setting, in small letters. -/
def variableKey (setting : Setting) : String :=
  String.ofList (Text.lower setting.variableName.toList)

/-- The value of a setting that a variable holds, if it holds one. -/
def ofVariable (source : VariableSource) (setting : Setting) (content : String) :
    Except UnreadableVariable (Option GivenValue) :=
  if setting.isCompound then
    match Json.read content.toList with
    | .ok .null => .ok none
    | .ok value => .ok (some ⟨setting.variableName, value⟩)
    | .error _ => .error ⟨setting, source⟩
  else .ok (some ⟨setting.variableName, .string content⟩)

/-- The values that variables hold. -/
def valuesOf (source : VariableSource) (vars : Variables) :
    Except UnreadableVariable (List (Setting × GivenValue)) := do
  let found ← Setting.every.mapM fun setting =>
    match vars.lookup (variableKey setting) with
    | none => .ok none
    | some content => do
        return (← ofVariable source setting content).map fun given => (setting, given)
  return found.filterMap id

/-- The variable belongs to a setting. A longer name than that of a setting whose value has parts
still belongs to it. -/
def belongs (name : String) : Bool :=
  Setting.every.any fun setting =>
    name == variableKey setting || (setting.isCompound && (variableKey setting).isPrefixOf name)

/-- The layer that the variables of the environment make. Variables that belong to no setting are
not meant for this program. -/
def ofEnvironment (vars : Variables) : Except UnreadableVariable Layer := do
  let values ← valuesOf .environment vars
  return ⟨fun setting => values.lookup setting, []⟩

/-- The layer that a file of variables makes. Variables that belong to no setting are unknown
names, unless they are empty. -/
def ofVariableFile (vars : Variables) : Except UnreadableVariable Layer := do
  let values ← valuesOf .file vars
  return ⟨fun setting => values.lookup setting,
    (vars.filter fun (name, content) => !content.isEmpty && !belongs name).map (·.1)⟩

/-- A value covered by an upper one. -/
def coverValue : Option GivenValue → Option GivenValue → Option GivenValue
  | none, upper => upper
  | some lower, none => some lower
  | some lower, some upper => some ⟨upper.key, lower.value.coveredBy upper.value⟩

/-- A layer covered by an upper one. -/
def coveredBy (lower upper : Layer) : Layer where
  given? setting := coverValue (lower.given? setting) (upper.given? setting)
  unknown := lower.unknown ++ upper.unknown.filter fun name => !lower.unknown.contains name

end Layer

namespace Settings

/-- A value that is read, with its key before the place of a defect. -/
def readUnder (read : Json → Except (List Problem) α) (given : GivenValue) :
    Except (List Problem) α :=
  (read given.value).mapError (·.map (Problem.within given.key))

/-- A value as it is given, or else the standard one. -/
def readOr (given : Option GivenValue) (read : Json → Except (List Problem) α) (standard : α) :
    Except (List Problem) α :=
  match given with
  | some given => readUnder read given
  | none => .ok standard

/-- A value without parts. -/
def plain (read : Json → Except Defect α) (value : Json) : Except (List Problem) α :=
  (read value).mapError fun defect => [⟨[], defect⟩]

/-- A value as values of thresholds. -/
def readThresholds : Json → Except Defect Overrides
  | .object members => .ok members
  | _ => .error .notObject

/-- The texts in a list and the problems of its other items. -/
def readTexts : Json → Except (List Problem) (List String)
  | .list items =>
      let problems := items.zipIdx.filterMap fun (item, index) =>
        match item.toText with
        | .ok _ => none
        | .error defect => some ⟨[toString index], defect⟩
      if problems.isEmpty then
        .ok (items.filterMap fun item => item.toText.toOption)
      else .error problems
  | _ => .error [⟨[], .notList⟩]

/-- A value as the form of a report. -/
def readFormat : Json → Except Defect ReportFormat
  | .string name =>
      match ReportFormat.ofName? name with
      | some format => .ok format
      | none => .error .notOption
  | _ => .error .notOption

/-- The problems of a value that could not be read. -/
def problemsOf : Except (List Problem) α → List Problem
  | .ok _ => []
  | .error problems => problems

/-- The settings that a layer gives, over the standard ones. -/
def ofLayer (layer : Layer) : Except (List Problem) Settings :=
  let thresholds := readOr (layer.given? .thresholds) (plain readThresholds) standard.thresholds
  let exclude := readOr (layer.given? .exclude) readTexts standard.exclude
  let workers :=
    readOr (layer.given? .workers) (plain (Json.optionally Json.toInt)) standard.workers
  let timeout :=
    readOr (layer.given? .timeout) (plain (Json.optionally Json.toFloat)) standard.timeout
  let verbose := readOr (layer.given? .verbose) (plain Json.toBool) standard.verbose
  let format := readOr (layer.given? .format) (plain readFormat) standard.format
  let rateLimit := readOr (layer.given? .rateLimit) (plain Json.toInt) standard.rateLimit
  let unknown : List Problem := layer.unknown.map fun name => ⟨[name], .unknownKey⟩
  match thresholds, exclude, workers, timeout, verbose, format, rateLimit, unknown with
  | .ok thresholds, .ok exclude, .ok workers, .ok timeout, .ok verbose, .ok format, .ok rateLimit,
      [] => .ok ⟨thresholds, exclude, workers, timeout, verbose, format, rateLimit⟩
  | thresholds, exclude, workers, timeout, verbose, format, rateLimit, unknown =>
      .error (problemsOf thresholds ++ problemsOf exclude ++ problemsOf workers ++
        problemsOf timeout ++ problemsOf verbose ++ problemsOf format ++ problemsOf rateLimit ++
        unknown)

end Settings

end SfcLint
