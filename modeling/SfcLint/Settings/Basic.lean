/-
# Settings

What can be set for an analysis, its report and the service: thresholds, wildcards of files to
leave out, the number of workers, the time for a file, how much is told, the form of the report,
and how often a client may ask. Each setting has a plain name and the name of a variable.
-/

import SfcLint.Json.Lenient
import SfcLint.Report.Format
import SfcLint.Threshold.Resolve

namespace SfcLint

/-- The things that can be set. -/
inductive Setting
  | thresholds
  | exclude
  | workers
  | timeout
  | verbose
  | format
  | rateLimit
  deriving DecidableEq, Repr

namespace Setting

/-- All settings, in the order in which they are checked. -/
def every : List Setting := [thresholds, exclude, workers, timeout, verbose, format, rateLimit]

/-- The plain name of a setting. -/
def name : Setting → String
  | thresholds => "thresholds"
  | exclude => "exclude"
  | workers => "max_workers"
  | timeout => "timeout_per_file"
  | verbose => "verbose"
  | format => "output_format"
  | rateLimit => "rate_limit_per_minute"

/-- The name of the variable for a setting. -/
def variableName : Setting → String
  | thresholds => "VUE_ANALYSIS_THRESHOLDS"
  | exclude => "VUE_ANALYSIS_EXCLUDE"
  | workers => "VUE_ANALYSIS_MAX_WORKERS"
  | timeout => "VUE_ANALYSIS_TIMEOUT_PER_FILE"
  | verbose => "VUE_ANALYSIS_VERBOSE"
  | format => "VUE_ANALYSIS_FORMAT"
  | rateLimit => "VUE_ANALYSIS_RATE_LIMIT_PER_MINUTE"

/-- The names of a setting, the one that counts more first. -/
def names (setting : Setting) : List String := [setting.variableName, setting.name]

/-- The value of the setting has parts, and is data in a variable. -/
def isCompound : Setting → Bool
  | thresholds | exclude => true
  | _ => false

/-- The setting of a name of either kind. -/
def ofName? (name : String) : Option Setting := every.find? fun setting => setting.names.contains name

/-- The plain names of all settings in the order of their characters. -/
def sortedNames : List String := (every.map name).mergeSort fun a b => a ≤ b

end Setting

/-- A value for every setting. -/
structure Settings where
  thresholds : Overrides
  exclude : List String
  workers : Option Int
  timeout : Option Binary64
  verbose : Bool
  format : ReportFormat
  rateLimit : Int

namespace Settings

/-- The values of settings that nobody sets. -/
def standard : Settings where
  thresholds := []
  exclude := []
  workers := none
  timeout := some (.ofInt 30)
  verbose := false
  format := .console
  rateLimit := 120

/-- The settings with those that are named taken from others. -/
def taking (settings others : Settings) (named : Setting → Bool) : Settings where
  thresholds := if named .thresholds then others.thresholds else settings.thresholds
  exclude := if named .exclude then others.exclude else settings.exclude
  workers := if named .workers then others.workers else settings.workers
  timeout := if named .timeout then others.timeout else settings.timeout
  verbose := if named .verbose then others.verbose else settings.verbose
  format := if named .format then others.format else settings.format
  rateLimit := if named .rateLimit then others.rateLimit else settings.rateLimit

/-- The settings as a data value, by their plain names. -/
def toJson (settings : Settings) : Json :=
  .object [
    ("thresholds", .object settings.thresholds),
    ("exclude", .list (settings.exclude.map Json.string)),
    ("max_workers", (settings.workers.map Json.int).getD .null),
    ("timeout_per_file", (settings.timeout.map Json.float).getD .null),
    ("verbose", .bool settings.verbose),
    ("output_format", .string settings.format.name),
    ("rate_limit_per_minute", .int settings.rateLimit)]

/-- The content of a fresh settings file. -/
def initialDocument : Json :=
  .object [
    ("thresholds", .object [
      ("templateExpressionLength", .int 40),
      ("templateDepth", .int 6),
      ("componentScriptLength", .int 500),
      ("componentMethodCount", .int 20),
      ("componentPropsCount", .int 15),
      ("componentComputedCount", .int 10)]),
    ("exclude", .list [
      .string "node_modules/**",
      .string "dist/**",
      .string "**/*.test.vue",
      .string "**/*.spec.vue"]),
    ("verbose", .bool false)]

end Settings

end SfcLint
