/-
# Settings that are not accepted

Settings are built from the variables first, and only then a settings file is read over them. What
is wrong with the file, or with the thresholds at last, is reported, and the run ends with a status
for it. What is wrong with the variables alone is not: it ends the run in a crash. So loading either
gives settings whose thresholds are accepted or reports why it does not, exactly when the variables
alone are accepted: a file of variables is text and holds no variable that no setting has, and each
setting takes what the environment, or else that file, holds for it.
-/

import SfcLint.CommandLine.Session
import SfcLint.Proofs.Settings.Config

namespace SfcLint

/-! ## Values that count -/

/-- Whether a setting takes what lies over something else depends on the upper value alone. -/
theorem Setting.exists_has_coverValue_iff {setting : Setting} {lower upper : Option GivenValue} :
    (∃ value, setting.Has (Layer.coverValue lower upper) value) ↔
      ∃ value, setting.Has (upper.or lower) value := by
  by_cases thresholds : setting = .thresholds
  · subst thresholds
    cases upper with
    | none => cases lower <;> rfl
    | some upper =>
      have alone (overrides : Overrides) : Setting.thresholds.Has (some upper) overrides ↔
          upper.value = .object overrides := read_thresholds_eq_ok_iff
      simp only [has_thresholds_coverValue_iff, Option.some_or, alone]
      -- Laid over anything an object stays one, and anything else is taken as it is.
      by_cases parts : ∃ members, upper.value = .object members
      · obtain ⟨members, same⟩ := parts
        obtain ⟨covered, laid⟩ := (dataOf lower).exists_object_coveredBy members
        rw [same, laid]
        exact ⟨fun _ => ⟨members, rfl⟩, fun _ => ⟨covered, rfl⟩⟩
      · rw [Json.coveredBy_of_ne_object (not_exists.mp parts)]
  · exact exists_congr fun value => has_coverValue_iff thresholds

namespace Settings

variable {disk : Disk} {environment : Environment} {name : String}
  {variableFile configFile : Option String}

/-- The variables of an environment and of a file of variables are accepted. -/
structure Accepted (disk : Disk) (environment : Environment) (name : String) : Prop where
  /-- A variable of the file that is not empty belongs to a setting. -/
  known : ∀ vars, fileVariables disk environment name = .ok vars →
    ∀ given ∈ vars, given.2.isEmpty = true ∨ Layer.belongs given.1 = true
  /-- Both sources can be read, and what counts of a setting is a value of it. -/
  taken : ∀ setting, ∃ inEnvironment inFile value,
    Said disk environment name setting inEnvironment inFile ∧
      setting.Has (inEnvironment.or inFile) value

/-- The settings with some values. -/
def ofValues (value : ∀ setting : Setting, setting.Value) : Settings :=
  ⟨value .thresholds, value .exclude, value .workers, value .timeout, value .verbose,
    value .format, value .rateLimit⟩

theorem get_ofValues (value : ∀ setting : Setting, setting.Value) (setting : Setting) :
    (ofValues value).get setting = value setting := by
  cases setting <;> rfl

theorem accepted_of_build {settings : Settings}
    (built : build disk environment name Layer.empty = .ok settings) :
    Accepted disk environment name := by
  obtain ⟨layer, made, built'⟩ := Except.bind_eq_ok_iff.mp built
  obtain ⟨vars, upper, lower, read, -, -, rfl⟩ := variableLayer_eq_ok_iff.mp made
  obtain ⟨none, -⟩ := ofLayer_eq_ok_iff.mp (Except.mapError_eq_ok_iff.mp built')
  constructor
  · intro vars' read' given member
    obtain rfl := Except.ok.inj (read.symm.trans read')
    rw [Layer.coveredBy, List.append_eq_nil_iff, List.map_eq_nil_iff,
      List.filter_eq_nil_iff] at none
    have belongs := none.1 given member
    simp only [Bool.and_eq_true, Bool.not_eq_true', not_and, Bool.not_eq_false] at belongs
    cases empty : given.2.isEmpty with
    | true => exact .inl rfl
    | false => exact .inr (belongs empty)
  · intro setting
    obtain ⟨inEnvironment, inFile, said, has⟩ := exists_said_of_build built setting
    rw [Layer.coverValue_empty] at has
    obtain ⟨value, has⟩ := Setting.exists_has_coverValue_iff.mp ⟨_, has⟩
    exact ⟨inEnvironment, inFile, value, said, has⟩

/-- From variables that are accepted, settings are built that have for each setting what counts of
it. -/
theorem exists_build_of_accepted (accepted : Accepted disk environment name) :
    ∃ settings, build disk environment name Layer.empty = .ok settings := by
  obtain ⟨known, taken⟩ := accepted
  choose inEnvironment inFile counted said counts using taken
  have readable (setting : Setting) := Setting.exists_has_coverValue_iff.mpr ⟨_, counts setting⟩
  choose value has using readable
  -- All settings are said something of by one and the same file of variables.
  obtain ⟨vars, read, -⟩ := (said .thresholds).ofFile
  have inFileOf (setting : Setting) :
      VariableSource.file.given? vars setting = .ok (inFile setting) := by
    obtain ⟨vars', read', given⟩ := (said setting).ofFile
    obtain rfl := Except.ok.inj (read.symm.trans read')
    exact given
  obtain ⟨upper, held, above⟩ := Layer.exists_valuesOf fun setting => (said setting).ofEnvironment
  obtain ⟨lower, fileHeld, below⟩ := Layer.exists_valuesOf inFileOf
  have layer := variableLayer_eq_ok_iff.mpr ⟨vars, upper, lower, read, held, fileHeld, rfl⟩
  refine ⟨ofValues value, Except.bind_eq_ok_iff.mpr ⟨_, layer, ?_⟩⟩
  rw [Except.mapError_eq_ok_iff, ofLayer_eq_ok_iff]
  constructor
  · rw [Layer.coveredBy, List.append_eq_nil_iff, List.map_eq_nil_iff, List.filter_eq_nil_iff]
    refine ⟨fun given member => ?_, rfl⟩
    rcases known vars read given member with empty | belongs
    · simp [empty]
    · simp [belongs]
  · intro setting
    rw [get_ofValues]
    change setting.Has (Layer.coverValue (Layer.coverValue (lower.lookup setting)
      (upper.lookup setting)) (Layer.empty.given? setting)) (value setting)
    rw [Layer.coverValue_empty, above, below]
    exact has setting

/-- Settings can be built from the variables exactly when these are accepted. -/
theorem exists_build_iff :
    (∃ settings, build disk environment name Layer.empty = .ok settings) ↔
      Accepted disk environment name :=
  ⟨fun ⟨_, built⟩ => accepted_of_build built, exists_build_of_accepted⟩

/-! ## Loading -/

/-- Loading gives settings whose thresholds are accepted, or a failure that is reported. -/
def Reported : Except LoadError Settings → Prop
  | .ok settings => ∃ thresholds, settings.thresholds.resolve Thresholds.standard = .ok thresholds
  | .error (.config _) => True
  | .error (.build _) => False

theorem reported_load_iff :
    Reported (load disk environment variableFile configFile) ↔
      Accepted disk environment ((nonempty? variableFile).getD variableFileName) := by
  rw [← exists_build_iff]
  cases built : build disk environment ((nonempty? variableFile).getD variableFileName)
      Layer.empty with
  | error failure =>
    have crashed : load disk environment variableFile configFile = .error (.build failure) := by
      rw [load, built]
      rfl
    rw [crashed]
    exact iff_of_false id (by simp)
  | ok base =>
    refine iff_of_true ?_ ⟨base, rfl⟩
    rw [load, built]
    -- From here on each step goes on with settings or ends in a failure that is reported.
    simp only [bind, Except.bind, Except.mapError]
    cases configPath? disk (nonempty? configFile) with
    | none =>
      dsimp only
      split
      next thresholds resolved => exact ⟨thresholds, resolved⟩
      next => trivial
    | some path =>
      dsimp only
      cases withConfig disk environment base path with
      | error failure => trivial
      | ok settings =>
        dsimp only
        split
        next thresholds resolved => exact ⟨thresholds, resolved⟩
        next => trivial

end Settings

/-! ## Running -/

/-- The file of variables and the settings file that a command line names, if its command loads
settings. -/
def CommandLine.loads? (words : List String) : Option (Option String × Option String) :=
  match read (words.map String.toList) with
  | .error _ => none
  | .ok invocation =>
      match invocation.command with
      | some (.analyze options) => some (invocation.variableFile, options.config)
      | some (.serve _) => some (invocation.variableFile, none)
      | _ => none

namespace Session

open Settings (Accepted Reported nonempty? variableFileName)

variable {words : List String} {variableFile configFile : Option String}

/-- What a run comes to that gets no settings. -/
def withoutSettings (session : Session) : LoadError → Except Crash Outcome
  | .config failure => .ok (Outcome.logging session.disk 1 .error failure.message)
  | .build failure => .error (.settings failure)

/-- A run whose command loads settings ends where there are none. -/
theorem runDespite_eq_of_load_error {session : Session} {failure : LoadError}
    (loads : CommandLine.loads? words = some (variableFile, configFile))
    (failed : Settings.load session.disk session.environment variableFile configFile =
      .error failure) (stuck : List String) :
    session.runDespite stuck words = session.withoutSettings failure := by
  have ends : session.settings variableFile configFile =
      (session.withoutSettings failure).map .error := by
    unfold settings
    simp only [failed]
    cases failure with
    | config failure => rfl
    | build failure => rfl
  rw [CommandLine.loads?] at loads
  rw [runDespite]
  -- Of the commands only the analysis and the service load settings, and both do so first.
  split at loads
  next => contradiction
  next invocation read =>
    simp only [read]
    split at loads
    next options command =>
      simp only [Option.some.injEq, Prod.mk.injEq] at loads
      obtain ⟨rfl, rfl⟩ := loads
      simp only [command, analyze, ends]
      cases session.withoutSettings failure <;> rfl
    next options command =>
      simp only [Option.some.injEq, Prod.mk.injEq] at loads
      obtain ⟨rfl, rfl⟩ := loads
      simp only [command, serve, ends]
      cases session.withoutSettings failure <;> rfl
    next => contradiction

/-- **What is wrong with settings is reported, unless it is wrong with the variables alone.**
Loading gives settings whose thresholds are accepted, or a failure that is reported, exactly when
the variables alone are accepted. A run that gets no settings then ends with the failure in the log
and with status 1. When the variables are not accepted it crashes. -/
theorem reported_iff_accepted (session : Session) (variableFile configFile : Option String) :
    let loaded := Settings.load session.disk session.environment variableFile configFile
    let accepted := Accepted session.disk session.environment
      ((nonempty? variableFile).getD variableFileName)
    (Reported loaded ↔ accepted) ∧
      ∀ words, CommandLine.loads? words = some (variableFile, configFile) →
        ∀ failure, loaded = .error failure → ∀ stuck,
          (accepted → session.runDespite stuck words =
            .ok (Outcome.logging session.disk 1 .error failure.message)) ∧
          (¬ accepted → ∃ cause, failure = .build cause ∧
            session.runDespite stuck words = .error (.settings cause)) := by
  intro loaded accepted
  have reported : Reported loaded ↔ accepted := Settings.reported_load_iff
  refine ⟨reported, ?_⟩
  intro words loads failure failed stuck
  rw [← reported, failed]
  cases failure with
  | config failure =>
    refine ⟨fun _ => runDespite_eq_of_load_error loads failed stuck, ?_⟩
    exact fun crashed => absurd trivial crashed
  | build failure =>
    refine ⟨fun reported => reported.elim, fun _ => ⟨failure, rfl, ?_⟩⟩
    exact runDespite_eq_of_load_error loads failed stuck

/-- A session in a folder whose settings file holds a list. -/
def listFile : Session where
  disk := ⟨[(["work".toList, Settings.configName.toList], "[]".toList.map Char.toUInt8)], [],
    ["work".toList], ["home".toList]⟩
  environment := []
  moment := .ofSeconds 0

set_option maxRecDepth 10000 in
theorem load_listFile : Settings.load listFile.disk listFile.environment none none =
    .error (.config (.notObject "/work/.vue-analysis.json")) := rfl

/-- The settings file is reported, and the run ends with status 1. -/
theorem reported_iff_accepted_listFile :
    CommandLine.loads? ["analyze", "A.vue"] = some (none, none) ∧
      Settings.load listFile.disk listFile.environment none none =
        .error (.config (.notObject "/work/.vue-analysis.json")) ∧
      Accepted listFile.disk listFile.environment variableFileName ∧
      listFile.run ["analyze", "A.vue"] = .ok (Outcome.logging listFile.disk 1 .error
        "Config file '/work/.vue-analysis.json' must contain a JSON object") := by
  have loads : CommandLine.loads? ["analyze", "A.vue"] = some (none, none) := by decide +kernel
  obtain ⟨reported, ended⟩ := reported_iff_accepted listFile none none
  have accepted := reported.mp (load_listFile ▸ trivial)
  exact ⟨loads, load_listFile, accepted, (ended _ loads _ load_listFile []).1 accepted⟩

/-- A session with a word where the number of workers should be. -/
def wordyWorkers : Session where
  disk := ⟨[], [], ["work".toList], ["home".toList]⟩
  environment := [("VUE_ANALYSIS_MAX_WORKERS", "abc")]
  moment := .ofSeconds 0

/-- A variable that its setting does not take is not reported, and the run has no status. -/
theorem variable_not_reported :
    ¬ ∀ (session : Session) (variableFile configFile : Option String),
      Reported (Settings.load session.disk session.environment variableFile configFile) := by
  intro always
  have crashed : ∃ failure, Settings.load wordyWorkers.disk wordyWorkers.environment none none =
      .error (.build failure) := ⟨_, rfl⟩
  obtain ⟨failure, crashed⟩ := crashed
  have reported := always wordyWorkers none none
  rw [crashed] at reported
  exact reported

end Session

end SfcLint
