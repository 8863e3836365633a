/-
# Settings files over variables

A settings file is read over the variables of the environment and of the usual file of variables,
and the settings that it names are taken from there. A setting has the value of the file alone
unless it is the thresholds: what the variables say about thresholds that the file does not name is
kept. So with values for the thresholds in a settings file the thresholds are those of the file
alone exactly when the variables set nothing beside them. A setting that the file does not name has
its value from the variables, those of the environment over those of a file, or the standard one.
-/

import Mathlib.Data.List.Pairwise
import SfcLint.Proofs.Settings.Values
import SfcLint.Settings.Load

namespace SfcLint

/-! ## Variables -/

/-- What a source of variables says of a setting. -/
def VariableSource.given? (source : VariableSource) (vars : Variables) (setting : Setting) :
    Except UnreadableVariable (Option GivenValue) :=
  match vars.lookup (Layer.variableKey setting) with
  | none => .ok none
  | some content => Layer.ofVariable source setting content

namespace Layer

variable {source : VariableSource} {vars : Variables}

theorem valuesOf_eq (source : VariableSource) (vars : Variables) :
    valuesOf source vars =
      (fun found => found.filterMap id) <$> Setting.every.mapM fun setting =>
        (fun given => given.map (setting, ·)) <$> source.given? vars setting := by
  rw [valuesOf, map_eq_pure_bind]
  congr
  funext setting
  rw [VariableSource.given?]
  cases vars.lookup (variableKey setting) with
  | none => rfl
  | some content => exact (map_eq_pure_bind _ _).symm

theorem lookup_filterMap (given : Setting → Option GivenValue) (settings : List Setting)
    (setting : Setting) :
    (settings.filterMap fun other => (given other).map (other, ·)).lookup setting =
      if setting ∈ settings then given setting else none := by
  induction settings with
  | nil => rfl
  | cons first later ih =>
    by_cases same : setting = first
    · subst same
      cases known : given setting <;> simp [known, ih]
    · cases known : given first <;> simp [known, ih, same, List.lookup_cons, beq_false_of_ne same]

theorem mem_every (setting : Setting) : setting ∈ Setting.every := by cases setting <;> decide

/-- When every variable holds the data for its setting, these are the values that are held. -/
theorem exists_valuesOf {given : Setting → Option GivenValue}
    (known : ∀ setting, source.given? vars setting = .ok (given setting)) :
    ∃ values, valuesOf source vars = .ok values ∧
      ∀ setting, values.lookup setting = given setting := by
  refine ⟨Setting.every.filterMap fun setting => (given setting).map (setting, ·), ?_, ?_⟩
  · simp only [valuesOf_eq, known]
    rfl
  · intro setting
    rw [lookup_filterMap, if_pos (mem_every setting)]

theorem lookup_valuesOf {values : List (Setting × GivenValue)}
    (held : valuesOf source vars = .ok values) (setting : Setting) :
    source.given? vars setting = .ok (values.lookup setting) := by
  -- One variable without the data for its setting would keep all values from being read.
  have readable (setting : Setting) : ∃ given, source.given? vars setting = .ok given := by
    refine Except.not_fails_iff.mp fun failing => ?_
    have failing : (valuesOf source vars).Fails := by
      rw [valuesOf_eq, Except.fails_map_iff, Except.fails_mapM_iff]
      exact ⟨setting, mem_every setting, Except.fails_map_iff.mpr failing⟩
    exact Except.not_fails_ok (held ▸ failing)
  choose given known using readable
  obtain ⟨collected, same, looked⟩ := exists_valuesOf known
  obtain rfl := Except.ok.inj (held.symm.trans same)
  rw [looked, known]

end Layer

namespace Settings

/-- What the variables say of a setting, in the environment and in the file of variables of a
name. -/
structure Said (disk : Disk) (environment : Environment) (name : String) (setting : Setting)
    (inEnvironment inFile : Option GivenValue) : Prop where
  ofEnvironment : VariableSource.environment.given? (Variables.ofEnvironment environment) setting =
    .ok inEnvironment
  ofFile : ∃ vars, fileVariables disk environment name = .ok vars ∧
    VariableSource.file.given? vars setting = .ok inFile

variable {disk : Disk} {environment : Environment} {name : String} {settings : Settings}

/-- The layer of the variables has the values of both sources, and the names of the file that belong
to no setting. -/
theorem variableLayer_eq_ok_iff {layer : Layer} :
    variableLayer disk environment name = .ok layer ↔
      ∃ vars upper lower, fileVariables disk environment name = .ok vars ∧
        Layer.valuesOf .environment (Variables.ofEnvironment environment) = .ok upper ∧
        Layer.valuesOf .file vars = .ok lower ∧
        layer = ⟨fun setting => Layer.coverValue (lower.lookup setting) (upper.lookup setting),
          (vars.filter fun (name, content) =>
            !content.isEmpty && !Layer.belongs name).map (·.1)⟩ := by
  constructor
  · intro built
    obtain ⟨vars, read, built⟩ := Except.bind_eq_ok_iff.mp built
    obtain ⟨above, environment, built⟩ := Except.bind_eq_ok_iff.mp built
    obtain ⟨below, file, built⟩ := Except.bind_eq_ok_iff.mp built
    obtain rfl := Except.pure_eq_ok_iff.mp built
    rw [Except.mapError_eq_ok_iff] at read environment file
    obtain ⟨upper, held, made⟩ := Except.bind_eq_ok_iff.mp environment
    obtain rfl := Except.pure_eq_ok_iff.mp made
    obtain ⟨lower, fileHeld, made⟩ := Except.bind_eq_ok_iff.mp file
    obtain rfl := Except.pure_eq_ok_iff.mp made
    refine ⟨vars, upper, lower, read, held, fileHeld, ?_⟩
    rw [Layer.coveredBy, List.filter_nil, List.append_nil]
  · rintro ⟨vars, upper, lower, read, held, fileHeld, rfl⟩
    rw [variableLayer, Layer.ofEnvironment, read, held]
    refine Except.bind_eq_ok_iff.mpr ⟨vars, rfl, Except.bind_eq_ok_iff.mpr ⟨_, rfl, ?_⟩⟩
    rw [Layer.ofVariableFile, fileHeld]
    refine Except.bind_eq_ok_iff.mpr ⟨_, rfl, Except.pure_eq_ok_iff.mpr ?_⟩
    rw [Layer.coveredBy, List.filter_nil, List.append_nil]

theorem exists_said_of_variableLayer {layer : Layer}
    (built : variableLayer disk environment name = .ok layer) (setting : Setting) :
    ∃ inEnvironment inFile, Said disk environment name setting inEnvironment inFile ∧
      layer.given? setting = Layer.coverValue inFile inEnvironment := by
  obtain ⟨vars, upper, lower, read, held, fileHeld, rfl⟩ := variableLayer_eq_ok_iff.mp built
  exact ⟨upper.lookup setting, lower.lookup setting,
    ⟨Layer.lookup_valuesOf held setting, vars, read, Layer.lookup_valuesOf fileHeld setting⟩, rfl⟩

theorem exists_said_of_build {upper : Layer}
    (built : build disk environment name upper = .ok settings) (setting : Setting) :
    ∃ inEnvironment inFile, Said disk environment name setting inEnvironment inFile ∧
      setting.Has (Layer.coverValue (Layer.coverValue inFile inEnvironment) (upper.given? setting))
        (settings.get setting) := by
  obtain ⟨vars, layer, built⟩ := Except.bind_eq_ok_iff.mp built
  obtain ⟨inEnvironment, inFile, said, given⟩ := exists_said_of_variableLayer layer setting
  obtain ⟨-, has⟩ := ofLayer_eq_ok_iff.mp (Except.mapError_eq_ok_iff.mp built)
  exact ⟨inEnvironment, inFile, said, given ▸ has setting⟩

end Settings

/-! ## Members of a settings file -/

theorem Layer.coverValue_empty (lower : Option GivenValue) (setting : Setting) :
    coverValue lower (empty.given? setting) = lower := by
  cases lower <;> rfl

theorem Setting.ofName?_eq_some_iff {setting : Setting} {name : String} :
    ofName? name = some setting ↔ name ∈ setting.names := by
  constructor
  · intro named
    have named := List.find?_some named
    exact List.contains_iff_mem.mp named
  · intro member
    cases setting <;>
      (simp only [names, List.mem_cons, List.not_mem_nil, or_false] at member
       rcases member with rfl | rfl <;> decide)

namespace Layer

variable {members : List (String × Json)} {setting : Setting} {name : String} {value : Json}

/-- No setting has two members, be it under one name or under two. -/
def NamesOnce (members : List (String × Json)) : Prop :=
  (members.filterMap fun member => Setting.ofName? member.1).Nodup

instance : DecidablePred NamesOnce := fun _ => inferInstanceAs (Decidable (List.Nodup _))

theorem NamesOnce.eq (once : NamesOnce members) {member other : String × Json}
    (held : member ∈ members) (otherHeld : other ∈ members)
    (named : Setting.ofName? member.1 = some setting)
    (otherNamed : Setting.ofName? other.1 = some setting) : member = other := by
  let Same (member other : String × Json) : Prop :=
    Setting.ofName? member.1 = some setting → Setting.ofName? other.1 = some setting →
      member = other
  -- Two members with a setting in common would stand apart in the row, one before the other.
  have symmetric : Std.Symm Same := ⟨fun _ _ same first second => (same second first).symm⟩
  have alone : members.Pairwise Same := (List.pairwise_filterMap.mp once).imp
    fun apart first second => absurd rfl (apart _ first _ second)
  exact alone.forall_of_forall (fun _ _ _ _ => rfl) held otherHeld named otherNamed

/-- What a file says of a setting is the member that names it. -/
theorem given?_ofMembers_of_named (once : NamesOnce members) (held : (name, value) ∈ members)
    (named : Setting.ofName? name = some setting) :
    (ofMembers members).given? setting = some ⟨name, value⟩ := by
  have present : ((ofMembers members).given? setting).isSome := by
    rw [ofMembers, List.findSome?_isSome_iff]
    refine ⟨name, Setting.ofName?_eq_some_iff.mp named, ?_⟩
    rw [Option.isSome_map, ← Option.ne_none_iff_isSome, Ne, List.lookup_eq_none_iff]
    exact fun absent => bne_iff_ne.mp (absent _ held) rfl
  obtain ⟨given, found⟩ := Option.isSome_iff_exists.mp present
  obtain ⟨spelling, listed, same⟩ := List.exists_of_findSome?_eq_some found
  obtain ⟨other, found', rfl⟩ := Option.map_eq_some_iff.mp same
  have spelled := Setting.ofName?_eq_some_iff.mpr listed
  obtain ⟨rfl, rfl⟩ := Prod.mk.inj (once.eq (Json.mem_of_lookup found') held spelled named)
  exact found

theorem given?_ofMembers_of_unnamed
    (unnamed : ∀ member ∈ members, Setting.ofName? member.1 ≠ some setting) :
    (ofMembers members).given? setting = none := by
  rw [ofMembers, List.findSome?_eq_none_iff]
  intro name listed
  rw [Option.map_eq_none_iff]
  refine Json.lookup_eq_none fun held => ?_
  obtain ⟨member, given, rfl⟩ := List.mem_map.mp held
  exact unnamed member given (Setting.ofName?_eq_some_iff.mpr listed)

end Layer

/-! ## Loading -/

namespace Settings

variable {disk : Disk} {environment : Environment} {settings base : Settings} {path : Path}
  {variableFile configFile : Option String}

theorem proper_of_readConfig {value : Json} (read : readConfig disk path = .ok value) :
    value.Proper := by
  obtain ⟨bytes, -, read⟩ := Except.bind_eq_ok_iff.mp read
  obtain ⟨text, -, read⟩ := Except.bind_eq_ok_iff.mp read
  exact Json.proper_of_read (Except.mapError_eq_ok_iff.mp read)

theorem exists_of_withConfig (configured : withConfig disk environment base path = .ok settings) :
    ∃ members fromFile, readConfig disk path = .ok (.object members) ∧
      build disk environment variableFileName (Layer.ofMembers members) = .ok fromFile ∧
      settings = base.taking fromFile fun setting =>
        ((Layer.ofMembers members).given? setting).isSome := by
  obtain ⟨value, read, configured⟩ := Except.bind_eq_ok_iff.mp configured
  rw [Except.mapError_eq_ok_iff] at read
  split at configured
  next members =>
    obtain ⟨fromFile, built, taken⟩ := Except.bind_eq_ok_iff.mp configured
    exact ⟨members, fromFile, read, Except.mapError_eq_ok_iff.mp built,
      (Except.pure_eq_ok_iff.mp taken).symm⟩
  next => contradiction

theorem exists_of_load (loaded : load disk environment variableFile configFile = .ok settings)
    (found : configPath? disk (nonempty? configFile) = some path) :
    ∃ base, build disk environment ((nonempty? variableFile).getD variableFileName) Layer.empty =
        .ok base ∧
      withConfig disk environment base path = .ok settings := by
  obtain ⟨base, built, loaded⟩ := Except.bind_eq_ok_iff.mp loaded
  simp only [found] at loaded
  obtain ⟨configured, read, loaded⟩ := Except.bind_eq_ok_iff.mp loaded
  split at loaded
  next =>
    obtain rfl := Except.pure_eq_ok_iff.mp loaded
    exact ⟨base, Except.mapError_eq_ok_iff.mp built, Except.mapError_eq_ok_iff.mp read⟩
  next => contradiction

/-- When settings are loaded with a settings file that names no setting twice, every setting that it
names has the value of the file alone, but for the thresholds. Those are the file's laid over what
the variables of the environment and of the usual file say, so that they are those of the file alone
exactly when the variables set none beside them. Every other setting has its value from the
variables, of which those of the environment count first, or else the standard one. -/
theorem load_over_config (loaded : load disk environment variableFile configFile = .ok settings)
    (found : configPath? disk (nonempty? configFile) = some path) :
    ∃ members, readConfig disk path = .ok (.object members) ∧
      (Layer.NamesOnce members → ∀ name value setting, (name, value) ∈ members →
        Setting.ofName? name = some setting →
          (setting ≠ .thresholds → setting.read value = .ok (settings.get setting)) ∧
          (setting = .thresholds → ∃ inEnvironment inFile,
            Said disk environment variableFileName .thresholds inEnvironment inFile ∧
            let lower := Setting.dataOf (Layer.coverValue inFile inEnvironment)
            (∀ path, (Json.object settings.thresholds).spot path =
              if value.lacks path then lower.spot path else value.spot path) ∧
            ((Json.object settings.thresholds).Alike value ↔
              ∀ path, value.lacks path = true → lower.spot path = .empty))) ∧
      ∀ setting, (∀ member ∈ members, Setting.ofName? member.1 ≠ some setting) →
        ∃ inEnvironment inFile,
          Said disk environment ((nonempty? variableFile).getD variableFileName) setting
            inEnvironment inFile ∧
          setting.Has (Layer.coverValue inFile inEnvironment) (settings.get setting) ∧
          (setting ≠ .thresholds →
            setting.Has (inEnvironment.or inFile) (settings.get setting)) := by
  obtain ⟨base, built, configured⟩ := exists_of_load loaded found
  obtain ⟨members, fromFile, read, builtFromFile, rfl⟩ := exists_of_withConfig configured
  refine ⟨members, read, fun once name value setting held named => ?_, fun setting unnamed => ?_⟩
  · -- A setting that the file names is the one read with the file over the variables.
    have given := Layer.given?_ofMembers_of_named once held named
    obtain ⟨inEnvironment, inFile, said, has⟩ := exists_said_of_build builtFromFile setting
    rw [given] at has
    have taken : (base.taking fromFile fun setting =>
        ((Layer.ofMembers members).given? setting).isSome).get setting =
          fromFile.get setting := by
      rw [get_taking, given, Option.isSome_some, if_pos rfl]
    refine ⟨fun other => ?_, ?_⟩
    · rw [taken]
      exact (Setting.has_coverValue_iff other).mp has
    · rintro rfl
      have proper : value.Proper := (proper_of_readConfig read).inner held
      have laid := Setting.has_thresholds_coverValue_iff.mp has
      rw [← taken] at laid
      exact ⟨inEnvironment, inFile, said, fun path => laid ▸ Json.spot_coveredBy proper _ path,
        laid ▸ Json.alike_coveredBy_iff proper _⟩
  · -- Any other setting is the one read from the variables alone.
    have given := Layer.given?_ofMembers_of_unnamed unnamed
    obtain ⟨inEnvironment, inFile, said, has⟩ := exists_said_of_build built setting
    have kept : (base.taking fromFile fun setting =>
        ((Layer.ofMembers members).given? setting).isSome).get setting = base.get setting := by
      rw [get_taking, given, Option.isSome_none, if_neg Bool.false_ne_true]
    rw [Layer.coverValue_empty] at has
    rw [kept]
    exact ⟨inEnvironment, inFile, said, has, fun other =>
      (Setting.has_coverValue_iff other).mp has⟩

/-- A disk with a settings file that sets the depth of templates. -/
def depthDisk : Disk where
  files := [(["work".toList, configName.toList],
    "\x7b\"thresholds\": \x7b\"templateDepth\": 4\x7d\x7d".toList.map Char.toUInt8)]
  folders := []
  current := ["work".toList]
  home := ["home".toList]

/-- The path of its settings file. -/
def depthPath : Path := ⟨['/'], ["work".toList, configName.toList]⟩

theorem configPath?_depthDisk : configPath? depthDisk (nonempty? none) = some depthPath := by
  decide +kernel

set_option maxRecDepth 10000 in
theorem readConfig_depthDisk : readConfig depthDisk depthPath =
    .ok (.object [("thresholds", .object [("templateDepth", .int 4)])]) := rfl

/-- Variables that set the length of expressions. -/
def lengthVariable : Environment :=
  [("VUE_ANALYSIS_THRESHOLDS", "\x7b\"templateExpressionLength\": 10\x7d")]

/-- The length of expressions is set though the settings file says nothing of it. -/
theorem exists_load_depthDisk : ∃ settings, load depthDisk lengthVariable none none = .ok settings ∧
    (settings.thresholds.lookup "templateExpressionLength").isSome = true := by
  -- Settings cannot be compared, but whether one of their thresholds is set can.
  have set : (load depthDisk lengthVariable none none).toOption.map (fun settings =>
      (settings.thresholds.lookup "templateExpressionLength").isSome) = some true := by
    decide +kernel
  obtain ⟨settings, loaded, set⟩ := Option.map_eq_some_iff.mp set
  exact ⟨settings, Except.toOption_eq_some_iff.mp loaded, set⟩

/-- With the depth in a settings file and the length of expressions in a variable, the thresholds
are those of the file over those of the variable. -/
theorem load_over_config_depth : ∃ settings,
    load depthDisk lengthVariable none none = .ok settings ∧
      configPath? depthDisk (nonempty? none) = some depthPath ∧
      ∃ members, readConfig depthDisk depthPath = .ok (.object members) ∧
        Layer.NamesOnce members ∧
        ∃ value inEnvironment inFile, ("thresholds", value) ∈ members ∧
          Said depthDisk lengthVariable variableFileName .thresholds inEnvironment inFile ∧
          let lower := Setting.dataOf (Layer.coverValue inFile inEnvironment)
          (∀ path, (Json.object settings.thresholds).spot path =
            if value.lacks path then lower.spot path else value.spot path) := by
  obtain ⟨settings, loaded, -⟩ := exists_load_depthDisk
  obtain ⟨members, read, named, -⟩ := load_over_config loaded configPath?_depthDisk
  obtain rfl := Json.object.inj (Except.ok.inj (read.symm.trans readConfig_depthDisk))
  have once : Layer.NamesOnce [("thresholds", .object [("templateDepth", .int 4)])] := by
    decide +kernel
  have held : ("thresholds", Json.object [("templateDepth", .int 4)]) ∈
      [("thresholds", Json.object [("templateDepth", .int 4)])] := List.mem_singleton_self _
  obtain ⟨inEnvironment, inFile, said, law, -⟩ :=
    (named once _ _ .thresholds held (by decide +kernel)).2 rfl
  exact ⟨settings, loaded, configPath?_depthDisk, _, read, once, _, inEnvironment, inFile, held,
    said, law⟩

/-- A settings file does not give the thresholds alone. -/
theorem thresholds_not_alone :
    ¬ ∀ (disk : Disk) (environment : Environment) (variableFile configFile : Option String)
        (settings : Settings) (path : Path) (members : List (String × Json)),
      load disk environment variableFile configFile = .ok settings →
        configPath? disk (nonempty? configFile) = some path →
        readConfig disk path = .ok (.object members) → Layer.NamesOnce members →
        ∀ name value, (name, value) ∈ members → Setting.ofName? name = some .thresholds →
          (Json.object settings.thresholds).Alike value := by
  intro always
  obtain ⟨settings, loaded, set⟩ := exists_load_depthDisk
  have alike := always depthDisk lengthVariable none none settings depthPath _ loaded
    configPath?_depthDisk readConfig_depthDisk (by decide +kernel) "thresholds" _
    (List.mem_singleton_self _) (by decide +kernel) ["templateExpressionLength"]
  obtain ⟨length, set⟩ := Option.isSome_iff_exists.mp set
  have unset : Json.get? (.object [("templateDepth", .int 4)]) "templateExpressionLength" = none :=
    Json.lookup_eq_none (by decide +kernel)
  rw [Json.spot_cons, Json.spot_cons, unset, Json.get?, set, Option.map_some, Option.getD_some]
    at alike
  exact length.spot_nil_ne_empty alike

end Settings

end SfcLint
