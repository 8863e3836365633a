/-
# Values of settings

Settings are told from one another by the values that they can have. A layer gives settings exactly
when it holds no name that no setting has and each setting has the value that is given for it, or
else the standard one. Where two values are given and one lies over the other, the upper one counts
for every setting but the thresholds, for an object is a value of no other setting.
-/

import SfcLint.Proofs.Json.Members
import SfcLint.Settings.Layer

namespace SfcLint

namespace Setting

/-- What can be set. -/
abbrev Value : Setting → Type
  | thresholds => Overrides
  | exclude => List String
  | workers => Option Int
  | timeout => Option Binary64
  | verbose => Bool
  | format => ReportFormat
  | rateLimit => Int

/-- A value for the setting as it stands in a layer. -/
def read : (setting : Setting) → Json → Except (List Problem) setting.Value
  | thresholds => Settings.plain Settings.readThresholds
  | exclude => Settings.readTexts
  | workers => Settings.plain (Json.optionally Json.toInt)
  | timeout => Settings.plain (Json.optionally Json.toFloat)
  | verbose => Settings.plain Json.toBool
  | format => Settings.plain Settings.readFormat
  | rateLimit => Settings.plain Json.toInt

end Setting

namespace Settings

/-- The value of a setting. -/
def get (settings : Settings) : (setting : Setting) → setting.Value
  | .thresholds => settings.thresholds
  | .exclude => settings.exclude
  | .workers => settings.workers
  | .timeout => settings.timeout
  | .verbose => settings.verbose
  | .format => settings.format
  | .rateLimit => settings.rateLimit

theorem get_taking (settings others : Settings) (named : Setting → Bool) (setting : Setting) :
    (settings.taking others named).get setting =
      if named setting then others.get setting else settings.get setting := by
  cases setting <;> rfl

end Settings

namespace Setting

variable {setting : Setting} {lower upper given : Option GivenValue} {value : setting.Value}

/-- The value is the one that is given, or else the standard one. -/
def Has (setting : Setting) (given : Option GivenValue) (value : setting.Value) : Prop :=
  match given with
  | some given => setting.read given.value = .ok value
  | none => value = Settings.standard.get setting

theorem readOr_eq_ok_iff :
    Settings.readOr given setting.read (Settings.standard.get setting) = .ok value ↔
      setting.Has given value := by
  cases given with
  | none => exact ⟨fun same => (Except.ok.inj same).symm, fun same => congrArg _ same.symm⟩
  | some given => exact Except.mapError_eq_ok_iff

/-- An object is a value of the thresholds only. -/
theorem read_object_ne_ok (other : setting ≠ .thresholds) (members : List (String × Json)) :
    setting.read (.object members) ≠ .ok value := by
  cases setting <;> first | contradiction | nofun

theorem read_thresholds_eq_ok_iff {value : Json} {overrides : Overrides} :
    thresholds.read value = .ok overrides ↔ value = .object overrides := by
  cases value <;> simp [read, Settings.plain, Settings.readThresholds, Except.mapError]

/-- For a setting other than the thresholds the upper one of two values counts. -/
theorem has_coverValue_iff (other : setting ≠ .thresholds) :
    setting.Has (Layer.coverValue lower upper) value ↔ setting.Has (upper.or lower) value := by
  cases upper with
  | none => cases lower <;> rfl
  | some upper =>
    cases lower with
    | none => rfl
    | some lower =>
      change setting.read (lower.value.coveredBy upper.value) = .ok value ↔
        setting.read upper.value = .ok value
      -- Laid over another value an object stays an object, and the setting takes neither.
      by_cases parts : ∃ members, upper.value = .object members
      · obtain ⟨members, same⟩ := parts
        obtain ⟨covered, laid⟩ := lower.value.exists_object_coveredBy members
        rw [same, laid]
        exact iff_of_false (read_object_ne_ok other covered) (read_object_ne_ok other members)
      · rw [Json.coveredBy_of_ne_object (not_exists.mp parts)]

/-- The data that is given, or nothing. -/
def dataOf : Option GivenValue → Json
  | some given => given.value
  | none => .null

/-- The thresholds are those of the upper value laid over what lies below. -/
theorem has_thresholds_coverValue_iff {upper : GivenValue} {overrides : Overrides} :
    thresholds.Has (Layer.coverValue lower (some upper)) overrides ↔
      (dataOf lower).coveredBy upper.value = .object overrides := by
  cases lower with
  | none => simp only [dataOf, Json.null_coveredBy]; exact read_thresholds_eq_ok_iff
  | some lower => exact read_thresholds_eq_ok_iff

end Setting

namespace Settings

/-- A layer gives settings exactly when nothing in it is unknown and every setting has its value
from it. -/
theorem ofLayer_eq_ok_iff {layer : Layer} {settings : Settings} :
    ofLayer layer = .ok settings ↔
      layer.unknown = [] ∧
        ∀ setting : Setting, setting.Has (layer.given? setting) (settings.get setting) := by
  constructor
  · intro read
    dsimp only [ofLayer] at read
    split at read
    next thresholds exclude workers timeout verbose format rateLimit none =>
      obtain rfl := Except.ok.inj read
      refine ⟨List.map_eq_nil_iff.mp none, fun setting => Setting.readOr_eq_ok_iff.mp ?_⟩
      cases setting <;> assumption
    next => contradiction
  · rintro ⟨known, has⟩
    have read (setting : Setting) := Setting.readOr_eq_ok_iff.mpr (has setting)
    have thresholds := read .thresholds
    have exclude := read .exclude
    have workers := read .workers
    have timeout := read .timeout
    have verbose := read .verbose
    have format := read .format
    have rateLimit := read .rateLimit
    simp only [Setting.read, get] at thresholds exclude workers timeout verbose format rateLimit
    simp only [ofLayer, known, List.map_nil, thresholds, exclude, workers, timeout, verbose, format,
      rateLimit]

end Settings

end SfcLint
