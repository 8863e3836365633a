/-
# Setting thresholds

A set of thresholds is changed by values under the names of thresholds. Either name of a threshold
will do, and of several values for one threshold the last counts. All values are checked before
any of them is taken, and thresholds that are not named keep what they had.
-/

import SfcLint.Json.Lenient
import SfcLint.Threshold.Basic

namespace SfcLint

namespace Tiers

/-- A number under a key. -/
def member (members : List (String × Json)) (key : String) : Except Problem Binary64 :=
  match members.lookup key with
  | none => .error ⟨[key], .missing⟩
  | some value => value.toFloat.mapError fun defect => ⟨[key], defect⟩

/-- The keys of the four limits, in the order in which they are checked. -/
def keys : List String := ["low", "medium", "high", "critical"]

/-- What is wrong with the members of a table. -/
def problems (members : List (String × Json)) : List Problem :=
  (keys.filterMap fun key =>
    match member members key with
    | .ok _ => none
    | .error problem => some problem) ++
  members.filterMap fun (key, _) =>
    if keys.contains key then none else some ⟨[key], .unknownKey⟩

/-- A value as a table of four limits. -/
def read : Json → Except (List Problem) Tiers
  | .object members =>
      match member members "low", member members "medium", member members "high",
          member members "critical", problems members with
      | .ok low, .ok medium, .ok high, .ok critical, [] => .ok ⟨low, medium, high, critical⟩
      | _, _, _, _, found => .error found
  | _ => .error [⟨[], .notTable⟩]

end Tiers

/-- A threshold of any kind. -/
inductive Threshold
  | limit (limit : Limit)
  | tiers (table : TierTable)
  | ratio (ratio : RatioLimit)
  | marker
  deriving DecidableEq, Repr

namespace Threshold

/-- All thresholds, in the order in which they are listed and checked. -/
def every : List Threshold :=
  Limit.every.map limit ++ TierTable.every.map tiers ++ RatioLimit.every.map ratio ++ [marker]

/-- The name of a threshold in settings files. -/
def publicName : Threshold → String
  | limit l => l.publicName
  | tiers table => table.publicName
  | ratio r => r.publicName
  | marker => "missingKeyEscalationMarker"

/-- The other name of a threshold, with words in small letters joined by underscores. -/
def plainName : Threshold → String
  | limit l => l.plainName
  | tiers table => table.plainName
  | ratio r => r.plainName
  | marker => "missing_key_escalation_marker"

/-- The threshold of a name of either kind. -/
def ofName? (name : String) : Option Threshold :=
  every.find? fun threshold => threshold.plainName == name || threshold.publicName == name

/-- What is wrong with a value for the threshold. -/
def problems (threshold : Threshold) (value : Json) : List Problem :=
  let found : List Problem :=
    match threshold with
    | limit _ => Problem.mk [] <$> defects value.toInt
    | tiers _ =>
        match Tiers.read value with
        | .ok _ => []
        | .error found => found
    | ratio _ => Problem.mk [] <$> defects value.toFloat
    | marker => Problem.mk [] <$> defects (Json.optionally Json.toText value)
  found.map (Problem.within threshold.plainName)
where
  /-- The defect of a value that is not accepted. -/
  defects {α : Type} : Except Defect α → List Defect
    | .ok _ => []
    | .error defect => [defect]

end Threshold

/-- Values by the names of thresholds. -/
abbrev Overrides := List (String × Json)

/-- Why values for thresholds are not accepted. -/
inductive OverrideError
  /-- Some names are not those of thresholds. -/
  | unknown (names : List String)
  /-- Some values are not what their thresholds take. -/
  | invalid (problems : List Problem)
  deriving DecidableEq, Repr

/-- How the failure is reported. -/
def OverrideError.message : OverrideError → String
  | unknown names =>
      "Unknown thresholds: " ++ ", ".intercalate (names.mergeSort fun a b => a ≤ b) ++
        ". Valid thresholds are: " ++ ", ".intercalate (Threshold.every.map Threshold.publicName)
  | invalid problems => "Invalid threshold values: " ++ Problem.summary problems

namespace Overrides

/-- The value for a threshold: the last of those under a name of it. -/
def value? (overrides : Overrides) (threshold : Threshold) : Option Json :=
  (overrides.reverse.find? fun (name, _) => Threshold.ofName? name == some threshold).map (·.2)

/-- The names that are not those of thresholds. -/
def unknownNames (overrides : Overrides) : List String :=
  (overrides.map (·.1)).filter fun name => (Threshold.ofName? name).isNone

/-- What is wrong with the values. -/
def problems (overrides : Overrides) : List Problem :=
  Threshold.every.flatMap fun threshold =>
    match overrides.value? threshold with
    | some value => threshold.problems value
    | none => []

/-- What a value gives, or what was there before when there is no value. -/
def orKept (value : Option Json) (read : Json → Except ε α) (kept : α) : α :=
  match value.map read with
  | some (.ok given) => given
  | _ => kept

/-- The thresholds with the values in place of what they had. -/
def onto (overrides : Overrides) (base : Thresholds) : Thresholds where
  limit l := orKept (overrides.value? (.limit l)) Json.toInt (base.limit l)
  tiers table := orKept (overrides.value? (.tiers table)) Tiers.read (base.tiers table)
  ratio r := orKept (overrides.value? (.ratio r)) Json.toFloat (base.ratio r)
  marker := orKept (overrides.value? .marker) (Json.optionally Json.toText) base.marker

/-- The thresholds with the values in place of what they had, if all names and values are
accepted. -/
def resolve (overrides : Overrides) (base : Thresholds) : Except OverrideError Thresholds :=
  match overrides.unknownNames, overrides.problems with
  | [], [] => .ok (overrides.onto base)
  | [], problems => .error (.invalid problems)
  | names, _ => .error (.unknown names)

end Overrides

namespace Tiers

/-- The table as a data value. -/
def toJson (tiers : Tiers) : Json :=
  .object [("low", .float tiers.low), ("medium", .float tiers.medium), ("high", .float tiers.high),
    ("critical", .float tiers.critical)]

end Tiers

namespace Thresholds

/-- The value of one threshold as a data value. -/
def valueOf (thresholds : Thresholds) : Threshold → Json
  | .limit l => .int (thresholds.limit l)
  | .tiers table => (thresholds.tiers table).toJson
  | .ratio r => .float (thresholds.ratio r)
  | .marker =>
      match thresholds.marker with
      | some marker => .string marker
      | none => .null

/-- All thresholds by their names in settings files. -/
def toOverrides (thresholds : Thresholds) : Overrides :=
  Threshold.every.map fun threshold => (threshold.publicName, thresholds.valueOf threshold)

end Thresholds

end SfcLint
