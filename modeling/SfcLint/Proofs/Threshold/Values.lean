/-
# Thresholds one by one

A set of thresholds holds one value for each threshold, and values for thresholds are checked and
taken one by one. So what is set is known threshold by threshold: it is the value under the last of
the names of the threshold, or what was there before when no name of it is used. A threshold has
exactly two names.
-/

import SfcLint.Proofs.Json.Members
import SfcLint.Threshold.Resolve

namespace SfcLint

namespace Tiers

/-- A table that is not accepted has something wrong with it. -/
theorem read_ne_error_nil (value : Json) : read value ≠ .error [] := by
  intro failed
  cases value with
  | object members =>
    have sound (clear : problems members = []) (key : String) (known : key ∈ keys) :
        ∃ limit, member members key = .ok limit := by
      have nothing := List.filterMap_eq_nil_iff.mp (List.append_eq_nil_iff.mp clear).1 key known
      cases found : member members key with
      | ok limit => exact ⟨limit, rfl⟩
      | error problem =>
        rw [found] at nothing
        contradiction
    rw [read] at failed
    split at failed
    · contradiction
    next incomplete =>
      have clear := Except.error.inj failed
      obtain ⟨low, hasLow⟩ := sound clear "low" (by decide)
      obtain ⟨medium, hasMedium⟩ := sound clear "medium" (by decide)
      obtain ⟨high, hasHigh⟩ := sound clear "high" (by decide)
      obtain ⟨critical, hasCritical⟩ := sound clear "critical" (by decide)
      exact incomplete low medium high critical hasLow hasMedium hasHigh hasCritical clear
  | _ => exact List.cons_ne_nil _ _ (Except.error.inj failed)

end Tiers

namespace Threshold

/-! ## Names -/

theorem mem_every (threshold : Threshold) : threshold ∈ every := by
  rcases threshold with limit | table | ratio | _
  · cases limit <;> decide
  · cases table <;> decide
  · cases ratio <;> decide
  · decide

theorem ofName?_plainName (threshold : Threshold) :
    ofName? threshold.plainName = some threshold := by
  rcases threshold with limit | table | ratio | _
  · cases limit <;> rfl
  · cases table <;> rfl
  · cases ratio <;> rfl
  · rfl

theorem ofName?_publicName (threshold : Threshold) :
    ofName? threshold.publicName = some threshold := by
  rcases threshold with limit | table | ratio | _
  · cases limit <;> rfl
  · cases table <;> rfl
  · cases ratio <;> rfl
  · rfl

theorem ofName?_eq_some_iff {threshold : Threshold} {name : String} :
    ofName? name = some threshold ↔
      name = threshold.plainName ∨ name = threshold.publicName := by
  constructor
  · intro found
    have named := List.find?_some found
    rw [Bool.or_eq_true, beq_iff_eq, beq_iff_eq] at named
    exact named.imp Eq.symm Eq.symm
  · rintro (rfl | rfl)
    · exact threshold.ofName?_plainName
    · exact threshold.ofName?_publicName

/-- Of three names of a threshold two are the same. -/
theorem eq_or_eq_of_ofName? {threshold : Threshold} {name other third : String}
    (named : ofName? name = some threshold) (otherNamed : ofName? other = some threshold)
    (different : name ≠ other) (thirdNamed : ofName? third = some threshold) :
    third = name ∨ third = other := by
  rw [ofName?_eq_some_iff] at named otherNamed thirdNamed
  grind

/-! ## Values -/

/-- What a threshold is set to. -/
abbrev Value : Threshold → Type
  | limit _ => Int
  | tiers _ => Tiers
  | ratio _ => Binary64
  | marker => Option String

/-- A value as the threshold takes it, if it does. -/
def read? : (threshold : Threshold) → Json → Option threshold.Value
  | limit _, value => value.toInt.toOption
  | tiers _, value => (Tiers.read value).toOption
  | ratio _, value => value.toFloat.toOption
  | marker, value => (Json.optionally Json.toText value).toOption

theorem map_defects_eq_nil_iff {α : Type} {x : Except Defect α} :
    Problem.mk [] <$> problems.defects x = [] ↔ x.toOption.isSome = true := by
  cases x with
  | error defect => exact iff_of_false (List.cons_ne_nil _ _) Bool.false_ne_true
  | ok a => exact iff_of_true rfl rfl

/-- There is something wrong with a value exactly when the threshold does not take it. -/
theorem problems_eq_nil_iff {threshold : Threshold} {value : Json} :
    threshold.problems value = [] ↔ (threshold.read? value).isSome = true := by
  simp only [problems, List.map_eq_nil_iff]
  cases threshold with
  | limit l => exact map_defects_eq_nil_iff
  | tiers table =>
    cases taken : Tiers.read value with
    | ok tiers => simp [read?, taken, Except.toOption]
    | error found =>
      have faulty : found ≠ [] := fun clear => Tiers.read_ne_error_nil value (clear ▸ taken)
      simp [read?, taken, Except.toOption, faulty]
  | ratio r => exact map_defects_eq_nil_iff
  | marker => exact map_defects_eq_nil_iff

end Threshold

namespace Thresholds

/-- What one threshold is set to. -/
def get (thresholds : Thresholds) : (threshold : Threshold) → threshold.Value
  | .limit l => thresholds.limit l
  | .tiers table => thresholds.tiers table
  | .ratio r => thresholds.ratio r
  | .marker => thresholds.marker

theorem eq_of_get {thresholds others : Thresholds}
    (same : ∀ threshold, thresholds.get threshold = others.get threshold) :
    thresholds = others := by
  obtain ⟨limit, tiers, ratio, marker⟩ := thresholds
  obtain ⟨limit', tiers', ratio', marker'⟩ := others
  obtain rfl : limit = limit' := funext fun l => same (.limit l)
  obtain rfl : tiers = tiers' := funext fun table => same (.tiers table)
  obtain rfl : ratio = ratio' := funext fun r => same (.ratio r)
  obtain rfl : marker = marker' := same .marker
  rfl

end Thresholds

namespace Overrides

variable {overrides : Overrides} {base result : Thresholds} {threshold : Threshold}

/-! ## Setting thresholds -/

theorem orKept_eq {ε α : Type} (value : Option Json) (read : Json → Except ε α) (kept : α) :
    orKept value read kept = (value.bind fun given => (read given).toOption).getD kept := by
  cases value with
  | none => rfl
  | some given =>
    rw [orKept, Option.map_some, Option.bind_some]
    cases read given <;> rfl

/-- What the value of a threshold says, if there is one and the threshold takes it. -/
def given? (overrides : Overrides) (threshold : Threshold) : Option threshold.Value :=
  (overrides.value? threshold).bind threshold.read?

/-- Each threshold is set to what its value says. -/
theorem get_onto (overrides : Overrides) (base : Thresholds) (threshold : Threshold) :
    (overrides.onto base).get threshold =
      (overrides.given? threshold).getD (base.get threshold) := by
  cases threshold <;> exact orKept_eq _ _ _

/-- All names are known, and every value that counts is taken by its threshold. -/
structure Accepted (overrides : Overrides) : Prop where
  known : overrides.unknownNames = []
  taken : ∀ threshold,
    (overrides.given? threshold).isSome = (overrides.value? threshold).isSome

theorem problems_eq_nil_iff :
    overrides.problems = [] ↔ ∀ threshold,
      (overrides.given? threshold).isSome = (overrides.value? threshold).isSome := by
  rw [problems, List.flatMap_eq_nil_iff]
  refine (forall_congr' fun threshold => imp_iff_right threshold.mem_every).trans
    (forall_congr' fun threshold => ?_)
  rw [given?]
  cases overrides.value? threshold with
  | none => exact iff_of_true rfl rfl
  | some value => exact Threshold.problems_eq_nil_iff

/-- Thresholds are set exactly by the values that are accepted. -/
theorem resolve_eq_ok_iff :
    overrides.resolve base = .ok result ↔ overrides.Accepted ∧ result = overrides.onto base := by
  rw [resolve]
  split
  next known none =>
    have accepted : overrides.Accepted := ⟨known, problems_eq_nil_iff.mp none⟩
    simp [accepted, eq_comm]
  next known found =>
    exact iff_of_false (by simp) fun ⟨accepted, _⟩ => found (problems_eq_nil_iff.mpr accepted.taken)
  next unknown _ => exact iff_of_false (by simp) fun ⟨accepted, _⟩ => unknown accepted.known

/-! ## Spellings -/

/-- The names of the values, in their order. -/
def names (overrides : Overrides) : List String := overrides.map (·.1)

/-- Every name stands once. -/
def Distinct (overrides : Overrides) : Prop := overrides.names.Nodup

instance : Decidable overrides.Distinct := inferInstanceAs (Decidable overrides.names.Nodup)

/-- The names under which a threshold has a value, in their order. -/
def spellings (overrides : Overrides) (threshold : Threshold) : List String :=
  overrides.names.filter fun name => Threshold.ofName? name == some threshold

theorem mem_spellings {name : String} :
    name ∈ overrides.spellings threshold ↔
      name ∈ overrides.names ∧ Threshold.ofName? name = some threshold := by
  rw [spellings, List.mem_filter, beq_iff_eq]

theorem lookup_eq_some (distinct : overrides.Distinct) {name : String} {value : Json}
    (member : (name, value) ∈ overrides) : overrides.lookup name = some value := by
  induction overrides with
  | nil => exact absurd member List.not_mem_nil
  | cons first later ih =>
    obtain ⟨fresh, distinct⟩ := List.nodup_cons.mp distinct
    rcases List.mem_cons.mp member with rfl | member
    · exact List.lookup_cons_self
    · have different : name ≠ first.1 := by
        rintro rfl
        exact fresh (List.mem_map.mpr ⟨_, member, rfl⟩)
      rw [List.lookup_cons, beq_false_of_ne different]
      exact ih distinct member

theorem lookup_eq_none {name : String} (absent : name ∉ overrides.names) :
    overrides.lookup name = none :=
  Json.lookup_eq_none absent

/-- The value for a threshold stands under the last of its spellings. -/
theorem value?_eq (distinct : overrides.Distinct) (threshold : Threshold) :
    overrides.value? threshold =
      (overrides.spellings threshold).getLast?.bind fun name => overrides.lookup name := by
  rw [value?, ← List.head?_filter, List.filter_reverse, List.head?_reverse, spellings, names,
    List.filter_map, List.getLast?_map]
  change Option.map _ (List.getLast? (overrides.filter
    fun entry => Threshold.ofName? entry.1 == some threshold)) = Option.bind (Option.map _
      (List.getLast? (overrides.filter
        fun entry => Threshold.ofName? entry.1 == some threshold))) _
  cases last : List.getLast? (overrides.filter
      fun entry => Threshold.ofName? entry.1 == some threshold) with
  | none => rfl
  | some entry =>
    have member := (List.mem_filter.mp (List.mem_of_getLast? last)).1
    exact (lookup_eq_some distinct member).symm

theorem isSome_value?_iff :
    (overrides.value? threshold).isSome = true ↔ overrides.spellings threshold ≠ [] := by
  rw [value?, Option.isSome_map, List.find?_isSome]
  constructor
  · rintro ⟨entry, member, named⟩
    have present : entry.1 ∈ overrides.names := List.mem_map_of_mem (List.mem_reverse.mp member)
    exact List.ne_nil_of_mem (mem_spellings.mpr ⟨present, eq_of_beq named⟩)
  · intro spelled
    obtain ⟨name, listed⟩ := List.exists_mem_of_ne_nil _ spelled
    obtain ⟨present, named⟩ := mem_spellings.mp listed
    obtain ⟨entry, member, rfl⟩ := List.mem_map.mp present
    exact ⟨entry, List.mem_reverse.mpr member, beq_iff_eq.mpr named⟩

/-- A threshold has no value, or one, or one under each of its two names. -/
theorem spellings_cases (distinct : overrides.Distinct) (threshold : Threshold) :
    overrides.spellings threshold = [] ∨
      (∃ name, Threshold.ofName? name = some threshold ∧
        overrides.spellings threshold = [name]) ∨
      ∃ name other, Threshold.ofName? name = some threshold ∧
        Threshold.ofName? other = some threshold ∧ name ≠ other ∧
          overrides.spellings threshold = [name, other] := by
  have named {name : String} (member : name ∈ overrides.spellings threshold) :
      Threshold.ofName? name = some threshold := (mem_spellings.mp member).2
  have once : (overrides.spellings threshold).Nodup := distinct.filter _
  match found : overrides.spellings threshold with
  | [] => exact .inl rfl
  | [name] =>
    rw [found] at named
    exact .inr (.inl ⟨name, named List.mem_cons_self, rfl⟩)
  | [name, other] =>
    rw [found] at named once
    exact .inr (.inr ⟨name, other, named (by simp), named (by simp), by simpa using once, rfl⟩)
  | name :: other :: third :: later =>
    rw [found] at named once
    simp only [List.nodup_cons, List.mem_cons, not_or] at once
    obtain ⟨⟨different, notThird, -⟩, ⟨otherNotThird, -⟩, -⟩ := once
    have known (member : String) (listed : member ∈ [name, other, third]) :
        Threshold.ofName? member = some threshold :=
      named (List.mem_append_left later listed)
    -- The third name is one of the other two.
    rcases Threshold.eq_or_eq_of_ofName? (known name (by simp)) (known other (by simp)) different
      (known third (by simp)) with same | same
    · exact absurd same.symm notThird
    · exact absurd same.symm otherNotThird

end Overrides

end SfcLint
