/-
# Setting thresholds and writing them down

Setting thresholds is a shallow merge. A threshold that no value names keeps what it had, and a
named one has what the last of its values says, a table as a whole. So the same values set once more
change nothing. A set that is written down says everything about itself: laid under any values, it
takes the place of the set that they are given to, and read alone it is itself, whatever it is laid
over.
-/

import SfcLint.Proofs.Threshold.Values

namespace SfcLint

namespace Tiers

variable {value : Json} {tiers : Tiers}

/-- A table is read from an object with a number under each of the four keys and nothing else. -/
theorem read_eq_ok_iff :
    read value = .ok tiers ↔
      ∃ members, value = .object members ∧ (∀ entry ∈ members, entry.1 ∈ keys) ∧
        member members "low" = .ok tiers.low ∧ member members "medium" = .ok tiers.medium ∧
        member members "high" = .ok tiers.high ∧
        member members "critical" = .ok tiers.critical := by
  have known (members : List (String × Json)) :
      (members.filterMap fun entry =>
        if keys.contains entry.1 then none else some (⟨[entry.1], .unknownKey⟩ : Problem)) = [] ↔
          ∀ entry ∈ members, entry.1 ∈ keys := by
    simp [List.filterMap_eq_nil_iff]
  constructor
  · intro done
    cases value with
    | object members =>
      rw [read] at done
      split at done
      next low medium high critical clear =>
        obtain rfl := Except.ok.inj done
        have others := (List.append_eq_nil_iff.mp clear).2
        exact ⟨members, rfl, (known members).mp others, low, medium, high, critical⟩
      next => contradiction
    | _ => contradiction
  · rintro ⟨members, rfl, others, low, medium, high, critical⟩
    have clear : problems members = [] := by
      refine List.append_eq_nil_iff.mpr ⟨?_, (known members).mpr others⟩
      simp [keys, low, medium, high, critical]
    simp only [read, low, medium, high, critical, clear]

/-- A table that is written down is read as itself. -/
theorem read_toJson (tiers : Tiers) : read tiers.toJson = .ok tiers := by
  refine read_eq_ok_iff.mpr ⟨_, rfl, ?_, rfl, rfl, rfl, rfl⟩
  intro entry held
  exact List.mem_map_of_mem (f := Prod.fst) held

end Tiers

namespace Threshold

variable {threshold : Threshold}

/-- One of the two names of a threshold. -/
def HasName (threshold : Threshold) (name : String) : Prop :=
  name = threshold.plainName ∨ name = threshold.publicName

instance {name : String} : Decidable (threshold.HasName name) :=
  inferInstanceAs (Decidable (_ ∨ _))

theorem hasName_iff {name : String} : threshold.HasName name ↔ ofName? name = some threshold :=
  ofName?_eq_some_iff.symm

/-- What a threshold is set to is read from what is written down for it. -/
theorem read?_valueOf (thresholds : Thresholds) (threshold : Threshold) :
    threshold.read? (thresholds.valueOf threshold) = some (thresholds.get threshold) := by
  cases threshold with
  | limit l => rfl
  | tiers table =>
    rw [read?, Thresholds.valueOf, Tiers.read_toJson]
    rfl
  | ratio r => rfl
  | marker =>
    rw [read?, Thresholds.valueOf, Thresholds.get]
    cases thresholds.marker <;> rfl

end Threshold

/-- All thresholds, each under one of its names. -/
def Thresholds.written (thresholds : Thresholds) (named : Threshold → String) : Overrides :=
  Threshold.every.map fun threshold => (named threshold, thresholds.valueOf threshold)

namespace Overrides

variable {overrides : Overrides} {base result : Thresholds} {threshold : Threshold}
  {named : Threshold → String}

/-! ## The value that counts -/

/-- The value stands under a name of the threshold, and behind it there is no name of it. -/
def Counts (overrides : Overrides) (threshold : Threshold) (value : Json) : Prop :=
  ∃ before name after, overrides = before ++ (name, value) :: after ∧ threshold.HasName name ∧
    ∀ later ∈ after, ¬ threshold.HasName later.1

theorem value?_eq_none_iff :
    overrides.value? threshold = none ↔ ∀ entry ∈ overrides, ¬ threshold.HasName entry.1 := by
  simp [value?, Threshold.hasName_iff]

theorem value?_append (front back : Overrides) (threshold : Threshold) :
    value? (front ++ back) threshold = (back.value? threshold).or (front.value? threshold) := by
  rw [value?, List.reverse_append, List.find?_append, Option.map_or]
  rfl

theorem value?_eq_some_iff {value : Json} :
    overrides.value? threshold = some value ↔ overrides.Counts threshold value := by
  have single {name : String} (has : threshold.HasName name) :
      value? [(name, value)] threshold = some value := by
    simp [value?, Threshold.hasName_iff.mp has]
  constructor
  · intro found
    obtain ⟨⟨name, given⟩, first, same⟩ := Option.map_eq_some_iff.mp found
    obtain rfl : given = value := same
    obtain ⟨has, after, before, split, unnamed⟩ := List.find?_eq_some_iff_append.mp first
    refine ⟨before.reverse, name, after.reverse, ?_, ?_, ?_⟩
    · simpa using congrArg List.reverse split
    · exact Threshold.hasName_iff.mpr (eq_of_beq has)
    · intro later member has
      have other := unnamed later (List.mem_reverse.mp member)
      simp [Threshold.hasName_iff.mp has] at other
  · rintro ⟨before, name, after, rfl, has, unnamed⟩
    have last := value?_eq_none_iff.mpr unnamed
    change value? (before ++ ([(name, value)] ++ after)) threshold = some value
    rw [value?_append, value?_append, last, single has]
    rfl

/-! ## Sets that are written down -/

theorem value?_written (thresholds : Thresholds)
    (proper : ∀ threshold, Threshold.ofName? (named threshold) = some threshold)
    (threshold : Threshold) :
    value? (thresholds.written named) threshold = some (thresholds.valueOf threshold) := by
  have listed : (named threshold, thresholds.valueOf threshold) ∈ thresholds.written named :=
    List.mem_map_of_mem threshold.mem_every
  cases found : value? (thresholds.written named) threshold with
  | none =>
    have unnamed := value?_eq_none_iff.mp found _ listed
    exact absurd (Threshold.hasName_iff.mpr (proper threshold)) unnamed
  | some value =>
    -- Whatever counts was written for a threshold of that name, and there is only one.
    obtain ⟨before, name, after, same, has, -⟩ := value?_eq_some_iff.mp found
    have member : (name, value) ∈ thresholds.written named := same ▸ by simp
    obtain ⟨other, -, entry⟩ := List.mem_map.mp member
    obtain ⟨rfl, rfl⟩ := Prod.mk.inj entry
    obtain rfl : other = threshold :=
      Option.some.inj ((proper other).symm.trans (Threshold.hasName_iff.mp has))
    rfl

theorem unknownNames_written_append (thresholds : Thresholds)
    (proper : ∀ threshold, Threshold.ofName? (named threshold) = some threshold)
    (overrides : Overrides) :
    unknownNames (thresholds.written named ++ overrides) = overrides.unknownNames := by
  have known : unknownNames (thresholds.written named) = [] := by
    simp [unknownNames, Thresholds.written, proper]
  rw [unknownNames, List.map_append, List.filter_append]
  exact congrArg (· ++ overrides.unknownNames) known

theorem problems_written_append (thresholds : Thresholds)
    (proper : ∀ threshold, Threshold.ofName? (named threshold) = some threshold)
    (overrides : Overrides) :
    problems (thresholds.written named ++ overrides) = overrides.problems := by
  refine List.flatMap_congr fun threshold _ => ?_
  rw [value?_append, value?_written thresholds proper]
  cases overrides.value? threshold with
  | some value => rfl
  | none =>
    have taken := Threshold.read?_valueOf thresholds threshold
    exact Threshold.problems_eq_nil_iff.mpr (Option.isSome_of_eq_some taken)

theorem onto_written_append (thresholds other : Thresholds)
    (proper : ∀ threshold, Threshold.ofName? (named threshold) = some threshold)
    (accepted : overrides.Accepted) :
    onto (thresholds.written named ++ overrides) other = overrides.onto thresholds := by
  refine Thresholds.eq_of_get fun threshold => ?_
  rw [get_onto, get_onto, given?, value?_append, value?_written thresholds proper]
  have taken := accepted.taken threshold
  rw [given?] at taken ⊢
  cases counts : overrides.value? threshold with
  | none =>
    rw [Option.none_or, Option.bind_some, Threshold.read?_valueOf]
    rfl
  | some value =>
    rw [counts] at taken
    obtain ⟨given, reads⟩ := Option.isSome_iff_exists.mp taken
    rw [Option.some_or, reads]
    rfl

/-- Values over a set that is written down say the same as values given to that set, and what is
wrong with them is the same. -/
theorem resolve_written_append (thresholds other : Thresholds)
    (proper : ∀ threshold, Threshold.ofName? (named threshold) = some threshold)
    (overrides : Overrides) :
    resolve (thresholds.written named ++ overrides) other = overrides.resolve thresholds := by
  rw [resolve, resolve, unknownNames_written_append thresholds proper,
    problems_written_append thresholds proper]
  split
  next known clear =>
    have accepted : overrides.Accepted := ⟨known, problems_eq_nil_iff.mp clear⟩
    rw [onto_written_append thresholds other proper accepted]
  next => rfl
  next => rfl

/-! ## Setting thresholds once more -/

theorem onto_onto (overrides : Overrides) (base : Thresholds) :
    overrides.onto (overrides.onto base) = overrides.onto base := by
  refine Thresholds.eq_of_get fun threshold => ?_
  rw [get_onto, get_onto]
  cases overrides.given? threshold <;> rfl

/-- Thresholds are set by a shallow merge in which the last value counts: what is not named stays,
what is named is what the value that counts says, and a table is replaced as a whole. The same
values set once more change nothing. To set thresholds of a base is to read everything anew, the
base as it is written down with the values over it; and a set that is written down in the names of
settings files is read as itself, whatever it is laid over. -/
theorem resolve_merges :
    (∀ (overrides : Overrides) (base result : Thresholds), overrides.resolve base = .ok result →
      (∀ threshold : Threshold, (∀ entry ∈ overrides, ¬ threshold.HasName entry.1) →
        result.get threshold = base.get threshold) ∧
      (∀ (threshold : Threshold) (value : Json), overrides.Counts threshold value →
        threshold.read? value = some (result.get threshold)) ∧
      (∀ (table : TierTable) (value : Json), overrides.Counts (.tiers table) value →
        ∃ members, value = .object members ∧ (∀ entry ∈ members, entry.1 ∈ Tiers.keys) ∧
          Tiers.member members "low" = .ok (result.tiers table).low ∧
          Tiers.member members "medium" = .ok (result.tiers table).medium ∧
          Tiers.member members "high" = .ok (result.tiers table).high ∧
          Tiers.member members "critical" = .ok (result.tiers table).critical) ∧
      overrides.resolve result = .ok result) ∧
    (∀ (overrides : Overrides) (base other : Thresholds),
      resolve (base.written Threshold.plainName ++ overrides) other = overrides.resolve base) ∧
    ∀ thresholds base : Thresholds, thresholds.toOverrides.resolve base = .ok thresholds := by
  refine ⟨?_, fun overrides base other => ?_, fun thresholds base => ?_⟩
  · intro overrides base result resolved
    obtain ⟨accepted, rfl⟩ := resolve_eq_ok_iff.mp resolved
    have counting (threshold : Threshold) (value : Json)
        (counts : overrides.Counts threshold value) :
        threshold.read? value = some ((overrides.onto base).get threshold) := by
      have found := value?_eq_some_iff.mpr counts
      have taken := accepted.taken threshold
      rw [given?, found, Option.bind_some] at taken
      obtain ⟨given, reads⟩ := Option.isSome_iff_exists.mp taken
      rw [get_onto, given?, found, Option.bind_some, reads, Option.getD_some]
    refine ⟨fun threshold unnamed => ?_, counting, fun table value counts => ?_, ?_⟩
    · rw [get_onto, given?, value?_eq_none_iff.mpr unnamed]
      rfl
    · have reads := Except.toOption_eq_some_iff.mp (counting (.tiers table) value counts)
      exact Tiers.read_eq_ok_iff.mp reads
    · exact resolve_eq_ok_iff.mpr ⟨accepted, (onto_onto overrides base).symm⟩
  · exact resolve_written_append base other Threshold.ofName?_plainName overrides
  · have alone := resolve_written_append thresholds base Threshold.ofName?_publicName []
    rw [List.append_nil] at alone
    exact alone

/-- A limit under both of its names has the last value, and a table with only some of its limits
changed is given anew. -/
theorem resolve_merges_twoNames :
    let overrides : Overrides :=
      [("templateDepth", .int 3),
        ("guardLineTiers",
          .object [("low", .int 1), ("medium", .int 2), ("high", .int 3),
            ("critical", .bool true)]),
        ("template_depth", .string " 4 ")]
    overrides.resolve .standard = .ok (overrides.onto .standard) ∧
    overrides.resolve (overrides.onto .standard) = .ok (overrides.onto .standard) ∧
    (overrides.onto .standard).limit .componentPropsCount = 15 ∧
    Json.toInt (.string " 4 ") = .ok ((overrides.onto .standard).limit .templateDepth) := by
  intro overrides
  have resolved : overrides.resolve .standard = .ok (overrides.onto .standard) := by rfl
  obtain ⟨kept, counting, -, again⟩ := resolve_merges.1 overrides .standard _ resolved
  refine ⟨resolved, again, ?_, ?_⟩
  · exact kept (.limit .componentPropsCount) (by decide)
  · have counts : overrides.Counts (.limit .templateDepth) (.string " 4 ") :=
      ⟨overrides.dropLast, "template_depth", [], rfl, .inl rfl, nofun⟩
    exact Except.toOption_eq_some_iff.mp (counting _ _ counts)

end Overrides

end SfcLint
