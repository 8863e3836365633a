/-
# Values over configured ones

Values of a request, or of the flags of a command line, are laid over configured values name by
name: a name that is configured keeps its place and takes the new value, and a new name comes last.
Then the values are taken threshold by threshold, and under the last of its names each threshold has
its value. So the new value of a threshold is passed over when its name is configured and the other
name of the threshold comes behind it. Setting the thresholds by the configured values first and
then by the new ones comes to the same exactly when the values that are passed over say the same as
those that count.
-/

import SfcLint.CommandLine.Session
import SfcLint.Proofs.Json.Members
import SfcLint.Proofs.Threshold.Values
import SfcLint.Service.Basic

namespace SfcLint

namespace Overrides

variable {lower upper : Overrides} {threshold : Threshold} {name other : String}

/-- Values with others over them, which replace those of the same names and otherwise come last. -/
def under (lower upper : Overrides) : Overrides :=
  upper.foldl (fun values (name, value) => Json.upsert name value values) lower

theorem under_cons (entry : String × Json) (later : Overrides) :
    lower.under (entry :: later) = under (Json.upsert entry.1 entry.2 lower) later := rfl

theorem names_upsert (name : String) (value : Json) (overrides : Overrides) :
    names (Json.upsert name value overrides) =
      if name ∈ overrides.names then overrides.names else overrides.names ++ [name] :=
  Json.names_upsert name value overrides

theorem names_under (lower : Overrides) (distinct : upper.Distinct) :
    (lower.under upper).names =
      lower.names ++ upper.names.filter fun name => name ∉ lower.names := by
  induction upper generalizing lower with
  | nil => simp [under, names]
  | cons entry later ih =>
    obtain ⟨fresh, distinct⟩ := List.nodup_cons.mp distinct
    rw [under_cons, ih _ distinct, names_upsert]
    change _ = lower.names ++ (entry.1 :: names later).filter _
    split
    next known => rw [List.filter_cons_of_neg (by simpa using known)]
    next unknown =>
      -- The names behind the first one are other names.
      have others : ∀ name ∈ names later, decide (name ∉ lower.names ++ [entry.1]) =
          decide (name ∉ lower.names) := by
        intro name member
        have different : name ≠ entry.1 := by
          rintro rfl
          exact fresh member
        simp [different]
      rw [List.filter_cons_of_pos (by simpa using unknown), List.filter_congr others,
        List.append_assoc, List.singleton_append]

theorem lookup_under (lower : Overrides) (distinct : upper.Distinct) (name : String) :
    (lower.under upper).lookup name = (upper.lookup name).or (lower.lookup name) := by
  induction upper generalizing lower with
  | nil => rfl
  | cons entry later ih =>
    obtain ⟨fresh, distinct⟩ := List.nodup_cons.mp distinct
    rw [under_cons, ih _ distinct, Json.lookup_upsert, List.lookup_cons]
    by_cases same : name = entry.1
    · rw [same, lookup_eq_none fresh, if_pos rfl, beq_self_eq_true]
      rfl
    · rw [if_neg same, beq_false_of_ne same]

theorem distinct_under (lowerDistinct : lower.Distinct) (distinct : upper.Distinct) :
    (lower.under upper).Distinct := by
  rw [Distinct, names_under lower distinct, List.nodup_append]
  refine ⟨lowerDistinct, distinct.filter _, fun name known other added => ?_⟩
  rintro rfl
  have unknown := (List.mem_filter.mp added).2
  exact of_decide_eq_true unknown known

/-- A threshold keeps its spellings, and those that are new come behind them. -/
theorem spellings_under (lower : Overrides) (distinct : upper.Distinct) (threshold : Threshold) :
    (lower.under upper).spellings threshold =
      lower.spellings threshold ++
        (upper.spellings threshold).filter fun name => name ∉ lower.spellings threshold := by
  rw [spellings, names_under lower distinct, List.filter_append, List.filter_filter]
  change _ = lower.spellings threshold ++ (upper.names.filter _).filter _
  rw [List.filter_filter]
  refine congrArg _ (List.filter_congr fun name _ => ?_)
  by_cases named : Threshold.ofName? name = some threshold
  · simp [mem_spellings, named]
  · simp [beq_false_of_ne named]

/-- Where both names of a threshold are configured no other can come. -/
theorem spellings_under_of_both (lowerDistinct : lower.Distinct) (upperDistinct : upper.Distinct)
    (both : lower.spellings threshold = [name, other]) :
    (lower.under upper).spellings threshold = lower.spellings threshold := by
  have once : (lower.spellings threshold).Nodup := lowerDistinct.filter _
  have different : name ≠ other := by simpa [both] using once
  have named (spelling : String) (listed : spelling ∈ [name, other]) :=
    (mem_spellings.mp (both ▸ listed)).2
  have nothing : (upper.spellings threshold).filter
      (fun spelling => spelling ∉ lower.spellings threshold) = [] := by
    rw [List.filter_eq_nil_iff, both]
    intro third member
    have third := Threshold.eq_or_eq_of_ofName? (named name (by simp)) (named other (by simp))
      different (mem_spellings.mp member).2
    rcases third with rfl | rfl <;> simp
  rw [spellings_under lower upperDistinct, nothing, List.append_nil]

/-- A value of the upper layer is passed over: it counts there for its threshold, but below the two
names of the threshold are configured with the other one last, or its own name is, and the other one
comes with the upper layer. -/
inductive PassedOver (lower upper : Overrides) (threshold : Threshold) (name other : String) : Prop
  | bothConfigured (configured : lower.spellings threshold = [name, other])
      (counts : (upper.spellings threshold).getLast? = some name)
  | broughtAlong (configured : lower.spellings threshold = [name])
      (counts : upper.spellings threshold = [other, name])

namespace PassedOver

theorem counts (passed : PassedOver lower upper threshold name other) :
    (upper.spellings threshold).getLast? = some name := by
  cases passed with
  | bothConfigured _ counts => exact counts
  | broughtAlong _ counts => rw [counts]; rfl

/-- Of the two names of the threshold the other one counts. -/
theorem spellings_under (lowerDistinct : lower.Distinct) (upperDistinct : upper.Distinct)
    (passed : PassedOver lower upper threshold name other) :
    (lower.under upper).spellings threshold = [name, other] := by
  cases passed with
  | bothConfigured configured _ =>
    rw [spellings_under_of_both lowerDistinct upperDistinct configured, configured]
  | broughtAlong configured counts =>
    have once : (upper.spellings threshold).Nodup := upperDistinct.filter _
    have different : other ≠ name := by simpa [counts] using once
    rw [Overrides.spellings_under lower upperDistinct, configured, counts]
    simp [different]

end PassedOver

/-- Where nothing is passed over, the spelling that counts in the upper layer counts. -/
theorem getLast?_spellings_under (lowerDistinct : lower.Distinct) (upperDistinct : upper.Distinct)
    (clear : ∀ name other, ¬ PassedOver lower upper threshold name other)
    (counts : (upper.spellings threshold).getLast? = some name) :
    ((lower.under upper).spellings threshold).getLast? = some name := by
  have named := (mem_spellings.mp (List.mem_of_getLast? counts)).2
  rcases lower.spellings_cases lowerDistinct threshold with
    none | ⟨single, -, one⟩ | ⟨first, second, firstNamed, secondNamed, different, both⟩
  · rw [spellings_under lower upperDistinct, none, List.nil_append,
      List.filter_eq_self.mpr (by simp)]
    exact counts
  · rw [spellings_under lower upperDistinct, one]
    rcases upper.spellings_cases upperDistinct threshold with
      none | ⟨given, -, alone⟩ | ⟨before, last, -, -, different, pair⟩
    · rw [none] at counts
      contradiction
    · obtain rfl : given = name := by simpa [alone] using counts
      by_cases same : given = single <;> simp [alone, same]
    · obtain rfl : last = name := by simpa [pair] using counts
      -- The spelling that counts is not configured alone, or the other one would be brought along.
      have unconfigured : last ≠ single := by
        rintro rfl
        exact clear last before (.broughtAlong one pair)
      by_cases same : before = single <;> simp [pair, same, unconfigured]
  · rw [spellings_under_of_both lowerDistinct upperDistinct both, both]
    rcases Threshold.eq_or_eq_of_ofName? firstNamed secondNamed different named with rfl | rfl
    · exact absurd (.bothConfigured both counts) (clear name second)
    · rfl

/-- Where nothing is passed over, a value of the upper layer goes before a configured one. -/
theorem value?_under (lowerDistinct : lower.Distinct) (upperDistinct : upper.Distinct)
    (clear : ∀ name other, ¬ PassedOver lower upper threshold name other) :
    (lower.under upper).value? threshold =
      (upper.value? threshold).or (lower.value? threshold) := by
  rw [value?_eq (distinct_under lowerDistinct upperDistinct), value?_eq upperDistinct]
  cases counts : (upper.spellings threshold).getLast? with
  | none =>
    have unnamed := List.getLast?_eq_none_iff.mp counts
    rw [spellings_under lower upperDistinct, unnamed, List.filter_nil, List.append_nil,
      value?_eq lowerDistinct]
    cases last : (lower.spellings threshold).getLast? with
    | none => rfl
    | some name =>
      have named := mem_spellings.mp (List.mem_of_getLast? last)
      have absent : name ∉ upper.names := fun present =>
        List.ne_nil_of_mem (mem_spellings.mpr ⟨present, named.2⟩) unnamed
      simp [lookup_under lower upperDistinct, lookup_eq_none absent]
  | some name =>
    obtain ⟨present, named⟩ := mem_spellings.mp (List.mem_of_getLast? counts)
    obtain ⟨⟨name', value⟩, member, rfl⟩ := List.mem_map.mp present
    rw [getLast?_spellings_under lowerDistinct upperDistinct clear counts]
    simp [lookup_under lower upperDistinct, lookup_eq_some upperDistinct member]

theorem value?_of_passedOver (passed : PassedOver lower upper threshold name other)
    (lowerDistinct : lower.Distinct) (upperDistinct : upper.Distinct) :
    (lower.under upper).value? threshold = (upper.lookup other).or (lower.lookup other) := by
  rw [value?_eq (distinct_under lowerDistinct upperDistinct),
    passed.spellings_under lowerDistinct upperDistinct]
  exact lookup_under lower upperDistinct other

theorem isSome_value?_under (lower : Overrides) (upperDistinct : upper.Distinct)
    (threshold : Threshold) :
    ((lower.under upper).value? threshold).isSome =
      ((upper.value? threshold).isSome || (lower.value? threshold).isSome) := by
  rw [Bool.eq_iff_iff, Bool.or_eq_true, isSome_value?_iff, isSome_value?_iff, isSome_value?_iff,
    spellings_under lower upperDistinct]
  by_cases none : lower.spellings threshold = []
  · rw [none, List.nil_append, List.filter_eq_self.mpr (by simp)]
    simp
  · simp [none]

/-! ## Setting thresholds by layers -/

theorem unknownNames_eq_nil_iff {overrides : Overrides} :
    overrides.unknownNames = [] ↔
      ∀ name ∈ overrides.names, (Threshold.ofName? name).isSome = true := by
  rw [unknownNames, List.filter_eq_nil_iff]
  refine forall₂_congr fun name _ => ?_
  rw [← Option.not_isSome, Bool.not_eq_true', Bool.not_eq_false]

theorem eq_of_getD {α : Type} {x y : Option α} {kept : α} (present : x.isSome = y.isSome)
    (same : x.getD kept = y.getD kept) : x = y := by
  cases x with
  | none => exact (Option.isNone_iff_eq_none.mp (Option.isSome_eq_false_iff.mp present.symm)).symm
  | some a =>
    obtain ⟨b, rfl⟩ := Option.isSome_iff_exists.mp present.symm
    exact congrArg some same

/-- Layers come to the same as setting the thresholds by one after the other exactly when each
threshold is given what the upper layer says, or else the lower one. -/
theorem resolve_under_iff_given (lowerAccepted : lower.Accepted) (upperAccepted : upper.Accepted)
    (upperDistinct : upper.Distinct) (start : Thresholds) :
    (lower.under upper).resolve start = upper.resolve (lower.onto start) ↔
      ∀ threshold, (lower.under upper).given? threshold =
        (upper.given? threshold).or (lower.given? threshold) := by
  have present (threshold : Threshold) :
      ((upper.given? threshold).or (lower.given? threshold)).isSome =
        ((lower.under upper).value? threshold).isSome := by
    rw [isSome_value?_under lower upperDistinct, Option.isSome_or, upperAccepted.taken,
      lowerAccepted.taken]
  have layers (threshold : Threshold) : (upper.onto (lower.onto start)).get threshold =
      ((upper.given? threshold).or (lower.given? threshold)).getD (start.get threshold) := by
    rw [get_onto, get_onto]
    cases upper.given? threshold <;> rfl
  rw [resolve_eq_ok_iff.mpr ⟨upperAccepted, rfl⟩, resolve_eq_ok_iff]
  constructor
  · rintro ⟨accepted, same⟩ threshold
    have same := congrArg (fun thresholds => thresholds.get threshold) same
    rw [layers, get_onto] at same
    exact eq_of_getD ((accepted.taken threshold).trans (present threshold).symm) same.symm
  · intro same
    refine ⟨⟨?_, fun threshold => ?_⟩, Thresholds.eq_of_get fun threshold => ?_⟩
    · rw [unknownNames_eq_nil_iff, names_under lower upperDistinct]
      intro name member
      rcases List.mem_append.mp member with configured | added
      · exact unknownNames_eq_nil_iff.mp lowerAccepted.known name configured
      · exact unknownNames_eq_nil_iff.mp upperAccepted.known name (List.mem_filter.mp added).1
    · rw [same, present]
    · rw [layers, get_onto, same]

/-- What is passed over says the same as what counts instead. -/
def LosesNothing (lower upper : Overrides) : Prop :=
  ∀ threshold name other, PassedOver lower upper threshold name other →
    ((upper.lookup other).or (lower.lookup other)).bind threshold.read? =
      (upper.lookup name).bind threshold.read?

theorem given?_of_counts (upperDistinct : upper.Distinct) (upperAccepted : upper.Accepted)
    (counts : (upper.spellings threshold).getLast? = some name) :
    upper.given? threshold = (upper.lookup name).bind threshold.read? ∧
      (upper.given? threshold).isSome = true := by
  constructor
  · rw [given?, value?_eq upperDistinct, counts, Option.bind_some]
  · rw [upperAccepted.taken, isSome_value?_iff]
    exact List.ne_nil_of_mem (List.mem_of_getLast? counts)

/-- With values over configured ones the thresholds are set by the configured values first and then
by the others exactly when nothing is lost. -/
theorem resolve_under_iff {start base alone : Thresholds} (lowerDistinct : lower.Distinct)
    (upperDistinct : upper.Distinct) (accepted : lower.resolve start = .ok base)
    (acceptedAlone : upper.resolve start = .ok alone) :
    (lower.under upper).resolve start = upper.resolve base ↔ LosesNothing lower upper := by
  obtain ⟨lowerAccepted, rfl⟩ := resolve_eq_ok_iff.mp accepted
  obtain ⟨upperAccepted, -⟩ := resolve_eq_ok_iff.mp acceptedAlone
  rw [resolve_under_iff_given lowerAccepted upperAccepted upperDistinct]
  constructor
  · intro same threshold name other passed
    obtain ⟨counting, present⟩ := given?_of_counts upperDistinct upperAccepted passed.counts
    have same := same threshold
    rw [Option.or_of_isSome present, counting, given?,
      value?_of_passedOver passed lowerDistinct upperDistinct] at same
    exact same
  · intro nothing threshold
    by_cases passing : ∃ name other, PassedOver lower upper threshold name other
    · obtain ⟨name, other, passed⟩ := passing
      obtain ⟨counting, present⟩ := given?_of_counts upperDistinct upperAccepted passed.counts
      rw [Option.or_of_isSome present, counting, given?,
        value?_of_passedOver passed lowerDistinct upperDistinct]
      exact nothing threshold name other passed
    · have clear name other := fun passed => passing ⟨name, other, passed⟩
      rw [given?, value?_under lowerDistinct upperDistinct clear]
      have taken := upperAccepted.taken threshold
      rw [given?] at taken ⊢
      cases value : upper.value? threshold with
      | none => rfl
      | some given =>
        rw [value] at taken
        rw [Option.some_or, Option.or_of_isSome taken]

end Overrides

/-! ## Requests and flags -/

namespace Session

/-- The values of the limits that a command line gives. -/
def flagValues (limits : List (Limit × Int)) : Overrides :=
  CommandLine.limitFlags.filterMap fun flag =>
    (limits.lookup flag.1).map fun value => (flag.1.publicName, .int value)

theorem overridesOf_eq (limits : List (Limit × Int)) (configured : Overrides) :
    overridesOf limits configured = configured.under (flagValues limits) := by
  rw [Overrides.under, flagValues, List.foldl_filterMap, overridesOf]
  congr
  funext overrides flag
  obtain ⟨limit, -⟩ := flag
  cases given : limits.lookup limit <;> simp only [given] <;> rfl

theorem exists_of_mem_flagValues {limits : List (Limit × Int)} {entry : String × Json}
    (member : entry ∈ flagValues limits) :
    ∃ (limit : Limit) (value : Int), entry = (limit.publicName, .int value) := by
  obtain ⟨flag, -, given⟩ := List.mem_filterMap.mp member
  obtain ⟨value, -, rfl⟩ := Option.map_eq_some_iff.mp given
  exact ⟨flag.1, value, rfl⟩

/-- Every flag has a limit of its own. -/
theorem distinct_flagValues (limits : List (Limit × Int)) : (flagValues limits).Distinct := by
  have within (flags : List (Limit × String)) :
      (Overrides.names (flags.filterMap fun flag =>
        (limits.lookup flag.1).map fun value => (flag.1.publicName, Json.int value))).Sublist
      (flags.map fun flag => flag.1.publicName) := by
    induction flags with
    | nil => exact .slnil
    | cons flag later ih =>
      rw [List.filterMap_cons, List.map_cons]
      cases limits.lookup flag.1 with
      | none => exact ih.cons _
      | some value => exact ih.cons_cons _
  exact (within CommandLine.limitFlags).nodup (by decide)

theorem accepted_flagValues (limits : List (Limit × Int)) : (flagValues limits).Accepted := by
  refine ⟨?_, fun threshold => ?_⟩
  · rw [Overrides.unknownNames_eq_nil_iff]
    intro name member
    obtain ⟨entry, given, rfl⟩ := List.mem_map.mp member
    obtain ⟨limit, value, rfl⟩ := exists_of_mem_flagValues given
    exact Option.isSome_of_eq_some (Threshold.limit limit).ofName?_publicName
  · rw [Overrides.given?]
    cases given : (flagValues limits).value? threshold with
    | none => rfl
    | some value =>
      obtain ⟨entry, found, rfl⟩ := Option.map_eq_some_iff.mp given
      have member := List.mem_reverse.mp (List.mem_of_find?_eq_some found)
      have named := List.find?_some found
      rw [beq_iff_eq] at named
      obtain ⟨limit, value, rfl⟩ := exists_of_mem_flagValues member
      obtain rfl :=
        Option.some.inj ((Threshold.limit limit).ofName?_publicName.symm.trans named)
      rfl

end Session

/-- Values of a request over configured ones, and limits of a command line over configured ones,
come to setting the thresholds by the configured values first and by the explicit ones then, which
gives every threshold its explicit value, exactly when nothing is lost: in every case but those of
thresholds whose explicit value is passed over for another value under their other name. -/
theorem explicit_over_configured {configured : Overrides} {base : Thresholds}
    (distinct : configured.Distinct) (accepted : configured.resolve .standard = .ok base) :
    (∀ (settings : Settings) (given : Overrides) (alone : Thresholds),
      settings.thresholds = configured → given.Distinct → given.resolve .standard = .ok alone →
        ((Service.merged settings given).resolve .standard = given.resolve base ↔
          configured.LosesNothing given)) ∧
    (∀ limits : List (Limit × Int),
      (Session.overridesOf limits configured).resolve .standard =
          (Session.flagValues limits).resolve base ↔
        configured.LosesNothing (Session.flagValues limits)) ∧
    ∀ (given : Overrides) (used : Thresholds), given.resolve base = .ok used →
      ∀ (threshold : Threshold) (value : threshold.Value),
        given.given? threshold = some value → used.get threshold = value := by
  refine ⟨?_, fun limits => ?_, fun given used resolved threshold value named => ?_⟩
  · rintro settings given alone rfl givenDistinct acceptedAlone
    exact Overrides.resolve_under_iff distinct givenDistinct accepted acceptedAlone
  · rw [Session.overridesOf_eq]
    exact Overrides.resolve_under_iff distinct (Session.distinct_flagValues limits) accepted
      (Overrides.resolve_eq_ok_iff.mpr ⟨Session.accepted_flagValues limits, rfl⟩)
  · obtain ⟨-, rfl⟩ := Overrides.resolve_eq_ok_iff.mp resolved
    rw [Overrides.get_onto, named, Option.getD_some]

/-- A limit of a request under the one name goes before one that is configured under the other. -/
theorem explicit_over_configured_otherName :
    Overrides.Distinct [("templateDepth", .int 5)] ∧
    Overrides.resolve [("templateDepth", .int 5)] .standard =
      .ok (Overrides.onto [("templateDepth", .int 5)] .standard) ∧
    (Service.merged { Settings.standard with thresholds := [("templateDepth", .int 5)] }
        [("template_depth", .int 1)]).resolve .standard =
      Overrides.resolve [("template_depth", .int 1)]
        (Overrides.onto [("templateDepth", .int 5)] .standard) := by
  refine ⟨by decide, rfl, ?_⟩
  refine ((explicit_over_configured (by decide) rfl).1
    { Settings.standard with thresholds := [("templateDepth", .int 5)] }
    [("template_depth", .int 1)] _ rfl (by decide) rfl).mpr ?_
  intro threshold name other passed
  -- Either way there would have to be two names for the threshold in one of the layers.
  have atMost (spelling : String) (value : Json) :
      (Overrides.spellings [(spelling, value)] threshold).length ≤ 1 :=
    List.length_filter_le _ _
  cases passed with
  | bothConfigured configured _ => exact absurd (configured ▸ atMost _ _) (by simp)
  | broughtAlong _ counts => exact absurd (counts ▸ atMost _ _) (by simp)

/-- Where a limit is configured under both its names and a request gives it under the first, the
value under the second is used. -/
theorem explicit_passed_over :
    ¬ ∀ (settings : Settings) (given : Overrides) (base alone : Thresholds),
      settings.thresholds.Distinct → settings.thresholds.resolve .standard = .ok base →
        given.Distinct → given.resolve .standard = .ok alone →
          (Service.merged settings given).resolve .standard = given.resolve base := by
  intro always
  have same := always
    { Settings.standard with
      thresholds := [("templateDepth", .int 5), ("template_depth", .int 6)] }
    [("templateDepth", .int 1)] _ _ (by decide) rfl (by decide) rfl
  have used := congrArg (fun resolved => resolved.toOption.map fun thresholds =>
    thresholds.limit .templateDepth) same
  have differ : (some 6 : Option Int) = some 1 := used
  contradiction

end SfcLint
