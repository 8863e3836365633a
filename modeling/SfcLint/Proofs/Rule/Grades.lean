/-
# Grades that thresholds decide

A rule measures a component without thresholds, and these only judge what was found. So it is enough
that every judgement is at least as severe under lower thresholds: then raising thresholds adds no
issue, moves none, and makes none more severe. The limits of one set need not be in order: where a
gate looks at one limit and the severity at others, both only grow when limits fall, so what passes
the gate keeps its severity or becomes more severe.
-/

import SfcLint.Proofs.Text.Except
import SfcLint.Proofs.Threshold.Order
import SfcLint.Rule.Architecture
import SfcLint.Rule.Basic
import SfcLint.Rule.Performance
import SfcLint.Rule.Reactivity
import SfcLint.Rule.Routing
import SfcLint.Rule.State
import SfcLint.Rule.Template
import SfcLint.Rule.Testing

namespace SfcLint

/-! ## Suspects -/

/-- The weight of what is said about a place. -/
def Verdict.rank (verdict : Option Verdict) : Nat := Severity.rank (verdict.map (·.severity))

@[simp] theorem Verdict.rank_map {f : Severity → Verdict} (same : ∀ level, (f level).severity = level)
    (severity : Option Severity) : rank (severity.map f) = Severity.rank severity := by
  cases severity with
  | none => rfl
  | some level => exact congrArg Severity.weight (same level)

namespace Suspect

/-- Lower thresholds judge the place at least as severely. -/
def Lenient (suspect : Suspect) : Prop :=
  ∀ lower higher : Thresholds, lower.AtMost higher →
    Verdict.rank (suspect.verdict? higher) ≤ Verdict.rank (suspect.verdict? lower)

/-- What does not depend on thresholds is not changed by them. -/
theorem Lenient.certain {position : Position} {severity : Severity} {message refactoring : String} :
    (Suspect.certain position severity message refactoring).Lenient := by
  intro lower higher _
  exact Nat.le_refl _

/-- A place that is judged by its severity alone. -/
theorem Lenient.graded {position : Position} {grade : Thresholds → Option Severity}
    {verdict : Severity → Verdict} (same : ∀ level, (verdict level).severity = level)
    (antitone : ∀ lower higher : Thresholds, lower.AtMost higher →
      Severity.rank (grade higher) ≤ Severity.rank (grade lower)) :
    Lenient ⟨position, fun thresholds => (grade thresholds).map verdict⟩ := by
  intro lower higher atMost
  simp only [Verdict.rank_map same]
  exact antitone lower higher atMost

end Suspect

/-- A suspect, if there is one, is judged at least as severely by lower thresholds. -/
def MayBeLenient (suspect : Option Suspect) : Prop := ∀ found, suspect = some found → found.Lenient

/-- All of some suspects are judged at least as severely by lower thresholds. -/
def AllLenient (suspects : List Suspect) : Prop := ∀ suspect ∈ suspects, suspect.Lenient

namespace MayBeLenient

variable {α : Type}

theorem none : MayBeLenient none := by
  intro found
  simp

theorem some {suspect : Suspect} (lenient : suspect.Lenient) : MayBeLenient (some suspect) := by
  intro found said
  obtain rfl := Option.some.inj said
  exact lenient

theorem ite {condition : Prop} [Decidable condition] {first second : Option Suspect}
    (lenient : MayBeLenient first) (otherwise : MayBeLenient second) :
    MayBeLenient (if condition then first else second) := by
  split
  · exact lenient
  · exact otherwise

theorem map {given : Option α} {f : α → Suspect} (lenient : ∀ a, (f a).Lenient) :
    MayBeLenient (given.map f) := by
  intro found said
  obtain ⟨a, -, rfl⟩ := Option.map_eq_some_iff.mp said
  exact lenient a

theorem bind {given : Option α} {f : α → Option Suspect} (lenient : ∀ a, MayBeLenient (f a)) :
    MayBeLenient (given.bind f) := by
  intro found said
  obtain ⟨a, -, said⟩ := Option.bind_eq_some_iff.mp said
  exact lenient a found said

end MayBeLenient

namespace AllLenient

variable {α : Type}

theorem nil : AllLenient [] := by
  intro suspect member
  exact absurd member List.not_mem_nil

theorem cons {suspect : Suspect} {later : List Suspect} (first : suspect.Lenient)
    (lenient : AllLenient later) : AllLenient (suspect :: later) :=
  List.forall_mem_cons.mpr ⟨first, lenient⟩

theorem single {suspect : Suspect} (lenient : suspect.Lenient) : AllLenient [suspect] :=
  cons lenient nil

theorem append {first second : List Suspect} (lenient : AllLenient first)
    (also : AllLenient second) : AllLenient (first ++ second) :=
  List.forall_mem_append.mpr ⟨lenient, also⟩

theorem map {given : List α} {f : α → Suspect} (lenient : ∀ a, (f a).Lenient) :
    AllLenient (given.map f) := by
  intro suspect member
  obtain ⟨a, -, rfl⟩ := List.mem_map.mp member
  exact lenient a

theorem filterMap {given : List α} {f : α → Option Suspect} (lenient : ∀ a, MayBeLenient (f a)) :
    AllLenient (given.filterMap f) := by
  intro suspect member
  obtain ⟨a, -, said⟩ := List.mem_filterMap.mp member
  exact lenient a suspect said

theorem flatMap {given : List α} {f : α → List Suspect} (lenient : ∀ a, AllLenient (f a)) :
    AllLenient (given.flatMap f) := by
  intro suspect member
  obtain ⟨a, -, member⟩ := List.mem_flatMap.mp member
  exact lenient a suspect member

theorem flatten {given : List (List Suspect)} (lenient : ∀ part ∈ given, AllLenient part) :
    AllLenient given.flatten := by
  intro suspect member
  obtain ⟨part, listed, member⟩ := List.mem_flatten.mp member
  exact lenient part listed suspect member

theorem ite {condition : Prop} [Decidable condition] {first second : List Suspect}
    (lenient : AllLenient first) (otherwise : AllLenient second) :
    AllLenient (if condition then first else second) := by
  split
  · exact lenient
  · exact otherwise

end AllLenient

/-! ## Rules -/

/-- Lower thresholds judge everything that the rule finds at least as severely. -/
def Rule.Lenient (rule : Rule) : Prop :=
  ∀ component path suspects, rule component path = .ok suspects → AllLenient suspects

namespace Rule

theorem lenient_ofSuspects {suspects : Component → Text → List Suspect}
    (lenient : ∀ component path, AllLenient (suspects component path)) :
    (ofSuspects suspects).Lenient := by
  intro component path found ran
  obtain rfl := Except.ok.inj ran
  exact lenient component path

theorem lenient_onScript {rule : Component → Text → Except Script.Failure (List Suspect)}
    (lenient : ∀ component code suspects, rule component code = .ok suspects →
      AllLenient suspects) : (onScript rule).Lenient := by
  intro component path suspects ran
  rw [onScript] at ran
  split at ran
  · exact lenient component _ suspects ran
  · obtain rfl := Except.ok.inj ran
    exact .nil

theorem lenient_inScript {suspects : Component → Text → List Suspect}
    (lenient : ∀ component code, AllLenient (suspects component code)) :
    (inScript suspects).Lenient := by
  refine lenient_onScript fun component code found ran => ?_
  obtain rfl := Except.ok.inj ran
  exact lenient component code

theorem allLenient_atHits {pattern : Pattern} {severity : Severity} {message refactoring : String}
    {component : Component} {code : Text} :
    AllLenient (atHits pattern severity message refactoring component code) :=
  .map fun _ => .certain

/-- A rule judges fewer places, and none more severely, under higher thresholds: its issues are, in
order and one by one, at places of issues that it finds under lower ones and that are at least as
severe. -/
theorem Lenient.issues {rule : Rule} (lenient : rule.Lenient) {component : Component} {path : Text}
    {suspects : List Suspect} (ran : rule component path = .ok suspects) (id : String)
    {lower higher : Thresholds} (atMost : lower.AtMost higher) :
    List.SublistForall₂ (fun milder issue : Issue =>
        milder.pattern = issue.pattern ∧ milder.position = issue.position ∧
          milder.severity.weight ≤ issue.severity.weight)
      (suspects.filterMap (·.issue? id higher)) (suspects.filterMap (·.issue? id lower)) := by
  have lenient := lenient component path suspects ran
  clear ran
  induction suspects with
  | nil => exact .nil
  | cons suspect later ih =>
    obtain ⟨first, lenient⟩ := List.forall_mem_cons.mp lenient
    have rank := first lower higher atMost
    rw [List.filterMap_cons, List.filterMap_cons, Suspect.issue?, Suspect.issue?]
    cases milder : suspect.verdict? higher with
    | none =>
      cases suspect.verdict? lower with
      | none => exact ih lenient
      | some verdict => exact .cons_right (ih lenient)
    | some verdict' =>
      rw [milder] at rank
      cases judged : suspect.verdict? lower with
      | none =>
        rw [judged] at rank
        have positive := verdict'.severity.weight_pos
        exact absurd rank (Nat.not_le.mpr positive)
      | some verdict =>
        rw [judged] at rank
        exact .cons ⟨rfl, rfl, rank⟩ (ih lenient)

end Rule

namespace Rule

variable {lower higher : Thresholds}

/-! ## Templates -/

theorem rank_expressionSeverity?_le (expression : Text) (atMost : lower.AtMost higher) :
    Severity.rank (expressionSeverity? expression higher) ≤
      Severity.rank (expressionSeverity? expression lower) := by
  have length := atMost.limit .templateExpressionLength
  have long := atMost.limit .templateExpressionLengthHigh
  have chain := atMost.limit .templateMemberChainDepth
  have medium := atMost.limit .templateExpressionLengthMedium
  simp only [expressionSeverity?]
  -- What the expression holds is the same under all thresholds.
  generalize (expression.contains '(' && expression.contains ')') = hasCall
  generalize (expression.contains '?' || expression.includes "&&" || expression.includes "||") =
    hasChoice
  cases hasCall
  · cases hasChoice <;> simp only [or_false, or_true, Bool.false_eq_true] <;> split_ifs <;>
      simp <;> omega
  · simp

theorem rank_nestingSeverity?_le (depth : Int) (atMost : lower.AtMost higher) :
    Severity.rank (nestingSeverity? depth higher) ≤
      Severity.rank (nestingSeverity? depth lower) := by
  have gate := atMost.limit .templateDepth
  have deep := atMost.limit .deepTemplateDepth
  have high := atMost.limit .templateDepthHigh
  simp only [nestingSeverity?]
  split_ifs <;> simp <;> omega

/-! ## Architecture -/

/-- More measures are above lower limits. -/
theorem excesses_sublist (measures : List SizeMeasure) (atMost : lower.AtMost higher) :
    (excesses measures higher).Sublist (excesses measures lower) := by
  refine List.monotone_filter_right measures fun measure above => ?_
  have limit := atMost.limit measure.limit
  simp only [decide_eq_true_eq] at above ⊢
  omega

theorem rank_excessSeverity?_mono : Monotone fun count => Severity.rank (excessSeverity? count) := by
  intro fewer more le
  simp only [excessSeverity?]
  split_ifs <;> simp <;> omega

theorem rank_sizeVerdict?_le (measures : List SizeMeasure) (atMost : lower.AtMost higher) :
    Verdict.rank (sizeVerdict? measures higher) ≤ Verdict.rank (sizeVerdict? measures lower) := by
  rw [sizeVerdict?, sizeVerdict?, Verdict.rank_map fun _ => rfl, Verdict.rank_map fun _ => rfl]
  exact rank_excessSeverity?_mono (excesses_sublist measures atMost).length_le

theorem rank_passingSeverity?_le (count : Int) (atMost : lower.AtMost higher) :
    Severity.rank (passingSeverity? count higher) ≤
      Severity.rank (passingSeverity? count lower) := by
  have gate := atMost.limit .propDrillingMinimum
  have high := atMost.limit .propDrillingHigh
  simp only [passingSeverity?]
  split_ifs <;> simp <;> omega

/-! ## Reactivity -/

theorem rank_depthVerdict_le (size : Nat) (atMost : lower.AtMost higher) :
    Verdict.rank (some (depthVerdict size higher)) ≤
      Verdict.rank (some (depthVerdict size lower)) := by
  have high := atMost.limit .deepWatcherHigh
  have medium := atMost.limit .deepWatcherMedium
  simp only [depthVerdict]
  split_ifs <;> simp [Verdict.rank] <;> omega

/-! ## State -/

theorem rank_storeVerdict?_le (measure : StoreMeasure) (atMost : lower.AtMost higher) :
    Verdict.rank (storeVerdict? measure higher) ≤ Verdict.rank (storeVerdict? measure lower) := by
  rw [storeVerdict?, storeVerdict?, Verdict.rank_map fun _ => rfl, Verdict.rank_map fun _ => rfl]
  exact Tiers.rank_classify_le (atMost.tiers measure.table) measure.value

/-! ## Routing -/

/-- A guard that the higher limits let pass may be judged by the lower ones, and what they both judge
has the stronger of two severities, each of which only grows. -/
theorem rank_guardSeverity?_le (duties lines : Nat) (atMost : lower.AtMost higher) :
    Severity.rank (guardSeverity? duties lines higher) ≤
      Severity.rank (guardSeverity? duties lines lower) := by
  have dutyTiers := atMost.tiers .guardResponsibility
  have lineTiers := atMost.tiers .guardLine
  have stillPasses (small : (lower.tiers .guardResponsibility).medium.isAtLeast (duties : Int) &&
      (lower.tiers .guardLine).medium.isAtLeast (lines : Int)) :
      (higher.tiers .guardResponsibility).medium.isAtLeast (duties : Int) &&
        (higher.tiers .guardLine).medium.isAtLeast (lines : Int) := by
    rw [Bool.and_eq_true] at small ⊢
    exact ⟨Binary64.isAtLeast_of_le dutyTiers.medium small.1,
      Binary64.isAtLeast_of_le lineTiers.medium small.2⟩
  simp only [guardSeverity?]
  split_ifs with passes small small
  · exact Nat.le_refl _
  · exact Nat.zero_le _
  · exact absurd (stillPasses small) passes
  · rw [Severity.rank_stronger?, Severity.rank_stronger?]
    exact max_le_max (Tiers.rank_classify_le dutyTiers duties)
      (Tiers.rank_classify_le lineTiers lines)

/-! ## Performance -/

theorem rank_listVerdict?_le (size : Nat) (atMost : lower.AtMost higher) :
    Verdict.rank (listVerdict? size higher) ≤ Verdict.rank (listVerdict? size lower) := by
  have gate := atMost.limit .largeListMinimum
  have critical := atMost.limit .largeListCritical
  have high := atMost.limit .largeListHigh
  have medium := atMost.limit .virtualizationThreshold
  simp only [listVerdict?]
  split_ifs <;> simp [Verdict.rank] <;> omega

theorem rank_dataVerdict?_le (size : Nat) (atMost : lower.AtMost higher) :
    Verdict.rank (dataVerdict? size higher) ≤ Verdict.rank (dataVerdict? size lower) := by
  have gate := atMost.limit .shallowReactivityMinimum
  have high := atMost.limit .shallowReactivityThreshold
  simp only [dataVerdict?]
  split_ifs <;> simp [Verdict.rank] <;> omega

/-! ## Tests -/

theorem rank_snapshotSeverity?_le (ratio : Binary64) (atMost : lower.AtMost higher) :
    Severity.rank (snapshotSeverity? ratio higher) ≤
      Severity.rank (snapshotSeverity? ratio lower) := by
  have gate := Binary64.lt_of_le (z := ratio) (atMost.ratio .snapshotTest)
  have high := Binary64.lt_of_le (z := ratio) (atMost.ratio .snapshotTestHigh)
  simp only [snapshotSeverity?]
  split_ifs <;> simp_all

end Rule

end SfcLint
