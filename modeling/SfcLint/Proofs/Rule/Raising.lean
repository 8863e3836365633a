/-
# Raising thresholds

Every rule finds its suspects without looking at thresholds and judges each at least as severely
under lower ones. So the issues under higher thresholds are, in order and one for one, issues under
lower thresholds, at the same places and no more severe.
-/

import SfcLint.Analysis.Check
import SfcLint.Proofs.Rule.Grades

namespace SfcLint

namespace Rule

/-! ## Templates -/

theorem lenient_vifWithVfor : vifWithVfor.Lenient :=
  lenient_ofSuspects fun _ _ => .map fun _ => .certain

/-- The marker escalates by the path alone. -/
theorem lenient_vforWithoutKey : vforWithoutKey.Lenient := by
  refine lenient_ofSuspects fun component path => .map fun node => ?_
  intro lower higher atMost
  simp only [atMost.marker, Nat.le_refl]

theorem lenient_vforIndexAsKey : vforIndexAsKey.Lenient :=
  lenient_ofSuspects fun _ _ => .map fun _ => .certain

theorem lenient_complexTemplateExpression : complexTemplateExpression.Lenient := by
  refine lenient_ofSuspects fun component _ => .filterMap fun node => ?_
  rw [interpolationSuspect?.eq_def]
  split
  · exact .some (.graded (fun _ => rfl) fun _ _ => rank_expressionSeverity?_le _)
  · exact .none

theorem lenient_vhtmlXssRisk : vhtmlXssRisk.Lenient :=
  lenient_ofSuspects fun _ _ => .filterMap fun _ => .bind fun _ => .map fun _ => .certain

theorem lenient_deepTemplateNesting : deepTemplateNesting.Lenient :=
  lenient_ofSuspects fun _ _ => .map fun root =>
    .graded (fun _ => rfl) fun _ _ => rank_nestingSeverity?_le root.depth

/-! ## Architecture -/

theorem lenient_godComponent : godComponent.Lenient := by
  intro component path suspects ran
  rw [godComponent] at ran
  split at ran
  · obtain rfl := Except.ok.inj ran
    exact .nil
  · obtain ⟨measures, -, ran⟩ := Except.bind_eq_ok_iff.mp ran
    obtain rfl := Except.ok.inj ran
    exact .single fun _ _ => rank_sizeVerdict?_le measures

theorem lenient_singleWordComponentName : singleWordComponentName.Lenient := by
  intro component path suspects ran
  obtain ⟨name, -, ran⟩ := Except.bind_eq_ok_iff.mp ran
  obtain rfl := Except.ok.inj ran
  cases name with
  | none => exact .nil
  | some name => exact .ite (.single .certain) .nil

theorem lenient_propDrilling : propDrilling.Lenient := by
  refine lenient_onScript fun component code suspects ran => ?_
  obtain ⟨props, -, ran⟩ := Except.bind_eq_ok_iff.mp ran
  split at ran
  · obtain rfl := Except.ok.inj ran
    exact .nil
  · obtain ⟨passed, -, ran⟩ := Except.bind_eq_ok_iff.mp ran
    obtain rfl := Except.ok.inj ran
    exact .single (.graded (fun _ => rfl) fun _ _ => rank_passingSeverity?_le passed.length)

theorem allLenient_atFirst {part : Text} {severity : Severity} {message refactoring : String}
    {component : Component} {code : Text} :
    AllLenient (atFirst part severity message refactoring component code) :=
  .map fun _ => .certain

theorem lenient_tightCoupling : tightCoupling.Lenient := by
  refine lenient_onScript fun component code suspects ran => ?_
  obtain ⟨mutations, -, ran⟩ := Except.bind_eq_ok_iff.mp ran
  obtain rfl := Except.ok.inj ran
  exact (((allLenient_atFirst.append allLenient_atFirst).append (.map fun _ => .certain)).append
    (.filterMap fun _ => .map fun _ => .certain))

/-! ## Reactivity -/

theorem lenient_refReactiveConfusion : refReactiveConfusion.Lenient := by
  refine lenient_onScript fun component code suspects ran => ?_
  obtain ⟨found, -, ran⟩ := Except.bind_eq_ok_iff.mp ran
  obtain rfl := Except.ok.inj ran
  have values : AllLenient (plainValues component code) :=
    .append (.map fun _ => .certain) (.map fun _ => .certain)
  exact (values.append (.map fun _ => .certain)).append (.map fun _ => .certain)

theorem lenient_destructuringReactivityLoss : destructuringReactivityLoss.Lenient := by
  refine lenient_onScript fun component code suspects ran => ?_
  obtain ⟨found, -, ran⟩ := Except.bind_eq_ok_iff.mp ran
  obtain rfl := Except.ok.inj ran
  exact .filterMap fun _ => .map fun _ => .certain

theorem lenient_computedSideEffects : computedSideEffects.Lenient := by
  refine lenient_onScript fun component code suspects ran => ?_
  obtain ⟨bodies, -, ran⟩ := Except.bind_eq_ok_iff.mp ran
  obtain rfl := Except.ok.inj ran
  refine .filterMap fun computed => ?_
  rw [impureSuspect?]
  split
  · exact .none
  · exact .some .certain

/-- What a row of searches finds is judged leniently when each search finds nothing else. -/
theorem allLenient_of_mapM {α : Type} {given : List α}
    {search : α → Except Script.Failure (Option Suspect)} {found : List (Option Suspect)}
    (lenient : ∀ a suspect, search a = .ok suspect → MayBeLenient suspect)
    (searched : given.mapM search = .ok found) : AllLenient (found.filterMap id) := by
  intro suspect member
  obtain ⟨result, listed, said⟩ := List.mem_filterMap.mp member
  obtain ⟨a, -, came⟩ := Except.exists_of_mapM_eq_ok searched listed
  exact lenient a result came suspect said

theorem mayBeLenient_watcherSuspect? {component : Component} {code : Text} {call : Script.Call}
    {suspect : Option Suspect} (found : watcherSuspect? component code call = .ok suspect) :
    MayBeLenient suspect := by
  rw [watcherSuspect?] at found
  split at found
  · dsimp only at found
    split_ifs at found
    · obtain ⟨size, -, found⟩ := Except.bind_eq_ok_iff.mp found
      obtain rfl := Except.ok.inj found
      exact .some fun _ _ => rank_depthVerdict_le size
    · obtain rfl := Except.ok.inj found
      exact .none
    · obtain rfl := Except.ok.inj found
      exact .some .certain
    · obtain rfl := Except.ok.inj found
      exact .none
  · obtain rfl := Except.ok.inj found
    exact .none

theorem lenient_deepWatcherOveruse : deepWatcherOveruse.Lenient := by
  refine lenient_onScript fun component code suspects ran => ?_
  obtain ⟨found, searched, ran⟩ := Except.bind_eq_ok_iff.mp ran
  obtain rfl := Except.ok.inj ran
  exact allLenient_of_mapM (fun _ _ => mayBeLenient_watcherSuspect?) searched

theorem lenient_watcherShouldBeComputed : watcherShouldBeComputed.Lenient := by
  refine lenient_inScript fun component code => .filterMap fun call => .bind fun body => ?_
  split
  · exact .none
  · exact .some .certain
  · exact .some .certain

/-! ## State -/

theorem lenient_vuexAsyncInMutation : vuexAsyncInMutation.Lenient := by
  refine lenient_onScript fun component code suspects ran => ?_
  obtain ⟨handlers, -, ran⟩ := Except.bind_eq_ok_iff.mp ran
  obtain rfl := Except.ok.inj ran
  exact .filterMap fun handler => .ite (.some .certain) .none

theorem lenient_vuexGodStore : vuexGodStore.Lenient := by
  refine lenient_onScript fun component code suspects ran => ?_
  obtain ⟨blocks, -, ran⟩ := Except.bind_eq_ok_iff.mp ran
  obtain ⟨found, measured, ran⟩ := Except.bind_eq_ok_iff.mp ran
  obtain rfl := Except.ok.inj ran
  refine .flatten fun part listed => ?_
  obtain ⟨block, -, came⟩ := Except.exists_of_mapM_eq_ok measured listed
  obtain ⟨measures, -, came⟩ := Except.bind_eq_ok_iff.mp came
  obtain rfl := Except.ok.inj came
  exact .map fun measure _ _ => rank_storeVerdict?_le measure

theorem allLenient_storesTogether {component : Component} {code : Text} :
    AllLenient (storesTogether component code) := by
  rw [storesTogether]
  split
  · exact .single .certain
  · exact .nil

theorem lenient_piniaCircularDependency : piniaCircularDependency.Lenient := by
  refine lenient_onScript fun component code suspects ran => ?_
  obtain ⟨stores, -, ran⟩ := Except.bind_eq_ok_iff.mp ran
  obtain rfl := Except.ok.inj ran
  exact .append (.map fun _ => .certain) allLenient_storesTogether

theorem lenient_piniaUsestoreAfterAwait : piniaUsestoreAfterAwait.Lenient :=
  lenient_inScript fun _ _ => .append (.map fun _ => .certain) (.map fun _ => .certain)

theorem allLenient_returnedState {component : Component} {hit : Hit} {suspects : List Suspect}
    (found : returnedState component hit = .ok suspects) : AllLenient suspects := by
  rw [returnedState] at found
  split at found
  · obtain rfl := Except.ok.inj found
    exact .nil
  · obtain ⟨keys, -, found⟩ := Except.bind_eq_ok_iff.mp found
    obtain rfl := Except.ok.inj found
    exact .map fun _ => .certain

theorem lenient_stateLocalizationAntipattern : stateLocalizationAntipattern.Lenient := by
  refine lenient_onScript fun component code suspects ran => ?_
  have declared : AllLenient ((localReference.hits code).filterMap (variableSuspect? component)) :=
    .filterMap fun _ => .map fun _ => .certain
  dsimp only at ran
  split at ran
  · obtain rfl := Except.ok.inj ran
    exact .append .nil (.ite .nil declared)
  · obtain ⟨returned, searched, ran⟩ := Except.bind_eq_ok_iff.mp ran
    obtain rfl := Except.ok.inj ran
    refine .append (.flatten fun part listed => ?_) (.ite .nil declared)
    obtain ⟨hit, -, came⟩ := Except.exists_of_mapM_eq_ok searched listed
    exact allLenient_returnedState came

theorem mayBeLenient_injectionSuspect? {component : Component} {call : Script.Call} :
    MayBeLenient (injectionSuspect? component call) := by
  rw [injectionSuspect?]
  split
  · exact .none
  · exact .ite .none (.ite (.some .certain) (.ite (.some .certain) .none))

theorem allLenient_withoutTypedKey {component : Component} {code : Text}
    {calls : List Script.Call} : AllLenient (withoutTypedKey component code calls) := by
  rw [withoutTypedKey.eq_def]
  split
  · exact .ite .nil (.single .certain)
  · exact .nil

theorem lenient_untypedProvideInject : untypedProvideInject.Lenient :=
  lenient_inScript fun _ _ =>
    .append (.filterMap fun _ => mayBeLenient_injectionSuspect?) allLenient_withoutTypedKey

/-! ## Routing -/

theorem lenient_infiniteNavigationLoop : infiniteNavigationLoop.Lenient :=
  lenient_inScript fun _ _ =>
    .flatMap fun _ => .append (.map fun _ => .certain) (.map fun _ => .certain)

theorem lenient_missingLazyLoading : missingLazyLoading.Lenient :=
  lenient_inScript fun _ _ => .append (.map fun _ => .certain) (.map fun _ => .certain)

theorem lenient_godGuardAntipattern : godGuardAntipattern.Lenient :=
  lenient_inScript fun _ _ => .map fun guard =>
    .graded (fun _ => rfl) fun _ _ =>
      rank_guardSeverity?_le (duties guard.body).length (Text.lineCount guard.body)

/-! ## Performance -/

theorem mayBeLenient_listSuspect? {code : Text} {node : Node} {suspect : Option Suspect}
    (found : listSuspect? code node = .ok suspect) : MayBeLenient suspect := by
  rw [listSuspect?] at found
  split at found
  · obtain rfl := Except.ok.inj found
    exact .none
  · obtain ⟨size, -, found⟩ := Except.bind_eq_ok_iff.mp found
    obtain rfl := Except.ok.inj found
    exact .some fun _ _ => rank_listVerdict?_le size

theorem lenient_largeListNoVirtualization : largeListNoVirtualization.Lenient := by
  intro component path suspects ran
  rw [largeListNoVirtualization] at ran
  split at ran
  · obtain rfl := Except.ok.inj ran
    exact .nil
  · obtain ⟨found, searched, ran⟩ := Except.bind_eq_ok_iff.mp ran
    obtain rfl := Except.ok.inj ran
    exact allLenient_of_mapM (fun _ _ => mayBeLenient_listSuspect?) searched

theorem mayBeLenient_dataSuspect? {component : Component} {code : Text} {call : Script.Call}
    {suspect : Option Suspect} (found : dataSuspect? component code call = .ok suspect) :
    MayBeLenient suspect := by
  rw [dataSuspect?] at found
  split at found
  · obtain rfl := Except.ok.inj found
    exact .none
  · obtain ⟨size, -, found⟩ := Except.bind_eq_ok_iff.mp found
    obtain rfl := Except.ok.inj found
    exact .some fun _ _ => rank_dataVerdict?_le size

theorem lenient_missingShallowReactivity : missingShallowReactivity.Lenient := by
  refine lenient_onScript fun component code suspects ran => ?_
  obtain ⟨found, searched, ran⟩ := Except.bind_eq_ok_iff.mp ran
  obtain rfl := Except.ok.inj ran
  exact allLenient_of_mapM (fun _ _ => mayBeLenient_dataSuspect?) searched

theorem lenient_eventListenerMemoryLeak : eventListenerMemoryLeak.Lenient :=
  lenient_inScript fun _ _ => .map fun _ => .certain

theorem lenient_fullLibraryImport : fullLibraryImport.Lenient :=
  lenient_inScript fun _ _ =>
    .append
      (.append (.filterMap fun _ => .map fun _ => .certain)
        (.filterMap fun _ => .ite (.some .certain) .none))
      (.filterMap fun _ => .map fun _ => .certain)

/-! ## Types -/

theorem mayBeLenient_untypedMember? {component : Component} {offset : Nat} {entry : Script.Entry} :
    MayBeLenient (untypedMember? component offset entry) := by
  rw [untypedMember?]
  split
  · exact .ite (.some .certain) .none
  · exact .none

theorem allLenient_untypedOptionProps {component : Component}
    {declaration : Script.PropsDeclaration} {suspects : List Suspect}
    (found : untypedOptionProps component declaration = .ok suspects) : AllLenient suspects := by
  rw [untypedOptionProps] at found
  split at found
  · obtain rfl := Except.ok.inj found
    exact .single .certain
  · obtain ⟨entries, -, found⟩ := Except.bind_eq_ok_iff.mp found
    obtain rfl := Except.ok.inj found
    exact .filterMap fun _ => mayBeLenient_untypedMember?

theorem lenient_untypedProps : untypedProps.Lenient := by
  refine lenient_onScript fun component code suspects ran => ?_
  obtain ⟨declared, searched, ran⟩ := Except.bind_eq_ok_iff.mp ran
  obtain rfl := Except.ok.inj ran
  refine .append (.append (.map fun _ => .certain) (.flatten fun part listed => ?_))
    allLenient_atHits
  obtain ⟨declaration, -, came⟩ := Except.exists_of_mapM_eq_ok searched listed
  exact allLenient_untypedOptionProps came

theorem lenient_untypedEmits : untypedEmits.Lenient :=
  lenient_inScript fun _ _ =>
    .append (.append (.map fun _ => .certain) (.map fun _ => .certain))
      (.ite .nil (.map fun _ => .certain))

theorem mayBeLenient_emptyReference? {component : Component} {hit : Hit} :
    MayBeLenient (emptyReference? component hit) :=
  .ite .none (.some .certain)

theorem mayBeLenient_elementReference? {code : Text} {node : Node} :
    MayBeLenient (elementReference? code node) := by
  refine .bind fun reference => ?_
  split
  · exact .ite .none (.some .certain)
  · exact .none

theorem lenient_refTypeInferenceIssues : refTypeInferenceIssues.Lenient :=
  lenient_inScript fun _ _ =>
    .append
      (.append (.append allLenient_atHits (.filterMap fun _ => mayBeLenient_emptyReference?))
        (.ite (.filterMap fun _ => mayBeLenient_elementReference?) .nil))
      allLenient_atHits

/-! ## Tests -/

theorem lenient_inTest {suspects : Component → Text → List Suspect}
    (lenient : ∀ component code, AllLenient (suspects component code)) :
    (inTest suspects).Lenient := by
  intro component path found ran
  rw [inTest] at ran
  split at ran
  · exact lenient_inScript lenient component path found ran
  · obtain rfl := Except.ok.inj ran
    exact .nil

theorem lenient_implementationTesting : implementationTesting.Lenient :=
  lenient_inTest fun _ _ =>
    .append (.flatMap fun _ => .map fun _ => .certain) (.map fun _ => .certain)

theorem allLenient_sharedStores {component : Component} {code : Text} {uses : List Hit} :
    AllLenient (sharedStores component code uses) := by
  rw [sharedStores.eq_def]
  split
  · exact .single .certain
  · exact .single .certain
  · exact .nil

theorem allLenient_severalStores {component : Component} {uses : List Hit} :
    AllLenient (severalStores component uses) := by
  rw [severalStores.eq_def]
  split
  · exact .single .certain
  · exact .nil

theorem lenient_piniaStateLeak : piniaStateLeak.Lenient :=
  lenient_inTest fun _ _ => .ite .nil (.append allLenient_sharedStores allLenient_severalStores)

theorem lenient_snapshotShare {component : Component} {snapshots tests : Nat} :
    (snapshotShare component snapshots tests).Lenient :=
  .graded (fun _ => rfl) fun _ _ => rank_snapshotSeverity?_le (snapshotRatio snapshots tests)

theorem lenient_snapshotOveruse : snapshotOveruse.Lenient :=
  lenient_inTest fun _ _ =>
    .append
      (.append (.cons lenient_snapshotShare (.ite (.single .certain) .nil))
        (.map fun _ => .certain))
      (.filterMap fun _ => .ite (.some .certain) .none)

end Rule

namespace AntiPattern

/-- Every rule judges what it finds at least as severely under lower thresholds. -/
theorem lenient_rule (pattern : AntiPattern) : pattern.rule.Lenient := by
  cases pattern with
  | vifWithVfor => exact Rule.lenient_vifWithVfor
  | vforWithoutKey => exact Rule.lenient_vforWithoutKey
  | vforIndexAsKey => exact Rule.lenient_vforIndexAsKey
  | complexTemplateExpression => exact Rule.lenient_complexTemplateExpression
  | vhtmlXssRisk => exact Rule.lenient_vhtmlXssRisk
  | deepTemplateNesting => exact Rule.lenient_deepTemplateNesting
  | godComponent => exact Rule.lenient_godComponent
  | singleWordComponentName => exact Rule.lenient_singleWordComponentName
  | propDrilling => exact Rule.lenient_propDrilling
  | tightCoupling => exact Rule.lenient_tightCoupling
  | refReactiveConfusion => exact Rule.lenient_refReactiveConfusion
  | destructuringReactivityLoss => exact Rule.lenient_destructuringReactivityLoss
  | computedSideEffects => exact Rule.lenient_computedSideEffects
  | deepWatcherOveruse => exact Rule.lenient_deepWatcherOveruse
  | watcherShouldBeComputed => exact Rule.lenient_watcherShouldBeComputed
  | vuexAsyncInMutation => exact Rule.lenient_vuexAsyncInMutation
  | vuexGodStore => exact Rule.lenient_vuexGodStore
  | piniaCircularDependency => exact Rule.lenient_piniaCircularDependency
  | piniaUsestoreAfterAwait => exact Rule.lenient_piniaUsestoreAfterAwait
  | stateLocalizationAntipattern => exact Rule.lenient_stateLocalizationAntipattern
  | untypedProvideInject => exact Rule.lenient_untypedProvideInject
  | infiniteNavigationLoop => exact Rule.lenient_infiniteNavigationLoop
  | missingLazyLoading => exact Rule.lenient_missingLazyLoading
  | godGuardAntipattern => exact Rule.lenient_godGuardAntipattern
  | largeListNoVirtualization => exact Rule.lenient_largeListNoVirtualization
  | missingShallowReactivity => exact Rule.lenient_missingShallowReactivity
  | eventListenerMemoryLeak => exact Rule.lenient_eventListenerMemoryLeak
  | fullLibraryImport => exact Rule.lenient_fullLibraryImport
  | untypedProps => exact Rule.lenient_untypedProps
  | untypedEmits => exact Rule.lenient_untypedEmits
  | refTypeInferenceIssues => exact Rule.lenient_refTypeInferenceIssues
  | implementationTesting => exact Rule.lenient_implementationTesting
  | piniaStateLeak => exact Rule.lenient_piniaStateLeak
  | snapshotOveruse => exact Rule.lenient_snapshotOveruse

/-- Raising thresholds adds no issue and makes none more severe. If the rule ends well, it ends well
under lower thresholds, and then each issue under the higher ones is, in order, at the place of an
issue of its own that is at least as severe. -/
theorem issues_of_atMost (pattern : AntiPattern) (component : Component) (path : String)
    {lower higher : Thresholds} (atMost : lower.AtMost higher) {milder : List Issue}
    (found : pattern.issues component path higher = .ok milder) :
    ∃ issues, pattern.issues component path lower = .ok issues ∧
      List.SublistForall₂ (fun mild issue : Issue =>
          mild.pattern = issue.pattern ∧ mild.position = issue.position ∧
            mild.severity.weight ≤ issue.severity.weight)
        milder issues := by
  obtain ⟨suspects, ran, found⟩ := Except.bind_eq_ok_iff.mp found
  obtain rfl := Except.ok.inj found
  exact ⟨_, Except.bind_eq_ok_iff.mpr ⟨suspects, ran, rfl⟩,
    (lenient_rule pattern).issues ran pattern.id atMost⟩

/-- The standard thresholds with all whole numbers raised by two. -/
def raisedThresholds : Thresholds :=
  { Thresholds.standard with limit := fun limit => limit.standard + 2 }

/-- An element around a node. -/
def around (inner : Node) : Node := .element "p".toList [] [inner] Position.start

/-- A template with nine elements inside each other. -/
def nestedTemplate : Component :=
  ⟨some ⟨.root [around^[9] (.text "deep".toList Position.start)], [], Position.start⟩, none⟩

theorem issues_of_atMost_nested :
    Thresholds.standard.AtMost raisedThresholds ∧
      ∃ milder, deepTemplateNesting.issues nestedTemplate "A.vue" raisedThresholds = .ok milder ∧
        ∃ issues, deepTemplateNesting.issues nestedTemplate "A.vue" .standard = .ok issues ∧
          List.SublistForall₂ (fun mild issue : Issue =>
              mild.pattern = issue.pattern ∧ mild.position = issue.position ∧
                mild.severity.weight ≤ issue.severity.weight)
            milder issues := by
  have atMost : Thresholds.standard.AtMost raisedThresholds :=
    { limit := fun limit => by simp only [Thresholds.standard, raisedThresholds]; omega
      tiers := fun table => by
        cases table <;> exact ⟨Binary64.le_self (by decide), Binary64.le_self (by decide),
          Binary64.le_self (by decide), Binary64.le_self (by decide)⟩
      ratio := fun ratio => by cases ratio <;> exact Binary64.le_self (by decide)
      marker := rfl }
  exact ⟨atMost, _, rfl, issues_of_atMost deepTemplateNesting nestedTemplate "A.vue" atMost rfl⟩

end AntiPattern

end SfcLint
