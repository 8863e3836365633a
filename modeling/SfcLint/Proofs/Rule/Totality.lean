/-
# When a rule fails

Most rules never fail. The others read the members of some objects and some numbers, and each fails
exactly when one of its objects holds an empty key or one of its numbers is too long. What a rule
reads is given here for each anti-pattern.
-/

import SfcLint.Analysis.Check
import SfcLint.Proofs.Script.Extraction
import SfcLint.Proofs.Script.Sizes

namespace SfcLint

/-- The code of the component, which may be empty. -/
def Component.code (component : Component) : Text := component.script?.getD []

namespace Rule

open Script

variable {component : Component} {code path : Text}

/-! ## Objects -/

/-- The sections of a store whose members are counted. -/
def countedSections : List String := ["state", "mutations", "actions", "getters"]

/-- The body of a section of a store. -/
def SectionObject (code body : Text) : Prop :=
  ∃ blocks block, storeBlocks code = .ok blocks ∧ block ∈ blocks ∧
    ∃ key ∈ countedSections, storeSection? block key.toList = .ok (some body)

/-- The body of an object that a function returns. -/
inductive ReturnedObject : FunctionBody → Text → Prop
  | expression {t members : Text} :
      objectBody? (withoutParens (Text.strip t)) = some members →
        ReturnedObject (.expression t) members
  | block {span object : Span} {hit : Hit} : hit ∈ returnObject.hits span.body →
      spanAt? span.body hit.stop = some object → ReturnedObject (.block span) object.body

/-- The body of an object that a function for local state returns, unless state is provided. -/
def StateObject (code body : Text) : Prop :=
  (code.includes "provide(".toList || code.includes "provide,".toList) = false ∧
    ∃ hit ∈ localStateFunction.hits code, ∃ function, functionBody? hit.rest = some function ∧
      ReturnedObject function body

/-- The body of an object of props that may lack types. -/
def UntypedObject (code body : Text) : Prop :=
  ∃ declaration ∈ propsDeclarations code,
    Text.startsWith (code.drop declaration.start) "props" = true ∧ declaration.kind ≠ .array ∧
      declaration.body = body

/-! ## Numbers -/

/-- The digits that are read for the size of a list in the template. -/
def ListNumber (component : Component) (digits : Text) : Prop :=
  usesVirtualization component.code = false ∧
    ∃ node ∈ component.elements, ∃ iteration,
      ((node.directive? "for").bind (·.expression)).bind Iteration.ofExpression? = some iteration ∧
        ListDigits iteration.source component.code digits

/-- The digits that are read for the size of reactive data. -/
def DataNumber (code digits : Text) : Prop :=
  ∃ call ∈ calls (Pattern.words ["ref", "reactive", "computed"]) true code, ∃ expression,
    reactiveData? call = some expression ∧ ShowsDigits (Text.strip expression) code digits

/-- The digits that are read for the size of what a deep watcher looks at. -/
def WatchedNumber (code digits : Text) : Prop :=
  ∃ call ∈ plainCalls ["watch"] code, ∃ source callback options rest,
    splitCommas call.args.body = source :: callback :: ('\x7b' :: options) :: rest ∧
      (switchedOn "deep").occursIn ('\x7b' :: options) = true ∧
        ShowsDigits (Text.strip source) code digits

/-! ## Rules that never fail -/

theorem not_fails_ofSuspects {suspects : Component → Text → List Suspect} :
    ¬ (ofSuspects suspects component path).Fails := Except.not_fails_ok

/-- A rule about the script that finds nothing wrong with empty code fails where it does on the
code. -/
theorem fails_onScript_iff {rule : Component → Text → Except Failure (List Suspect)}
    (empty : ∀ component, ¬ (rule component []).Fails) :
    (onScript rule component path).Fails ↔ (rule component component.code).Fails := by
  rw [onScript, Component.code]
  rcases component.script? with _ | _ | ⟨c, code⟩
  · exact iff_of_false Except.not_fails_ok (empty component)
  · exact iff_of_false Except.not_fails_ok (empty component)
  · rfl

theorem not_fails_inScript {suspects : Component → Text → List Suspect} :
    ¬ (inScript suspects component path).Fails := by
  rw [inScript, fails_onScript_iff fun _ => Except.not_fails_ok]
  exact Except.not_fails_ok

theorem not_fails_inTest {suspects : Component → Text → List Suspect} :
    ¬ (inTest suspects component path).Fails := by
  rw [inTest]
  split
  · exact not_fails_inScript
  · exact Except.not_fails_ok

/-! ## Rules that read objects -/

/-- Without code no props are declared. -/
theorem propsDeclarations_nil : propsDeclarations [] = [] := by
  have options : propsOption.hits [] = [] := rfl
  have calls : definePropsName.hits [] = [] := rfl
  rw [propsDeclarations, options, calls]
  exact List.mergeSort_nil

theorem not_fails_declaredProps_nil : ¬ (declaredProps []).Fails := by
  rw [declaredProps, propsDeclarations_nil]
  exact Except.not_fails_ok

theorem fails_godComponent_iff :
    (godComponent component path).Fails ↔
      SomeHoldsEmptyKey fun body =>
        PropsObject component.code body ∨ ComputedObject component.code body := by
  have measures {code : Text} : (sizeMeasures component code).Fails ↔
      (declaredProps code).Fails ∨ (countComputed code).Fails := by
    rw [sizeMeasures]
    exact Except.fails_bind_or fun props => by simp
  rw [someHoldsEmptyKey_or, ← fails_declaredProps_iff, ← fails_countComputed_iff, godComponent,
    Component.code]
  cases component.script? with
  | none =>
    refine iff_of_false Except.not_fails_ok fun failed => ?_
    exact failed.elim not_fails_declaredProps_nil Except.not_fails_ok
  | some code =>
    rw [Option.getD_some, ← measures]
    simp

theorem fails_singleWordComponentName_iff :
    (singleWordComponentName component path).Fails ↔
      SomeHoldsEmptyKey (OptionsObject component.code) := by
  have named : (componentName component.code path).Fails ↔
      SomeHoldsEmptyKey (OptionsObject component.code) := fails_componentName_iff
  rw [← named, singleWordComponentName, bind_pure_comp, Except.fails_map_iff, Component.code]

theorem fails_propDrilling_iff :
    (propDrilling component path).Fails ↔ SomeHoldsEmptyKey (PropsObject component.code) := by
  have passed {code : Text} : (passedProps component code).Fails ↔ (declaredProps code).Fails := by
    simp [passedProps]
  rw [← fails_declaredProps_iff, propDrilling, onScript, Component.code]
  rcases component.script? with _ | _ | ⟨c, code⟩
  · exact iff_of_false Except.not_fails_ok not_fails_declaredProps_nil
  · exact iff_of_false Except.not_fails_ok not_fails_declaredProps_nil
  · dsimp only
    rw [Except.fails_bind_iff]
    refine or_iff_left_of_imp ?_
    rintro ⟨props, -, failed⟩
    split at failed
    · exact absurd failed Except.not_fails_pure
    · rw [bind_pure_comp, Except.fails_map_iff, passed] at failed
      exact failed

theorem fails_tightCoupling_iff :
    (tightCoupling component path).Fails ↔ SomeHoldsEmptyKey (PropsObject component.code) := by
  rw [← fails_propMutations_iff, tightCoupling, fails_onScript_iff]
  · rw [bind_pure_comp, Except.fails_map_iff]
  · intro component
    rw [bind_pure_comp, Except.fails_map_iff, fails_propMutations_iff, ← fails_declaredProps_iff]
    exact not_fails_declaredProps_nil

theorem fails_refReactiveConfusion_iff :
    (refReactiveConfusion component path).Fails ↔
      SomeHoldsEmptyKey (DestructuringObject component.code) := by
  rw [refReactiveConfusion, fails_onScript_iff fun _ => Except.not_fails_ok, bind_pure_comp,
    Except.fails_map_iff, fails_destructurings_iff]

theorem fails_destructuringReactivityLoss_iff :
    (destructuringReactivityLoss component path).Fails ↔
      SomeHoldsEmptyKey (DestructuringObject component.code) := by
  rw [destructuringReactivityLoss, fails_onScript_iff fun _ => Except.not_fails_ok, bind_pure_comp,
    Except.fails_map_iff, fails_destructurings_iff]

theorem fails_computedSideEffects_iff :
    (computedSideEffects component path).Fails ↔
      SomeHoldsEmptyKey fun body =>
        ComputedObject component.code body ∨ GetterObject component.code body := by
  rw [computedSideEffects, fails_onScript_iff fun _ => Except.not_fails_ok, bind_pure_comp,
    Except.fails_map_iff, fails_computedBodies_iff]

theorem fails_vuexAsyncInMutation_iff :
    (vuexAsyncInMutation component path).Fails ↔
      SomeHoldsEmptyKey (MutationsObject component.code) := by
  rw [vuexAsyncInMutation, fails_onScript_iff fun _ => Except.not_fails_ok, bind_pure_comp,
    Except.fails_map_iff, fails_mutations_iff]

theorem fails_piniaCircularDependency_iff :
    (piniaCircularDependency component path).Fails ↔
      SomeHoldsEmptyKey (IdentifierObject component.code) := by
  rw [piniaCircularDependency, fails_onScript_iff fun _ => Except.not_fails_ok, bind_pure_comp,
    Except.fails_map_iff, fails_storeDefinitions_iff]

theorem fails_sectionSize_iff {block : Span} {key : String} :
    (sectionSize block key).Fails ↔
      HoldsEmptyKey block.body ∨
        ∃ members, storeSection? block key.toList = .ok (some members) ∧ HoldsEmptyKey members := by
  rw [sectionSize, Except.fails_bind_iff, fails_storeSection?_iff]
  refine or_congr_right ?_
  constructor
  · rintro ⟨_ | members, found, failed⟩
    · exact absurd failed Except.not_fails_pure
    · dsimp only at failed
      rw [bind_pure_comp, Except.fails_map_iff, fails_objectEntries_iff] at failed
      exact ⟨members, found, failed⟩
  · rintro ⟨members, found, empty⟩
    refine ⟨some members, found, ?_⟩
    dsimp only
    rw [bind_pure_comp, Except.fails_map_iff]
    exact fails_objectEntries_iff.mpr empty

theorem fails_storeMeasures_iff {block : Span} :
    (storeMeasures code block).Fails ↔
      ∃ key ∈ countedSections, (sectionSize block key).Fails := by
  have inOrder : (storeMeasures code block).Fails ↔ (sectionSize block "state").Fails ∨
      (sectionSize block "mutations").Fails ∨ (sectionSize block "actions").Fails ∨
        (sectionSize block "getters").Fails := by
    rw [storeMeasures]
    refine Except.fails_bind_or fun state => Except.fails_bind_or fun mutations =>
      Except.fails_bind_or fun actions => ?_
    rw [bind_pure_comp, Except.fails_map_iff]
  simp [inOrder, countedSections]

theorem fails_vuexGodStore_iff :
    (vuexGodStore component path).Fails ↔
      SomeHoldsEmptyKey fun body =>
        StoreObject component.code body ∨ SectionObject component.code body := by
  rw [vuexGodStore, fails_onScript_iff fun _ => Except.not_fails_ok, Except.fails_bind_iff,
    someHoldsEmptyKey_or, fails_storeBlocks_iff]
  simp only [bind_pure_comp, Except.fails_map_iff, Except.fails_mapM_iff, fails_storeMeasures_iff,
    fails_sectionSize_iff]
  constructor
  · rintro (empty | ⟨blocks, found, block, member, key, counted, empty | ⟨members, stands, empty⟩⟩)
    · exact .inl empty
    · exact .inl ⟨_, storeObject_of_mem_storeBlocks found member, empty⟩
    · exact .inr ⟨members, ⟨blocks, block, found, member, key, counted, stands⟩, empty⟩
  · rintro (empty | ⟨members, ⟨blocks, block, found, member, key, counted, stands⟩, empty⟩)
    · exact .inl empty
    · exact .inr ⟨blocks, found, block, member, key, counted, .inr ⟨members, stands, empty⟩⟩

theorem fails_memberKeys_iff {members : Text} :
    (memberKeys members).Fails ↔ HoldsEmptyKey members := by
  simp [memberKeys, fails_objectEntries_iff]

theorem fails_returnedKeys_iff {function : FunctionBody} :
    (returnedKeys function).Fails ↔ SomeHoldsEmptyKey (ReturnedObject function) := by
  cases function with
  | expression t =>
    rw [returnedKeys]
    cases found : objectBody? (withoutParens (Text.strip t)) with
    | none =>
      refine iff_of_false Except.not_fails_ok ?_
      rintro ⟨_, ⟨said⟩, -⟩
      rw [found] at said
      contradiction
    | some members =>
      dsimp only
      rw [fails_memberKeys_iff]
      constructor
      · exact fun empty => ⟨members, .expression found, empty⟩
      · rintro ⟨_, ⟨said⟩, empty⟩
        rw [found] at said
        obtain rfl := Option.some.inj said
        exact empty
  | block span =>
    simp only [returnedKeys, bind_pure_comp, Except.fails_map_iff, Except.fails_mapM_iff,
      fails_memberKeys_iff, List.mem_filterMap]
    constructor
    · rintro ⟨object, ⟨hit, member, found⟩, empty⟩
      exact ⟨_, .block member found, empty⟩
    · rintro ⟨_, returned, empty⟩
      cases returned with
      | block member found => exact ⟨_, ⟨_, member, found⟩, empty⟩

theorem fails_returnedState_iff {hit : Hit} :
    (returnedState component hit).Fails ↔
      ∃ function, functionBody? hit.rest = some function ∧
        SomeHoldsEmptyKey (ReturnedObject function) := by
  rw [returnedState]
  cases functionBody? hit.rest with
  | none => simp
  | some function => simp [fails_returnedKeys_iff]

theorem fails_stateLocalizationAntipattern_iff :
    (stateLocalizationAntipattern component path).Fails ↔
      SomeHoldsEmptyKey (StateObject component.code) := by
  rw [stateLocalizationAntipattern, fails_onScript_iff fun _ => Except.not_fails_ok]
  dsimp only
  split
  next provides =>
    refine iff_of_false Except.not_fails_ok ?_
    rintro ⟨_, ⟨absent, -⟩, -⟩
    rw [absent] at provides
    contradiction
  next absent =>
    simp only [bind_pure_comp, Except.fails_map_iff, Except.fails_mapM_iff,
      fails_returnedState_iff]
    constructor
    · rintro ⟨hit, member, function, found, _, returned, empty⟩
      exact ⟨_, ⟨Bool.eq_false_iff.mpr absent, hit, member, function, found, returned⟩, empty⟩
    · rintro ⟨_, ⟨-, hit, member, function, found, returned⟩, empty⟩
      exact ⟨hit, member, function, found, _, returned, empty⟩

theorem fails_untypedOptionProps_iff {declaration : PropsDeclaration} :
    (untypedOptionProps component declaration).Fails ↔
      declaration.kind ≠ .array ∧ HoldsEmptyKey declaration.body := by
  rw [untypedOptionProps]
  cases declaration.kind <;> simp [fails_objectEntries_iff]

theorem fails_untypedProps_iff :
    (untypedProps component path).Fails ↔ SomeHoldsEmptyKey (UntypedObject component.code) := by
  have options {component : Component} {code : Text} :
      (((propsDeclarations code).filter fun declaration =>
          Text.startsWith (code.drop declaration.start) "props").mapM
        (untypedOptionProps component)).Fails ↔ SomeHoldsEmptyKey (UntypedObject code) := by
    simp only [Except.fails_mapM_iff, fails_untypedOptionProps_iff, List.mem_filter]
    constructor
    · rintro ⟨declaration, ⟨member, option⟩, object, empty⟩
      exact ⟨_, ⟨declaration, member, option, object, rfl⟩, empty⟩
    · rintro ⟨_, ⟨declaration, member, option, object, rfl⟩, empty⟩
      exact ⟨declaration, ⟨member, option⟩, object, empty⟩
  rw [untypedProps, fails_onScript_iff]
  · rw [bind_pure_comp, Except.fails_map_iff, options]
  · intro component
    rw [bind_pure_comp, Except.fails_map_iff, options]
    rintro ⟨_, ⟨declaration, member, -⟩, -⟩
    rw [propsDeclarations_nil] at member
    exact absurd member List.not_mem_nil

/-! ## Rules that read numbers -/

theorem fails_listSuspect?_iff {node : Node} :
    (listSuspect? code node).Fails ↔
      ∃ iteration,
        ((node.directive? "for").bind (·.expression)).bind Iteration.ofExpression? =
            some iteration ∧
          ∃ digits, ListDigits iteration.source code digits ∧ TooLong digits := by
  rw [listSuspect?]
  cases ((node.directive? "for").bind (·.expression)).bind Iteration.ofExpression? with
  | none => simp
  | some iteration => simp [fails_listSize_iff]

theorem fails_largeListNoVirtualization_iff :
    (largeListNoVirtualization component path).Fails ↔
      ∃ digits, ListNumber component digits ∧ TooLong digits := by
  rw [largeListNoVirtualization, ← Component.code]
  split
  next virtual =>
    refine iff_of_false Except.not_fails_ok ?_
    rintro ⟨digits, ⟨absent, -⟩, -⟩
    rw [absent] at virtual
    contradiction
  next absent =>
    rw [bind_pure_comp, Except.fails_map_iff, Except.fails_mapM_iff]
    simp only [fails_listSuspect?_iff]
    constructor
    · rintro ⟨node, member, iteration, repeated, digits, reads, long⟩
      exact ⟨digits, ⟨Bool.eq_false_iff.mpr absent, node, member, iteration, repeated, reads⟩, long⟩
    · rintro ⟨digits, ⟨-, node, member, iteration, repeated, reads⟩, long⟩
      exact ⟨node, member, iteration, repeated, digits, reads, long⟩

theorem fails_dataSuspect?_iff {call : Call} :
    (dataSuspect? component code call).Fails ↔
      ∃ expression, reactiveData? call = some expression ∧
        ∃ digits, ShowsDigits (Text.strip expression) code digits ∧ TooLong digits := by
  rw [dataSuspect?]
  cases reactiveData? call with
  | none => simp
  | some expression => simp [fails_dataSize_iff]

theorem fails_missingShallowReactivity_iff :
    (missingShallowReactivity component path).Fails ↔
      ∃ digits, DataNumber component.code digits ∧ TooLong digits := by
  rw [missingShallowReactivity, fails_onScript_iff fun _ => Except.not_fails_ok, bind_pure_comp,
    Except.fails_map_iff, Except.fails_mapM_iff]
  simp only [fails_dataSuspect?_iff]
  constructor
  · rintro ⟨call, member, expression, given, digits, shows, long⟩
    exact ⟨digits, ⟨call, member, expression, given, shows⟩, long⟩
  · rintro ⟨digits, ⟨call, member, expression, given, shows⟩, long⟩
    exact ⟨call, member, expression, given, digits, shows, long⟩

theorem fails_watcherSuspect?_iff {call : Call} :
    (watcherSuspect? component code call).Fails ↔
      ∃ source callback options rest,
        splitCommas call.args.body = source :: callback :: ('\x7b' :: options) :: rest ∧
          (switchedOn "deep").occursIn ('\x7b' :: options) = true ∧
            ∃ digits, ShowsDigits (Text.strip source) code digits ∧ TooLong digits := by
  rw [watcherSuspect?]
  split
  next source callback options rest split =>
    dsimp only
    constructor
    · intro failed
      split_ifs at failed with deep
      · rw [bind_pure_comp, Except.fails_map_iff, fails_watchedSize_iff] at failed
        exact ⟨source, callback, options, rest, split, deep, failed⟩
      all_goals exact absurd failed Except.not_fails_ok
    · rintro ⟨source', callback', options', rest', same, deep, long⟩
      simp only [split, List.cons.injEq, true_and] at same
      obtain ⟨rfl, -, rfl, -⟩ := same
      rw [if_pos deep, bind_pure_comp, Except.fails_map_iff]
      exact fails_watchedSize_iff.mpr long
  next other =>
    refine iff_of_false Except.not_fails_ok ?_
    rintro ⟨source, callback, options, rest, split, -⟩
    exact other source callback options rest split

theorem fails_deepWatcherOveruse_iff :
    (deepWatcherOveruse component path).Fails ↔
      ∃ digits, WatchedNumber component.code digits ∧ TooLong digits := by
  rw [deepWatcherOveruse, fails_onScript_iff fun _ => Except.not_fails_ok, bind_pure_comp,
    Except.fails_map_iff, Except.fails_mapM_iff]
  simp only [fails_watcherSuspect?_iff]
  constructor
  · rintro ⟨call, member, source, callback, options, rest, split, deep, digits, shows, long⟩
    exact ⟨digits, ⟨call, member, source, callback, options, rest, split, deep, shows⟩, long⟩
  · rintro ⟨digits, ⟨call, member, source, callback, options, rest, split, deep, shows⟩, long⟩
    exact ⟨call, member, source, callback, options, rest, split, deep, digits, shows, long⟩

end Rule

namespace AntiPattern

open Rule Script

/-- The bodies of the objects in the code whose members the rule of an anti-pattern reads. -/
def Reads (code : Text) : AntiPattern → Text → Prop
  | godComponent, body => PropsObject code body ∨ ComputedObject code body
  | singleWordComponentName, body => OptionsObject code body
  | propDrilling, body => PropsObject code body
  | tightCoupling, body => PropsObject code body
  | refReactiveConfusion, body => DestructuringObject code body
  | destructuringReactivityLoss, body => DestructuringObject code body
  | computedSideEffects, body => ComputedObject code body ∨ GetterObject code body
  | vuexAsyncInMutation, body => MutationsObject code body
  | vuexGodStore, body => StoreObject code body ∨ SectionObject code body
  | piniaCircularDependency, body => IdentifierObject code body
  | stateLocalizationAntipattern, body => StateObject code body
  | untypedProps, body => UntypedObject code body
  | _, _ => False

/-- The digits in the component that the rule of an anti-pattern reads as a number. -/
def ReadsNumber (component : Component) : AntiPattern → Text → Prop
  | deepWatcherOveruse, digits => WatchedNumber component.code digits
  | largeListNoVirtualization, digits => ListNumber component digits
  | missingShallowReactivity, digits => DataNumber component.code digits
  | _, _ => False

variable {component : Component} {path : Text}

/-- A rule fails exactly when it reads the members of an object with an empty key, or a number that
is too long. -/
theorem fails_rule_iff (pattern : AntiPattern) :
    (pattern.rule component path).Fails ↔
      SomeHoldsEmptyKey (pattern.Reads component.code) ∨
        ∃ digits, pattern.ReadsNumber component digits ∧ TooLong digits := by
  have nothing : ¬ (SomeHoldsEmptyKey (fun _ => False) ∨
      ∃ digits : Text, False ∧ TooLong digits) := by
    rintro (empty | ⟨_, ⟨⟩, -⟩)
    exact not_someHoldsEmptyKey_false empty
  have objects {bodies : Text → Prop} :
      SomeHoldsEmptyKey bodies ↔
        SomeHoldsEmptyKey bodies ∨ ∃ digits : Text, False ∧ TooLong digits := by
    simp
  have numbers {read : Text → Prop} :
      (∃ digits, read digits ∧ TooLong digits) ↔
        SomeHoldsEmptyKey (fun _ => False) ∨ ∃ digits, read digits ∧ TooLong digits :=
    (or_iff_right not_someHoldsEmptyKey_false).symm
  cases pattern with
  | godComponent =>
    rw [rule, fails_godComponent_iff]
    exact objects
  | singleWordComponentName =>
    rw [rule, fails_singleWordComponentName_iff]
    exact objects
  | propDrilling =>
    rw [rule, fails_propDrilling_iff]
    exact objects
  | tightCoupling =>
    rw [rule, fails_tightCoupling_iff]
    exact objects
  | refReactiveConfusion =>
    rw [rule, fails_refReactiveConfusion_iff]
    exact objects
  | destructuringReactivityLoss =>
    rw [rule, fails_destructuringReactivityLoss_iff]
    exact objects
  | computedSideEffects =>
    rw [rule, fails_computedSideEffects_iff]
    exact objects
  | vuexAsyncInMutation =>
    rw [rule, fails_vuexAsyncInMutation_iff]
    exact objects
  | vuexGodStore =>
    rw [rule, fails_vuexGodStore_iff]
    exact objects
  | piniaCircularDependency =>
    rw [rule, fails_piniaCircularDependency_iff]
    exact objects
  | stateLocalizationAntipattern =>
    rw [rule, fails_stateLocalizationAntipattern_iff]
    exact objects
  | untypedProps =>
    rw [rule, fails_untypedProps_iff]
    exact objects
  | deepWatcherOveruse =>
    rw [rule, fails_deepWatcherOveruse_iff]
    exact numbers
  | largeListNoVirtualization =>
    rw [rule, fails_largeListNoVirtualization_iff]
    exact numbers
  | missingShallowReactivity =>
    rw [rule, fails_missingShallowReactivity_iff]
    exact numbers
  | vifWithVfor | vforWithoutKey | vforIndexAsKey | complexTemplateExpression | vhtmlXssRisk
  | deepTemplateNesting =>
    rw [rule]
    exact iff_of_false not_fails_ofSuspects nothing
  | watcherShouldBeComputed | piniaUsestoreAfterAwait | untypedProvideInject
  | infiniteNavigationLoop | missingLazyLoading | godGuardAntipattern | eventListenerMemoryLeak
  | fullLibraryImport | untypedEmits | refTypeInferenceIssues =>
    rw [rule]
    exact iff_of_false not_fails_inScript nothing
  | implementationTesting | piniaStateLeak | snapshotOveruse =>
    rw [rule]
    exact iff_of_false not_fails_inTest nothing

end AntiPattern

end SfcLint
