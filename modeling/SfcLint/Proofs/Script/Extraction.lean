/-
# Objects that are read for their members

The members of an object literal can be read unless one of them has an empty key in single quotes;
empty keys in double quotes are no hindrance. What is extracted from a script is found by its words
and brackets, and only then are the members of some objects read. So an extraction fails exactly
when one of these objects holds an empty key.
-/

import SfcLint.Proofs.Script.Members
import SfcLint.Proofs.Text.Except
import SfcLint.Script.Destructuring
import SfcLint.Script.Options
import SfcLint.Script.Props
import SfcLint.Script.Store

namespace SfcLint.Script

/-! ## Members with an empty key -/

/-- Between the braces of an object literal stands a member with an empty key in single quotes. -/
def HoldsEmptyKey (body : Text) : Prop :=
  ∃ raw ∈ stretches [','] body, ∃ head : Head,
    Text.strip raw = head.text ∧ head.form = .single ∧ head.inner = []

theorem Head.fails_key_iff (head : Head) :
    head.key.Fails ↔ head.form = .single ∧ head.inner = [] := by
  rw [Head.key]
  cases head.form <;> cases head.inner <;> simp [KeyForm.named]

theorem fails_memberOf_iff {raw : Text} :
    (memberOf raw).Fails ↔
      ∃ head : Head, Text.strip raw = head.text ∧ head.form = .single ∧ head.inner = [] := by
  constructor
  · intro failed
    rcases stretch_cases raw with ⟨rest, dots⟩ | ⟨head, split⟩ | ⟨nothing, -⟩
    · rw [(spread_of_dots dots).1] at failed
      exact absurd failed Except.not_fails_ok
    · rw [(member_of_head split).1] at failed
      exact ⟨head, split, head.fails_key_iff.mp (Except.fails_map_iff.mp failed)⟩
    · rw [NoMember] at nothing
      rw [nothing] at failed
      exact absurd failed Except.not_fails_ok
  · rintro ⟨head, split, empty⟩
    rw [(member_of_head split).1]
    exact Except.fails_map_iff.mpr (head.fails_key_iff.mpr empty)

theorem fails_gather_iff {found : List (Except Failure (Option Member))} :
    (gather found).Fails ↔ ∃ result ∈ found, result.Fails := by
  induction found with
  | nil => simp [gather]
  | cons result later ih =>
    cases result with
    | error failure => simp [gather]
    | ok member =>
      rw [gather, List.exists_mem_cons_iff, ← ih]
      cases gather later <;> simp [Except.map]

/-- The members of an object literal can be read unless one of them has an empty key. -/
theorem fails_objectEntries_iff {body : Text} :
    (objectEntries body).Fails ↔ HoldsEmptyKey body := by
  have same : (objectEntries body).Fails ↔ (members body).Fails := by
    rw [members]
    cases objectEntries body <;> simp [Except.map]
  simp only [same, members_eq, fails_gather_iff, List.mem_map, exists_exists_and_eq_and,
    fails_memberOf_iff, HoldsEmptyKey]

variable {t : Text}

/-- One of the objects whose bodies are given holds an empty key. -/
def SomeHoldsEmptyKey (bodies : Text → Prop) : Prop := ∃ body, bodies body ∧ HoldsEmptyKey body

theorem someHoldsEmptyKey_or {first second : Text → Prop} :
    SomeHoldsEmptyKey (fun body => first body ∨ second body) ↔
      SomeHoldsEmptyKey first ∨ SomeHoldsEmptyKey second := by
  simp only [SomeHoldsEmptyKey, or_and_right, exists_or]

theorem not_someHoldsEmptyKey_false : ¬ SomeHoldsEmptyKey fun _ => False := by
  rintro ⟨_, nothing, -⟩
  exact nothing

/-! ## Props and options -/

/-- The body of an object that declares props. -/
def PropsObject (t body : Text) : Prop :=
  ∃ declaration ∈ propsDeclarations t, declaration.kind = .object ∧ declaration.body = body

theorem fails_names_iff {declaration : PropsDeclaration} :
    declaration.names.Fails ↔ declaration.kind = .object ∧ HoldsEmptyKey declaration.body := by
  rw [PropsDeclaration.names]
  cases declaration.kind <;> simp [fails_objectEntries_iff]

theorem fails_declaredProps_iff :
    (declaredProps t).Fails ↔ SomeHoldsEmptyKey (PropsObject t) := by
  simp only [declaredProps, bind_pure_comp, Except.fails_map_iff, Except.fails_mapM_iff,
    fails_names_iff]
  constructor
  · rintro ⟨declaration, member, object, empty⟩
    exact ⟨_, ⟨declaration, member, object, rfl⟩, empty⟩
  · rintro ⟨_, ⟨declaration, member, object, rfl⟩, empty⟩
    exact ⟨declaration, member, object, empty⟩

theorem fails_propMutations_iff :
    (propMutations t).Fails ↔ SomeHoldsEmptyKey (PropsObject t) := by
  rw [← fails_declaredProps_iff]
  simp [propMutations]

/-- The body of the object of options. -/
def OptionsObject (t body : Text) : Prop :=
  ∃ block, ((optionsStart.first? t).bind fun hit => spanAt? t hit.stop) = some block ∧
    block.body = body

theorem fails_componentName_iff {path : Text} :
    (componentName t path).Fails ↔ SomeHoldsEmptyKey (OptionsObject t) := by
  simp only [componentName, componentOptions, OptionsObject, SomeHoldsEmptyKey]
  cases (optionsStart.first? t).bind fun hit => spanAt? t hit.stop with
  | none => simp
  | some block => simp [fails_objectEntries_iff]

/-! ## Destructuring -/

/-- The body of an object by which a declaration takes the result of a call apart. -/
def DestructuringObject (t body : Text) : Prop :=
  ∃ hit ∈ destructuringStart.hits t, ∃ span, spanAt? t hit.stop = some span ∧
    (destructuredCall.leading? (t.drop (span.stop + 1))).isSome = true ∧ span.body = body

theorem fails_destructuringOf?_iff {hit : Hit} :
    (destructuringOf? t hit).Fails ↔
      ∃ span, spanAt? t hit.stop = some span ∧
        (destructuredCall.leading? (t.drop (span.stop + 1))).isSome = true ∧
          HoldsEmptyKey span.body := by
  rw [destructuringOf?]
  cases spanAt? t hit.stop with
  | none => simp
  | some span =>
    cases call : destructuredCall.leading? (t.drop (span.stop + 1)) with
    | none => simp [call]
    | some hit => simp [call, fails_objectEntries_iff]

theorem fails_destructurings_iff :
    (destructurings t).Fails ↔ SomeHoldsEmptyKey (DestructuringObject t) := by
  simp only [destructurings, bind_pure_comp, Except.fails_map_iff, Except.fails_mapM_iff,
    fails_destructuringOf?_iff]
  constructor
  · rintro ⟨hit, member, span, found, call, empty⟩
    exact ⟨_, ⟨hit, member, span, found, call, rfl⟩, empty⟩
  · rintro ⟨_, ⟨hit, member, span, found, call, rfl⟩, empty⟩
    exact ⟨hit, member, span, found, call, empty⟩

/-! ## Computed values -/

/-- The body of the computed block. -/
def ComputedObject (t body : Text) : Prop :=
  ∃ block, optionBlock? t "computed" = some block ∧ block.body = body

theorem fails_countComputed_iff :
    (countComputed t).Fails ↔ SomeHoldsEmptyKey (ComputedObject t) := by
  simp only [countComputed, ComputedObject, SomeHoldsEmptyKey]
  cases optionBlock? t "computed" with
  | none => simp
  | some block => simp [fails_objectEntries_iff]

/-- A value that may be an object with a getter: a property of the computed block, or the first
argument of a call. -/
inductive ComputedValue (t : Text) : Text → Prop
  | property {block : Span} {entries : List Entry} {entry : Entry} :
      optionBlock? t "computed" = some block → objectEntries block.body = .ok entries →
        entry ∈ entries → entry.kind = .property → entry.key ≠ none → ComputedValue t entry.value
  | call {call : Call} {first : Text} {rest : List Text} : call ∈ computedCalls t →
      splitCommas call.args.body = first :: rest → ComputedValue t first

/-- The body of an object that may hold a getter. -/
def GetterObject (t body : Text) : Prop :=
  ∃ value block, ComputedValue t value ∧ value.head? = some '\x7b' ∧
    spanAt? value 0 = some block ∧ block.body = body

theorem fails_getterOf_iff {value : Text} :
    (getterOf value).Fails ↔
      ∃ block, value.head? = some '\x7b' ∧ spanAt? value 0 = some block ∧
        HoldsEmptyKey block.body := by
  rw [getterOf]
  split
  next opens => cases spanAt? value 0 <;> simp [opens, fails_objectEntries_iff]
  next other => simp [other]

theorem fails_computedEntryBody_iff {block : Span} {entry : Entry} :
    (computedEntryBody block entry).Fails ↔
      entry.kind = .property ∧ entry.key ≠ none ∧ (getterOf entry.value).Fails := by
  obtain ⟨key, value, offset, kind⟩ := entry
  cases key <;> cases kind <;> simp [computedEntryBody]

theorem fails_computedCallBody_iff {call : Call} :
    (computedCallBody call).Fails ↔
      ∃ first rest, splitCommas call.args.body = first :: rest ∧ (getterOf first).Fails := by
  rw [computedCallBody]
  cases splitCommas call.args.body <;> simp

/-- The getters that the members of the computed block give. -/
def blockGetters (t : Text) : Except Failure (List (Option ComputedBody)) :=
  match optionBlock? t "computed" with
  | none => .ok []
  | some block => do (← objectEntries block.body).mapM (computedEntryBody block)

theorem computedBodies_eq (t : Text) :
    computedBodies t = do
      let fromBlock ← blockGetters t
      let fromCalls ← (computedCalls t).mapM computedCallBody
      let found := (fromBlock ++ fromCalls).filterMap id
      return found.mergeSort fun a b => a.offset ≤ b.offset := by
  rw [computedBodies, blockGetters]
  cases optionBlock? t "computed" with
  | none => rfl
  | some block => exact (bind_assoc _ _ _).symm

theorem fails_computedBodies_iff :
    (computedBodies t).Fails ↔
      SomeHoldsEmptyKey fun body => ComputedObject t body ∨ GetterObject t body := by
  have calls : ((computedCalls t).mapM computedCallBody).Fails ↔
      ∃ call ∈ computedCalls t, ∃ first rest, splitCommas call.args.body = first :: rest ∧
        (getterOf first).Fails := by
    simp only [Except.fails_mapM_iff, fails_computedCallBody_iff]
  have getter {value : Text} (computed : ComputedValue t value) (failed : (getterOf value).Fails) :
      SomeHoldsEmptyKey (GetterObject t) := by
    obtain ⟨block, opens, found, empty⟩ := fails_getterOf_iff.mp failed
    exact ⟨_, ⟨value, block, computed, opens, found, rfl⟩, empty⟩
  -- The members of the block are read first, and the calls are read whatever comes of them.
  rw [someHoldsEmptyKey_or, computedBodies_eq, Except.fails_bind_or fun fromBlock => by
    rw [bind_pure_comp, Except.fails_map_iff, calls]]
  constructor
  · rintro (failed | ⟨call, member, first, rest, split, failed⟩)
    · rw [blockGetters] at failed
      split at failed
      · exact absurd failed Except.not_fails_ok
      next block found =>
        rcases Except.fails_bind_iff.mp failed with failed | ⟨entries, read, failed⟩
        · exact .inl ⟨_, ⟨block, found, rfl⟩, fails_objectEntries_iff.mp failed⟩
        · obtain ⟨entry, member, failed⟩ := Except.fails_mapM_iff.mp failed
          obtain ⟨property, keyed, failed⟩ := fails_computedEntryBody_iff.mp failed
          exact .inr (getter (.property found read member property keyed) failed)
    · exact .inr (getter (.call member split) failed)
  · rintro (⟨_, ⟨block, found, rfl⟩, empty⟩ | ⟨_, ⟨value, block, computed, opens, inner, rfl⟩, empty⟩)
    · left
      rw [blockGetters, found]
      exact Except.fails_bind_iff.mpr (.inl (fails_objectEntries_iff.mpr empty))
    · have failed := fails_getterOf_iff.mpr ⟨block, opens, inner, empty⟩
      cases computed with
      | @property block entries entry found read member property keyed =>
        left
        rw [blockGetters, found]
        refine Except.fails_bind_iff.mpr (.inr ⟨entries, read, ?_⟩)
        refine Except.fails_mapM_iff.mpr ⟨entry, member, ?_⟩
        exact fails_computedEntryBody_iff.mpr ⟨property, keyed, failed⟩
      | @call call _ rest member split => exact .inr ⟨call, member, value, rest, split, failed⟩

/-! ## Stores with sections -/

/-- The body of an object of mutations. -/
def MutationsObject (t body : Text) : Prop := ∃ block ∈ mutationBlocks t, block.body = body

theorem fails_mutations_iff :
    ((mutationBlocks t).mapM handlers).Fails ↔ SomeHoldsEmptyKey (MutationsObject t) := by
  have single {block : Span} : (handlers block).Fails ↔ HoldsEmptyKey block.body := by
    simp [handlers, fails_objectEntries_iff]
  simp only [Except.fails_mapM_iff, single]
  constructor
  · rintro ⟨block, member, empty⟩
    exact ⟨_, ⟨block, member, rfl⟩, empty⟩
  · rintro ⟨_, ⟨block, member, rfl⟩, empty⟩
    exact ⟨block, member, empty⟩

/-- The body of an object that may be a store. -/
def StoreObject (t body : Text) : Prop :=
  ∃ hit ∈ storeStart.hits t, ∃ block, spanAt? t hit.stop = some block ∧ block.body = body

theorem fails_storeBlocks_iff :
    (storeBlocks t).Fails ↔ SomeHoldsEmptyKey (StoreObject t) := by
  have single {hit : Hit} : (storeBlockOf? t hit).Fails ↔
      ∃ block, spanAt? t hit.stop = some block ∧ HoldsEmptyKey block.body := by
    rw [storeBlockOf?]
    cases spanAt? t hit.stop <;> simp [fails_objectEntries_iff]
  simp only [storeBlocks, bind_pure_comp, Except.fails_map_iff, Except.fails_mapM_iff, single]
  constructor
  · rintro ⟨hit, member, block, found, empty⟩
    exact ⟨_, ⟨hit, member, block, found, rfl⟩, empty⟩
  · rintro ⟨_, ⟨hit, member, block, found, rfl⟩, empty⟩
    exact ⟨hit, member, block, found, empty⟩

theorem fails_storeSection?_iff {block : Span} {key : Text} :
    (storeSection? block key).Fails ↔ HoldsEmptyKey block.body := by
  simp [storeSection?, fails_objectEntries_iff]

/-- A store is an object that may be one. -/
theorem storeObject_of_mem_storeBlocks {blocks : List Span} {block : Span}
    (found : storeBlocks t = .ok blocks) (member : block ∈ blocks) : StoreObject t block.body := by
  obtain ⟨results, searched, said⟩ := Except.bind_eq_ok_iff.mp found
  obtain rfl := Except.ok.inj said
  obtain ⟨result, listed, rfl⟩ := List.mem_filterMap.mp member
  obtain ⟨hit, place, came⟩ := Except.exists_of_mapM_eq_ok searched listed
  rw [storeBlockOf?] at came
  split at came
  · cases came
  next inner stands =>
    obtain ⟨entries, -, came⟩ := Except.bind_eq_ok_iff.mp came
    have same := Except.ok.inj came
    rw [Option.ite_none_right_eq_some] at same
    obtain rfl := Option.some.inj same.2
    exact ⟨hit, place, _, stands, rfl⟩

/-! ## Stores with an identifier -/

/-- The body of an object that may give the identifier of a store. -/
def IdentifierObject (t body : Text) : Prop :=
  ∃ call ∈ plainCalls ["defineStore"] t, ∃ first rest,
    splitCommas call.args.body = first :: rest ∧ unquoted? first = none ∧
      first.head? = some '\x7b' ∧ (objectBody? first).getD [] = body

theorem fails_storeId?_iff {argument : Text} :
    (storeId? argument).Fails ↔
      unquoted? argument = none ∧ argument.head? = some '\x7b' ∧
        HoldsEmptyKey ((objectBody? argument).getD []) := by
  rw [storeId?]
  cases unquoted? argument with
  | some id => simp
  | none =>
    dsimp only
    split
    next opens => simp [opens, fails_objectEntries_iff]
    next other => simp [other]

theorem fails_storeDefinitionOf?_iff {call : Call} :
    (storeDefinitionOf? t call).Fails ↔
      ∃ first rest, splitCommas call.args.body = first :: rest ∧ (storeId? first).Fails := by
  rw [storeDefinitionOf?]
  cases splitCommas call.args.body with
  | nil => simp
  | cons first rest =>
    rw [Except.fails_bind_iff, or_iff_left]
    · simp
    · rintro ⟨id, -, failed⟩
      split at failed <;> exact absurd failed Except.not_fails_pure

theorem fails_storeDefinitions_iff :
    (storeDefinitions t).Fails ↔ SomeHoldsEmptyKey (IdentifierObject t) := by
  simp only [storeDefinitions, bind_pure_comp, Except.fails_map_iff, Except.fails_mapM_iff,
    fails_storeDefinitionOf?_iff, fails_storeId?_iff]
  constructor
  · rintro ⟨call, member, first, rest, split, bare, opens, empty⟩
    exact ⟨_, ⟨call, member, first, rest, split, bare, opens, rfl⟩, empty⟩
  · rintro ⟨_, ⟨call, member, first, rest, split, bare, opens, rfl⟩, empty⟩
    exact ⟨call, member, first, rest, split, bare, opens, empty⟩

end SfcLint.Script
