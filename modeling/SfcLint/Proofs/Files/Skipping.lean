/-
# Names that are skipped in any case

A name is written in small letters before it is looked up, and what it is looked up in is taken as
it stands. The skipped names are in small letters, so they are met however a path spells them. A
further fragment is met in every spelling if its small form is listed, be it itself or another
fragment; otherwise no spelling meets it, its own not excepted. So a list of fragments is met in any
case exactly when the small form of each fragment in it is among the fragments or the skipped names,
hidden fragments apart, and that is also when each of its fragments is met as it is spelled.
-/

import SfcLint.Files.Exclusion
import SfcLint.Proofs.Files.Paths
import SfcLint.Proofs.Text.Case

namespace SfcLint.Path

/-- The name starts with a dot, and is more than a single or a double dot. -/
def IsHidden (name : Text) : Prop :=
  name.head? = some '.' ∧ name ≠ ['.'] ∧ name ≠ ['.', '.']

instance : DecidablePred IsHidden := fun _ => inferInstanceAs (Decidable (_ ∧ _ ∧ _))

/-- Some part of the path is hidden, or the same but for case as one of the fragments. -/
def Meets (path : Path) (fragments : List Text) : Prop :=
  ∃ name ∈ path.segments, IsHidden name ∨ ∃ fragment ∈ fragments, name.SameButCase fragment

instance (path : Path) (fragments : List Text) : Decidable (path.Meets fragments) :=
  inferInstanceAs (Decidable (∃ name ∈ path.segments, _))

/-- Each fragment that can be a part of a path is hidden, or its small form is a skipped name or
one of the fragments. -/
def CoversCase (further : List Text) : Prop :=
  ∀ fragment ∈ further, IsPart fragment →
    IsHidden fragment ∨ fragment.lower ∈ skippedNames ++ further

instance (further : List Text) : Decidable (CoversCase further) :=
  inferInstanceAs (Decidable (∀ fragment ∈ further, _ → _))

variable {path : Path} {name other : Text} {fragments further wider : List Text}

/-! ## Parts and their small forms -/

theorem lower_eq_dot_iff : name.lower = ['.'] ↔ name = ['.'] :=
  Text.lower_eq_iff_of_signs (List.forall_mem_singleton.mpr (by decide))

theorem lower_eq_dots_iff : name.lower = ['.', '.'] ↔ name = ['.', '.'] :=
  Text.lower_eq_iff_of_signs
    (List.forall_mem_cons.mpr ⟨by decide, List.forall_mem_singleton.mpr (by decide)⟩)

theorem isHidden_lower : IsHidden name.lower ↔ IsHidden name := by
  rw [IsHidden, IsHidden, Text.head?_lower_iff (by decide), ne_eq, ne_eq, lower_eq_dot_iff,
    lower_eq_dots_iff]

theorem isHidden_iff_of_sameButCase (same : name.SameButCase other) :
    IsHidden name ↔ IsHidden other := by
  rw [← isHidden_lower, same, isHidden_lower]

theorem isPart_lower : IsPart name.lower ↔ IsPart name := by
  have empty : name.lower = [] ↔ name = [] := Text.lower_eq_iff_of_signs (List.forall_mem_nil _)
  have slash : '/' ∈ name.lower ↔ '/' ∈ name := Text.mem_lower_iff (by decide)
  constructor
  · rintro ⟨nonempty, notDot, whole⟩
    exact ⟨mt empty.mpr nonempty, mt lower_eq_dot_iff.mpr notDot, mt slash.mpr whole⟩
  · rintro ⟨nonempty, notDot, whole⟩
    exact ⟨mt empty.mp nonempty, mt lower_eq_dot_iff.mp notDot, mt slash.mp whole⟩

theorem isPart_iff_of_sameButCase (same : name.SameButCase other) : IsPart name ↔ IsPart other := by
  rw [← isPart_lower, same, isPart_lower]

/-- Beside its parts a proper path has a root, and this is made of slashes. -/
theorem Proper.isPart_or_slashes (proper : path.Proper) (member : name ∈ path.segments) :
    IsPart name ∨ ∀ c ∈ name, Text.IsSign c := by
  have slashes : ∀ c ∈ path.root, Text.IsSign c := by
    have slash : ∀ c ∈ ['/'], Text.IsSign c := List.forall_mem_singleton.mpr (by decide)
    rcases proper.root with root | root | root
    · rw [root]
      exact List.forall_mem_nil _
    · rwa [root]
    · rw [root]
      exact List.forall_mem_cons.mpr ⟨by decide, slash⟩
  rw [segments] at member
  split at member
  · exact .inl (proper.parts name member)
  · rcases List.mem_cons.mp member with rfl | below
    · exact .inr slashes
    · exact .inl (proper.parts name below)

/-! ## Skipped names -/

theorem lower_of_mem_skippedNames : ∀ name ∈ skippedNames, name.lower = name := by
  decide +kernel

/-- The spellings of a skipped name differ from it in seven-bit capitals alone. -/
theorem sameButCase_skippedName_iff (skipped : name ∈ skippedNames) :
    other.SameButCase name ↔ other.map Char.toLower = name := by
  have known : ∀ name ∈ skippedNames,
      name.all (fun d => d.toNat < 128 && d.toLower != 'k') = true ∧
        name.map Char.toLower = name := by
    decide +kernel
  obtain ⟨letters, small⟩ := known name skipped
  have plain : ∀ d ∈ name, d.toNat < 128 ∧ d.toLower ≠ 'k' := by
    simpa using letters
  rw [Text.sameButCase_iff_map_toLower plain, small]

theorem skipsName_iff :
    skipsName further name = true ↔ IsHidden name ∨ name.lower ∈ skippedNames ++ further := by
  have starts : Text.startsWith name ['.'] = true ↔ name.head? = some '.' := by
    rw [Text.startsWith, List.isPrefixOf_iff_prefix]
    cases name with
    | nil => simp
    | cons c name =>
      rw [List.singleton_prefix_cons_iff, List.head?_cons, Option.some_inj, eq_comm]
  rw [skipsName, Bool.or_eq_true, Bool.and_eq_true, Bool.and_eq_true, List.contains_iff_mem,
    bne_iff_ne, bne_iff_ne, starts, and_assoc, or_comm]
  rfl

theorem isSkipped_iff : path.isSkipped further = true ↔
    ∃ name ∈ path.segments, IsHidden name ∨ name.lower ∈ skippedNames ++ further := by
  simp only [isSkipped, List.any_eq_true, skipsName_iff]

/-- The small form of a name stands in a list exactly if the name is the same but for case as a
fragment there that is in small letters. -/
theorem lower_mem_iff : name.lower ∈ fragments ↔
    ∃ fragment ∈ fragments, fragment.lower = fragment ∧ name.SameButCase fragment := by
  constructor
  · intro listed
    exact ⟨name.lower, listed, Text.lower_eq_iff.mp rfl⟩
  · rintro ⟨fragment, listed, small⟩
    rwa [Text.lower_eq_iff.mpr small]

theorem skippedNames_append_subset (more : further ⊆ wider) :
    skippedNames ++ further ⊆ skippedNames ++ wider :=
  List.append_subset.mpr
    ⟨List.subset_append_left _ _, List.subset_append_of_subset_right _ more⟩

theorem isSkipped_mono (more : further ⊆ wider) (skipped : path.isSkipped further = true) :
    path.isSkipped wider = true := by
  obtain ⟨name, member, hidden | listed⟩ := isSkipped_iff.mp skipped
  · exact isSkipped_iff.mpr ⟨name, member, .inl hidden⟩
  · exact isSkipped_iff.mpr ⟨name, member, .inr (skippedNames_append_subset more listed)⟩

/-- Of the further fragments those in small letters count, in every spelling, and no others. -/
theorem isSkipped_iff_meets : path.isSkipped further = true ↔
    path.Meets (skippedNames ++ further.filter fun fragment => fragment.lower = fragment) := by
  rw [isSkipped_iff, Meets]
  refine exists_congr fun name => and_congr_right fun _ => or_congr_right ?_
  rw [lower_mem_iff]
  refine exists_congr fun fragment => ?_
  rw [← and_assoc]
  refine and_congr_left fun _ => ?_
  -- The filter takes nothing from the skipped names, for they are in small letters.
  simp only [List.mem_append, List.mem_filter, decide_eq_true_eq, or_and_right]
  exact or_congr_left (and_iff_left_of_imp (lower_of_mem_skippedNames fragment))

/-! ## Lists that are met in any case -/

theorem meets_of_isSkipped (skipped : path.isSkipped further = true) :
    path.Meets (skippedNames ++ further) := by
  obtain ⟨name, member, hidden | ⟨fragment, listed, same⟩⟩ := isSkipped_iff_meets.mp skipped
  · exact ⟨name, member, .inl hidden⟩
  · exact ⟨name, member, .inr ⟨fragment,
      skippedNames_append_subset (List.filter_subset_self further) listed, same⟩⟩

theorem CoversCase.isSkipped_of_meets (covers : CoversCase further) (proper : path.Proper)
    (meets : path.Meets (skippedNames ++ further)) : path.isSkipped further = true := by
  obtain ⟨name, member, hidden | ⟨fragment, listed, same⟩⟩ := meets
  · exact isSkipped_iff.mpr ⟨name, member, .inl hidden⟩
  refine isSkipped_iff.mpr ⟨name, member, ?_⟩
  rcases List.mem_append.mp listed with skipped | additional
  · rw [same, lower_of_mem_skippedNames fragment skipped]
    exact .inr listed
  by_cases part : IsPart fragment
  · rw [isHidden_iff_of_sameButCase same, same]
    exact covers fragment additional part
  · -- What is no part can only be the root, and this has no other spelling.
    have signs := (proper.isPart_or_slashes member).resolve_left
      (mt (isPart_iff_of_sameButCase same).mp part)
    have root : name.lower = name := (Text.lower_eq_iff_of_signs signs).mpr rfl
    have spelled : fragment = name :=
      (Text.lower_eq_iff_of_signs signs).mp (same.symm.trans root)
    rw [root, ← spelled]
    exact .inr listed

theorem coversCase_of_spelled (spelled : ∀ path : Path, path.Proper → ∀ fragment ∈ further,
    fragment ∈ path.segments → path.isSkipped further = true) : CoversCase further := by
  intro fragment listed part
  -- The path that is the fragment alone has no other part to be skipped for.
  have proper : Proper ⟨[], [fragment]⟩ := ⟨.inl rfl, List.forall_mem_singleton.mpr part⟩
  have own : fragment ∈ segments ⟨[], [fragment]⟩ := List.mem_singleton_self fragment
  obtain ⟨name, member, skipped⟩ := isSkipped_iff.mp (spelled _ proper fragment listed own)
  obtain rfl := List.mem_singleton.mp member
  exact skipped

/-- A path is skipped exactly if a part of it is hidden, or is the same but for case as a skipped
name or as a further fragment that is in small letters, and more fragments never undo this. Skipped
names are met in all their spellings with small and capital letters. All further fragments are met
in any case exactly if the list covers their case, and so they are met as they are spelled. -/
theorem isSkipped_anyCase (further : List Text) :
    (∀ path : Path, path.isSkipped further = true ↔
      path.Meets (skippedNames ++ further.filter fun fragment => fragment.lower = fragment)) ∧
    (∀ name ∈ skippedNames, ∀ other : Text,
      other.SameButCase name ↔ other.map Char.toLower = name) ∧
    (∀ (path : Path) (wider : List Text), further ⊆ wider →
      path.isSkipped further = true → path.isSkipped wider = true) ∧
    ((∀ path : Path, path.Proper →
        (path.isSkipped further = true ↔ path.Meets (skippedNames ++ further))) ↔
      CoversCase further) ∧
    ((∀ path : Path, path.Proper → ∀ fragment ∈ further, fragment ∈ path.segments →
        path.isSkipped further = true) ↔
      CoversCase further) := by
  have met {path : Path} {fragment : Text} (listed : fragment ∈ further)
      (member : fragment ∈ path.segments) : path.Meets (skippedNames ++ further) :=
    ⟨fragment, member, .inr ⟨fragment, List.mem_append_right _ listed, rfl⟩⟩
  refine ⟨fun _ => isSkipped_iff_meets, fun _ skipped _ => sameButCase_skippedName_iff skipped,
    fun _ _ => isSkipped_mono, ⟨fun agrees => ?_, fun covers path proper => ?_⟩,
    ⟨coversCase_of_spelled, fun covers path proper fragment listed member => ?_⟩⟩
  · exact coversCase_of_spelled fun path proper fragment listed member =>
      (agrees path proper).mpr (met listed member)
  · exact ⟨meets_of_isSkipped, covers.isSkipped_of_meets proper⟩
  · exact covers.isSkipped_of_meets proper (met listed member)

/-- A list with a fragment in capitals and its small form is met in any case. -/
theorem isSkipped_anyCase_bothSpellings : CoversCase ["Legacy".toList, "legacy".toList] ∧
    ∀ path : Path, path.Proper → (path.isSkipped ["Legacy".toList, "legacy".toList] = true ↔
      path.Meets (skippedNames ++ ["Legacy".toList, "legacy".toList])) := by
  have covers : CoversCase ["Legacy".toList, "legacy".toList] := by decide +kernel
  exact ⟨covers, (isSkipped_anyCase ["Legacy".toList, "legacy".toList]).2.2.2.1.mpr covers⟩

/-- A fragment with a capital is not met by a path that spells it so. -/
theorem capitalFragment_lost :
    ¬ ∀ (path : Path) (further : List Text), path.Proper →
      (path.isSkipped further = true ↔ path.Meets (skippedNames ++ further)) := by
  intro always
  have skipped := (always (ofText "Legacy/A.vue".toList) ["Legacy".toList]
    (proper_ofText _)).mpr (by decide +kernel)
  have kept : (ofText "Legacy/A.vue".toList).isSkipped ["Legacy".toList] = false := by
    decide +kernel
  rw [kept] at skipped
  contradiction

end SfcLint.Path
