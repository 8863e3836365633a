/-
# Sorted sets of texts

The texts that a search finds are put in ascending order, each once. So such a row is known by what
it holds. A row that holds the same texts as another one, behind a common front of their own each,
holds them in the same order.
-/

import Mathlib.Data.List.Sort
import Mathlib.Data.String.Basic
import SfcLint.Files.Search

namespace SfcLint

variable {text other : String} {row texts : List String}

theorem mem_insertSorted : other ∈ insertSorted text row ↔ other = text ∨ other ∈ row := by
  induction row with
  | nil => simp [insertSorted]
  | cons first rest ih =>
    rw [insertSorted]
    split
    next => simp
    next notBefore =>
      split
      next => simp [ih, or_left_comm]
      next notBehind =>
        -- What is neither before nor behind is the same.
        obtain rfl : text = first :=
          String.le_antisymm (String.not_lt.mp notBehind) (String.not_lt.mp notBefore)
        simp

theorem pairwise_insertSorted (sorted : row.Pairwise (· < ·)) :
    (insertSorted text row).Pairwise (· < ·) := by
  induction row with
  | nil => simp [insertSorted]
  | cons first rest ih =>
    obtain ⟨bounded, rising⟩ := List.pairwise_cons.mp sorted
    rw [insertSorted]
    split
    next before =>
      refine List.pairwise_cons.mpr ⟨List.forall_mem_cons.mpr ⟨before, ?_⟩, sorted⟩
      exact fun later member => String.lt_trans before (bounded later member)
    next =>
      split
      next behind =>
        refine List.pairwise_cons.mpr ⟨fun later member => ?_, ih rising⟩
        rcases mem_insertSorted.mp member with rfl | member
        · exact behind
        · exact bounded later member
      next => exact sorted

theorem mem_sortedSet : text ∈ sortedSet texts ↔ text ∈ texts := by
  induction texts with
  | nil => rfl
  | cons first texts ih =>
    change text ∈ insertSorted first (sortedSet texts) ↔ _
    rw [mem_insertSorted, ih, List.mem_cons]

theorem pairwise_sortedSet (texts : List String) : (sortedSet texts).Pairwise (· < ·) := by
  induction texts with
  | nil => exact .nil
  | cons text texts ih => exact pairwise_insertSorted ih

/-! ## Rows behind fronts -/

theorem ofList_append_lt {front t u : Text} (before : String.ofList t < String.ofList u) :
    String.ofList (front ++ t) < String.ofList (front ++ u) := by
  rw [String.lt_iff_toList_lt, String.toList_ofList, String.toList_ofList] at before ⊢
  exact List.append_left_lt before

theorem ofList_append_lt_iff {front t u : Text} :
    String.ofList (front ++ t) < String.ofList (front ++ u) ↔
      String.ofList t < String.ofList u := by
  refine ⟨fun before => ?_, ofList_append_lt⟩
  rcases lt_trichotomy (String.ofList t) (String.ofList u) with less | same | more
  · exact less
  · rw [String.ofList_injective same] at before
    exact absurd before (lt_irrefl _)
  · exact absurd before (ofList_append_lt more).asymm

/-- Two ascending rows of the same texts, each with a front of its own before all of them, hold
these texts in one order. -/
theorem exists_common_row {front otherFront : Text} {holds : Text → Prop} {others : List String}
    (rising : row.Pairwise (· < ·)) (othersRising : others.Pairwise (· < ·))
    (members : ∀ text, text ∈ row ↔ ∃ t, holds t ∧ String.ofList (front ++ t) = text)
    (otherMembers : ∀ text, text ∈ others ↔
      ∃ t, holds t ∧ String.ofList (otherFront ++ t) = text) :
    ∃ shared : List Text, (∀ t ∈ shared, holds t) ∧
      row = shared.map (fun t => String.ofList (front ++ t)) ∧
      others = shared.map fun t => String.ofList (otherFront ++ t) := by
  -- The shared row is the first one without its front.
  have shape : ∃ shared : List Text, (∀ t ∈ shared, holds t) ∧
      row = shared.map fun t => String.ofList (front ++ t) := by
    refine ⟨row.map fun text => text.toList.drop front.length, ?_, ?_⟩
    · intro t held
      obtain ⟨text, member, rfl⟩ := List.mem_map.mp held
      obtain ⟨t, holding, rfl⟩ := (members text).mp member
      rwa [String.toList_ofList, List.drop_left]
    · rw [List.map_map, List.map_congr_left (g := id), List.map_id]
      intro text member
      obtain ⟨t, -, rfl⟩ := (members text).mp member
      simp
  obtain ⟨shared, holding, rfl⟩ := shape
  refine ⟨shared, holding, rfl, ?_⟩
  have sharedRising : (shared.map fun t => String.ofList (otherFront ++ t)).Pairwise (· < ·) := by
    rw [List.pairwise_map] at rising ⊢
    exact rising.imp fun before => ofList_append_lt_iff.mpr (ofList_append_lt_iff.mp before)
  refine othersRising.eq_of_mem_iff sharedRising fun text => ?_
  rw [otherMembers, List.mem_map]
  constructor
  · rintro ⟨t, holding, rfl⟩
    obtain ⟨u, member, same⟩ := List.mem_map.mp ((members _).mpr ⟨t, holding, rfl⟩)
    obtain rfl := List.append_cancel_left (String.ofList_injective same)
    exact ⟨u, member, rfl⟩
  · rintro ⟨t, member, rfl⟩
    exact ⟨t, holding t member, rfl⟩

end SfcLint
