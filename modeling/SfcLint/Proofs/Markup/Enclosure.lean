/-
# Elements with plain text

Inside an element with plain text the tokenizer looks for the end tag of the element and reads all
before it as text. An end tag whose sign is masked is passed over, and one that is not is an end
tag with the mask and without.
-/

import SfcLint.Proofs.Markup.Stretch
import SfcLint.Proofs.Markup.Veil

namespace SfcLint.Markup

open Pattern

/-- The end tag of an element with plain text stands at the start of the text. -/
def closes (name u : Text) : Bool := ((elementEnd name).leading? u).isSome

section Enclosed

variable {name : Text} {u : Text}

theorem elementEnd_forward (plain : name ∈ plainTextElements) :
    (elementEnd name).forward = true := by
  simp only [plainTextElements, List.mem_cons, List.not_mem_nil, or_false] at plain
  rcases plain with rfl | rfl
  · decide
  · decide

/-- What follows the sign and the slash of an end tag. -/
def afterSlash (name : Text) : Pattern :=
  all [blanks, caseless (String.ofList name), blanks, ">"]

theorem afterSlash_blind (plain : name ∈ plainTextElements) : (afterSlash name).blind = true := by
  simp only [plainTextElements, List.mem_cons, List.not_mem_nil, or_false] at plain
  rcases plain with rfl | rfl
  · decide
  · decide

/-- A sign that is not masked starts the end tag with the mask or without. -/
theorem closes_unmasked (plain : name ∈ plainTextElements) (t : Text) :
    closes name (unmasked ('<' :: t)) = closes name ('<' :: t) := by
  have same := @leading?_sign_unmasked ['/'] _ (by decide) (by decide) (afterSlash_blind plain) t
  rw [closes, closes]
  exact (congrArg Option.isSome same).trans Option.isSome_map

theorem head?_of_closes (starts : closes name u = true) : u.head? = some '<' := by
  obtain ⟨hit, found⟩ := Option.isSome_iff_exists.mp starts
  obtain ⟨rest, rfl⟩ := (leading?_literal_seq found).1
  rfl

theorem isSome_hitAt?_elementEnd (plain : name ∈ plainTextElements) (n : Nat) :
    ((elementEnd name).hitAt? (.within u n)).isSome = closes name (u.drop n) :=
  hitAt?_isSome_of_forward (elementEnd_forward plain) _

/-- Inside an element with plain text a step goes up to the next end tag of the element, or reads
what stands there, or there is none and the reading stops. -/
theorem step?_enclosed (plain : name ∈ plainTextElements) (u : Text) :
    (∃ j, closes name (u.drop j) = true ∧ (∀ i < j, closes name (u.drop i) = false) ∧
      step? (some name) u =
        if 0 < j then .ok (some ⟨some (.text (u.take j)), j, some name⟩)
        else .ok (endTagStep? (some name) u)) ∨
      (∀ j, closes name (u.drop j) = false) ∧ step? (some name) u = .ok none := by
  cases found : (elementEnd name).first? u with
  | none =>
    refine .inr ⟨?_, by rw [step?, found]⟩
    intro j
    by_cases inside : j ≤ u.length
    · rw [← isSome_hitAt?_elementEnd plain, first?_eq_none found inside]
      rfl
    · rw [List.drop_eq_nil_of_le (by omega), Bool.eq_false_iff]
      intro starts
      simpa using head?_of_closes starts
  | some hit =>
    obtain ⟨n, inside, here, before⟩ := first?_eq_some found
    obtain ⟨start, -⟩ := hitAt?_within inside here
    refine .inl ⟨n, ?_, ?_, ?_⟩
    · rw [← isSome_hitAt?_elementEnd plain, here]
      rfl
    · intro i less
      rw [← isSome_hitAt?_elementEnd plain, before i less]
      rfl
    · rw [step?, found]
      dsimp only
      rw [start]

theorem step?_of_closes (plain : name ∈ plainTextElements) (ends : closes name u = true) :
    step? (some name) u = .ok (endTagStep? (some name) u) := by
  rcases step?_enclosed plain u with ⟨j, -, before, read⟩ | ⟨never, -⟩
  · by_cases later : 0 < j
    · have none := before 0 later
      rw [List.drop_zero, ends] at none
      contradiction
    · rwa [if_neg later] at read
  · have none := never 0
    rw [List.drop_zero, ends] at none
    contradiction

/-- Inside an element with plain text every step reads text or the end tag of the element. -/
theorem exists_content_of_step?_enclosed {step : Step}
    (read : step? (some name) u = .ok (some step)) :
    step.content = some (.endTag name) ∨ ∃ t, step.content = some (.text t) := by
  cases reading_of_step? read with
  | enclosed ends later => exact .inr ⟨_, rfl⟩
  | leaving ends first read =>
    obtain ⟨length, -, reading⟩ := endTagStep?_eq_some read
    cases reading with
    | endTag own =>
      rw [own name rfl]
      exact .inl rfl
    | text => exact .inr ⟨_, rfl⟩

theorem content_of_step?_enclosed {step : Step} (read : step? (some name) u = .ok (some step))
    {content : TokenContent} (token : step.content = some content) :
    content = .endTag name ∨ ∃ t, content = .text t := by
  simpa [token] using exists_content_of_step?_enclosed read

theorem isSome_content_of_step?_enclosed {step : Step}
    (read : step? (some name) u = .ok (some step)) : step.content.isSome = true := by
  rcases exists_content_of_step?_enclosed read with ends | ⟨t, shows⟩
  · rw [ends, Option.isSome_some]
  · rw [shows, Option.isSome_some]

/-- The tokenizer is in no other elements with plain text. -/
theorem Between.plain {t : Text} {n : Nat} (between : Between t n (some name)) :
    name ∈ plainTextElements := by
  generalize inside : some name = element at between
  induction between with
  | start => contradiction
  | step _ nonempty found ih =>
    have next := (step?_fits nonempty found).next
    rw [← inside] at next
    rw [elementAfter.eq_def] at next
    split at next
    · split at next
      next member =>
        rw [Option.some.inj next]
        exact List.contains_iff_mem.mp member
      next => contradiction
    · exact ih next
    · contradiction

/-- At a place inside an element with plain text an end tag of the element is read as text. -/
def PassedOver (name u : Text) (length : Nat) : Prop :=
  step? (some name) u = .ok (some ⟨some (.text (u.take length)), length, some name⟩)

/-- Up to an end tag there is only text when the end tags before it are passed over. -/
theorem stretch_enclosed (plain : name ∈ plainTextElements) {k m : Nat} (ordered : k ≤ m)
    (ends : closes name (u.drop m) = true)
    (skipped : ∀ j, k ≤ j → j < m → Between u j (some name) → closes name (u.drop j) = true →
      ∃ length, PassedOver name (u.drop j) length ∧ j + length ≤ m)
    (between : Between u k (some name)) : Stretch u (some name) k (u.slice k m) m := by
  -- Each step leaves less of the text before the end tag.
  induction left : m - k using Nat.strongRecOn generalizing k with
  | ind size ih =>
  subst left
  rcases Nat.eq_or_lt_of_le ordered with rfl | open?
  · rw [Text.slice, Nat.sub_self, List.take_zero]
    exact .nil k
  · have inside : m < u.length := by
      have sign := head?_of_closes ends
      rw [List.head?_drop, List.getElem?_eq_some_iff] at sign
      exact sign.1
    have nonempty : u.drop k ≠ [] := by
      rw [Ne, List.drop_eq_nil_iff]
      omega
    have step : ∃ length, PassedOver name (u.drop k) length ∧ k + length ≤ m := by
      rcases step?_enclosed plain (u.drop k) with ⟨j, here, before, read⟩ | ⟨never, -⟩
      · by_cases later : 0 < j
        · rw [if_pos later] at read
          refine ⟨j, read, ?_⟩
          -- The end tag at `m` is not before the first one.
          have notBefore : ¬ m - k < j := by
            intro less
            have none := before (m - k) less
            rw [List.drop_drop, Nat.add_sub_cancel' ordered, ends] at none
            contradiction
          omega
        · obtain rfl : j = 0 := by omega
          exact skipped k (Nat.le_refl k) open? between here
      · have none := never (m - k)
        rw [List.drop_drop, Nat.add_sub_cancel' ordered, ends] at none
        contradiction
    obtain ⟨length, read, reaches⟩ := step
    have onward : 0 < length := (step?_fits nonempty read).onward
    have parts : u.slice k m = (u.drop k).take length ++ u.slice (k + length) m := by
      have sizes : m - k = length + (m - (k + length)) := by omega
      rw [Text.slice, Text.slice, sizes, List.take_add, List.drop_drop]
    rw [parts]
    refine Stretch.text nonempty read (ih _ (by omega) reaches ?_ (between.step nonempty read) rfl)
    intro j atLeast
    exact skipped j (by omega)

/-- When all end tags of the element are passed over, only text is read up to the end. -/
theorem exists_stretch_end (plain : name ∈ plainTextElements) {k : Nat}
    (skipped : ∀ j, k ≤ j → Between u j (some name) → closes name (u.drop j) = true →
      ∃ length, PassedOver name (u.drop j) length)
    (between : Between u k (some name)) :
    ∃ shown m, Stretch u (some name) k shown m ∧ tokensAt u m (some name) = [] := by
  induction left : u.length - k using Nat.strongRecOn generalizing k with
  | ind size ih =>
  subst left
  by_cases ended : u.drop k = []
  · exact ⟨[], k, .nil k, tokensAt_end ended⟩
  · have open? : k < u.length := by
      rw [List.drop_eq_nil_iff] at ended
      omega
    have further (length : Nat) (read : PassedOver name (u.drop k) length) :
        ∃ shown m, Stretch u (some name) k shown m ∧ tokensAt u m (some name) = [] := by
      have onward : 0 < length := (step?_fits ended read).onward
      obtain ⟨shown, m, stretch, last⟩ := ih (u.length - (k + length)) (by omega)
        (fun j atLeast => skipped j (by omega)) (between.step ended read) rfl
      exact ⟨_, m, .text ended read stretch, last⟩
    rcases step?_enclosed plain (u.drop k) with ⟨j, here, before, read⟩ | ⟨-, stops⟩
    · by_cases later : 0 < j
      · rw [if_pos later] at read
        exact further j read
      · obtain rfl : j = 0 := by omega
        obtain ⟨length, passed⟩ := skipped k (Nat.le_refl k) between here
        exact further length passed
    · refine ⟨[], k, .nil k, ?_⟩
      rw [tokensAt_eq ended, stops]

end Enclosed

end SfcLint.Markup
