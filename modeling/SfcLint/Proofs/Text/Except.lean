/-
# Computations that may fail

A computation in steps ends well exactly when every one of its steps does, and fails exactly when it
comes to a step that fails.
-/

import Mathlib.Data.List.Forall2

namespace Except

variable {ε α β : Type}

theorem bind_eq_ok_iff {x : Except ε α} {f : α → Except ε β} {r : β} :
    (x >>= f) = .ok r ↔ ∃ a, x = .ok a ∧ f a = .ok r := by
  cases x with
  | error failure => simp [bind, Except.bind]
  | ok a => simp [bind, Except.bind]

theorem bind_eq_error_iff {x : Except ε α} {f : α → Except ε β} {failure : ε} :
    (x >>= f) = .error failure ↔ x = .error failure ∨ ∃ a, x = .ok a ∧ f a = .error failure := by
  cases x with
  | error failure => simp [bind, Except.bind]
  | ok a => simp [bind, Except.bind]

theorem pure_eq_ok_iff {a r : α} : (pure a : Except ε α) = .ok r ↔ a = r :=
  ⟨Except.ok.inj, congrArg _⟩

theorem mapError_eq_ok_iff {δ : Type} {f : ε → δ} {x : Except ε α} {a : α} :
    x.mapError f = .ok a ↔ x = .ok a := by
  cases x <;> simp [Except.mapError]

theorem toOption_eq_some_iff {x : Except ε α} {a : α} : x.toOption = some a ↔ x = .ok a := by
  cases x <;> simp [Except.toOption]

/-- A row of computations ends well exactly when each of them does, and then their results are one
for each, in order. -/
theorem mapM_eq_ok_iff {f : α → Except ε β} {xs : List α} {ys : List β} :
    xs.mapM f = .ok ys ↔ List.Forall₂ (fun x y => f x = .ok y) xs ys := by
  induction xs generalizing ys with
  | nil =>
    rw [List.mapM_nil, pure_eq_ok_iff, List.forall₂_nil_left_iff, eq_comm]
  | cons x xs ih =>
    rw [List.mapM_cons, bind_eq_ok_iff, List.forall₂_cons_left_iff]
    constructor
    · rintro ⟨y, first, mapped⟩
      obtain ⟨later, others, joined⟩ := bind_eq_ok_iff.mp mapped
      exact ⟨y, later, first, ih.mp others, (pure_eq_ok_iff.mp joined).symm⟩
    · rintro ⟨y, later, first, others, rfl⟩
      exact ⟨y, first, bind_eq_ok_iff.mpr ⟨later, ih.mpr others, rfl⟩⟩

/-- Every result of a row of computations comes from one of them. -/
theorem exists_of_mapM_eq_ok {f : α → Except ε β} {xs : List α} {ys : List β}
    (mapped : xs.mapM f = .ok ys) {y : β} (member : y ∈ ys) : ∃ x ∈ xs, f x = .ok y := by
  induction xs generalizing ys with
  | nil =>
    obtain rfl := Except.ok.inj mapped
    simp at member
  | cons x xs ih =>
    rw [List.mapM_cons, bind_eq_ok_iff] at mapped
    obtain ⟨z, first, mapped⟩ := mapped
    rw [bind_eq_ok_iff] at mapped
    obtain ⟨zs, later, mapped⟩ := mapped
    obtain rfl := pure_eq_ok_iff.mp mapped
    rcases List.mem_cons.mp member with rfl | member
    · exact ⟨x, List.mem_cons_self, first⟩
    · obtain ⟨x, member, same⟩ := ih later member
      exact ⟨x, List.mem_cons_of_mem _ member, same⟩

/-- The failure of a row of computations is that of one of them. -/
theorem exists_of_mapM_eq_error {f : α → Except ε β} {xs : List α} {failure : ε}
    (failed : xs.mapM f = .error failure) : ∃ x ∈ xs, f x = .error failure := by
  induction xs with
  | nil => contradiction
  | cons x xs ih =>
    rw [List.mapM_cons, bind_eq_error_iff] at failed
    rcases failed with first | ⟨y, -, failed⟩
    · exact ⟨x, List.mem_cons_self, first⟩
    · rcases bind_eq_error_iff.mp failed with later | ⟨ys, -, failed⟩
      · obtain ⟨x, member, same⟩ := ih later
        exact ⟨x, List.mem_cons_of_mem _ member, same⟩
      · contradiction

/-! ## Failing -/

/-- The computation does not end well. -/
def Fails (x : Except ε α) : Prop := ∃ failure, x = .error failure

@[simp]
theorem not_fails_ok {a : α} : ¬ (ok a : Except ε α).Fails := by
  rintro ⟨failure, failed⟩
  contradiction

@[simp]
theorem not_fails_pure {a : α} : ¬ (pure a : Except ε α).Fails := not_fails_ok

@[simp]
theorem fails_error {failure : ε} : (error failure : Except ε α).Fails := ⟨failure, rfl⟩

theorem not_fails_iff {x : Except ε α} : ¬ x.Fails ↔ ∃ a, x = .ok a := by
  cases x <;> simp

theorem fails_bind_iff {x : Except ε α} {f : α → Except ε β} :
    (x >>= f).Fails ↔ x.Fails ∨ ∃ a, x = .ok a ∧ (f a).Fails := by
  cases x with
  | error failure => exact iff_of_true fails_error (.inl fails_error)
  | ok a => simp [bind, Except.bind]

/-- Where the second step does not depend on the first, either may fail. -/
theorem fails_bind_or {x : Except ε α} {f : α → Except ε β} {second : Prop}
    (same : ∀ a, (f a).Fails ↔ second) : (x >>= f).Fails ↔ x.Fails ∨ second := by
  rw [fails_bind_iff]
  cases x with
  | error failure => simp
  | ok a => simp [same]

@[simp]
theorem fails_map_iff {x : Except ε α} {f : α → β} : (f <$> x).Fails ↔ x.Fails := by
  cases x <;> simp [Functor.map, Except.map]

@[simp]
theorem fails_mapError_iff {x : Except ε α} {f : ε → β} : (x.mapError f).Fails ↔ x.Fails := by
  cases x <;> simp [Except.mapError]

theorem fails_optionMapM_iff {f : α → Except ε β} {given : Option α} :
    (given.mapM f).Fails ↔ ∃ a ∈ given, (f a).Fails := by
  cases given with
  | none => simp
  | some a => simp

/-- A row of computations fails exactly when one of them does. -/
theorem fails_mapM_iff {f : α → Except ε β} {xs : List α} :
    (xs.mapM f).Fails ↔ ∃ x ∈ xs, (f x).Fails := by
  induction xs with
  | nil => simp
  | cons x xs ih =>
    rw [List.mapM_cons, List.exists_mem_cons_iff, ← ih]
    exact fails_bind_or fun y => by simp

end Except
