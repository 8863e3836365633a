/-
# Brackets and what stands around them

The walk from an opening bracket looks at nothing before it, and it has read no further than the
closing bracket when it comes to its end. So a part of a text has the pairs of brackets that the
whole text has in that part, and no others: what is found in a body that has been cut out is found
in the script, and the other way round.
-/

import SfcLint.Proofs.Script.Cutting
import SfcLint.Proofs.Script.Matching

namespace SfcLint.Script

variable {t : Text} {start stop : Nat}

theorem matching?_eq_some_iff :
    matching? t start = .ok (some stop) ↔ Encloses t start stop := by
  constructor
  · intro found
    cases opens : t[start]?.bind Bracket.opened? with
    | none =>
      have refused : matching? t (Int.ofNat start) = .error ⟨Int.ofNat start⟩ := by
        simp [matching?, opens]
      exact absurd (refused.symm.trans found) (by simp)
    | some kind =>
      obtain ⟨c, here, opened⟩ := Option.bind_eq_some_iff.mp opens
      obtain rfl := Bracket.opened?_eq_some_iff.mp opened
      rw [matching?_opener here, Except.ok.injEq] at found
      exact map_stop_spanAt?_eq_some_iff.mp found
  · intro encloses
    obtain ⟨-, -, kind, opens, -⟩ := encloses.brackets
    rw [matching?_opener opens, map_stop_spanAt?_eq_some_iff.mpr encloses]

/-- The walk from an opening bracket finds where it is closed. -/
theorem encloses_iff_closing {kind : Bracket} (opens : t[start]? = some kind.opener) :
    Encloses t start stop ↔
      ∃ n, closing 0 [.bracket kind] (t.drop (start + 1)) = some n ∧ stop = start + n := by
  have walk := closing_brackets [kind] (t.drop (start + 1))
  rw [List.map_singleton] at walk
  rw [← map_stop_spanAt?_eq_some_iff, spanAt?_opener opens, ← walk, Option.map_map,
    Option.map_eq_some_iff]
  simp only [Function.comp_apply, eq_comm (a := start + _)]

/-- What stands before a text only moves its brackets. -/
theorem encloses_drop_iff {place found : Nat} :
    Encloses (t.drop start) place found ↔ Encloses t (start + place) (start + found) := by
  unfold Encloses
  rw [List.drop_drop]
  simp only [Nat.add_assoc, Nat.add_left_cancel_iff]

/-- A text that is cut off keeps the brackets that are closed before the cut. -/
theorem encloses_take_iff {n : Nat} :
    Encloses (t.take n) start stop ↔ Encloses t start stop ∧ stop < n := by
  -- Where both walks start, the walk in the text that is cut off ends where the other one does.
  have walks {kind : Bracket} (before : start < n) (opens : t[start]? = some kind.opener) :
      Encloses (t.take n) start stop ↔ Encloses t start stop ∧ stop < n := by
    have opensToo : (t.take n)[start]? = some kind.opener := by
      rwa [List.getElem?_take_of_lt before]
    have front : (t.take n).drop (start + 1) = (t.drop (start + 1)).take (n - (start + 1)) :=
      List.drop_take
    have cut := closing_front 0 [.bracket kind] ((t.drop (start + 1)).take (n - (start + 1)))
      ((t.drop (start + 1)).drop (n - (start + 1)))
    rw [List.take_append_drop, ← front] at cut
    rw [encloses_iff_closing opensToo, encloses_iff_closing opens, cut]
    constructor
    · rintro ⟨m, found, rfl⟩
      obtain ⟨found, within⟩ := Option.filter_eq_some_iff.mp found
      rw [decide_eq_true_eq, front, List.length_take] at within
      exact ⟨⟨m, found, rfl⟩, by omega⟩
    · rintro ⟨⟨m, found, rfl⟩, within⟩
      have inside := (closing_bounds found).2
      refine ⟨m, Option.filter_eq_some_iff.mpr ⟨found, ?_⟩, rfl⟩
      rw [decide_eq_true_eq, front, List.length_take]
      omega
  constructor
  · intro encloses
    obtain ⟨ordered, within, kind, opens, -⟩ := encloses.brackets
    rw [List.length_take] at within
    rw [List.getElem?_take_of_lt (by omega)] at opens
    exact (walks (by omega) opens).mp encloses
  · rintro ⟨encloses, within⟩
    obtain ⟨ordered, -, kind, opens, -⟩ := encloses.brackets
    exact (walks (by omega) opens).mpr ⟨encloses, within⟩

theorem encloses_slice_iff {place found : Nat} :
    Encloses (t.slice start stop) place found ↔
      Encloses t (start + place) (start + found) ∧ start + found < stop := by
  rw [Text.slice, encloses_take_iff, encloses_drop_iff]
  refine and_congr_right fun _ => ?_
  omega

/-- Brackets that are closed in a text are closed in a longer one. -/
theorem Encloses.append {place found : Nat} (encloses : Encloses t place found)
    (before after : Text) :
    Encloses (before ++ t ++ after) (before.length + place) (before.length + found) := by
  have part : (before ++ t ++ after).slice before.length (before.length + t.length) = t := by
    rw [Text.slice, List.append_assoc, List.drop_left, Nat.add_sub_cancel_left, List.take_left]
  rw [← part] at encloses
  exact (encloses_slice_iff.mp encloses).1

/-- **Matching brackets is local.** A bracket that is closed in a text is closed at the same
character whatever stands before the text and behind it, and also when nothing is left behind the
closing bracket. A part of a text has exactly the pairs of brackets of the text that lie in it. -/
theorem matching?_local :
    (∀ (before t after : Text) (stop : Nat), matching? t 0 = .ok (some stop) →
      matching? (before ++ t ++ after) before.length = .ok (some (before.length + stop)) ∧
        matching? (t.take (stop + 1)) 0 = .ok (some stop)) ∧
    ∀ (t : Text) (start stop place found : Nat),
      matching? (t.slice start stop) place = .ok (some found) ↔
        matching? t ↑(start + place) = .ok (some (start + found)) ∧ start + found < stop := by
  constructor
  · intro before t after stop found
    have encloses : Encloses t 0 stop := matching?_eq_some_iff.mp found
    refine ⟨matching?_eq_some_iff.mpr (encloses.append before after), ?_⟩
    exact matching?_eq_some_iff.mpr (encloses_take_iff.mpr ⟨encloses, Nat.lt_succ_self stop⟩)
  · intro t start stop place found
    rw [matching?_eq_some_iff, matching?_eq_some_iff]
    exact encloses_slice_iff

/-- A block that holds a template string with a group, and what follows it. -/
def blockWithTemplate : Text := "\x7b a(`$\x7b')' + ']'\x7d`) \x7d // the end"

/-- An open string before the block and an open comment behind it change nothing. -/
theorem matching?_local_template :
    matching? blockWithTemplate 0 = .ok (some 20) ∧
      matching? ("don't ".toList ++ blockWithTemplate ++ " /* `".toList) 6 = .ok (some 26) ∧
        matching? (blockWithTemplate.take 21) 0 = .ok (some 20) := by
  have found : matching? blockWithTemplate 0 = .ok (some 20) := by cbv
  exact ⟨found, matching?_local.1 "don't ".toList blockWithTemplate " /* `".toList 20 found⟩

end SfcLint.Script
