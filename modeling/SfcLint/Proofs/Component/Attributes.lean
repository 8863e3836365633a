/-
# Where attributes stand

The attributes of an element are read from the text of its start tag: first the name of the tag,
then one hit after the other in what follows. A binding keeps the place where its hit starts, and a
hit starts with the name of the attribute.
-/

import SfcLint.Component.Assembly
import SfcLint.Proofs.Pattern.Hits
import SfcLint.Proofs.Text.Except

namespace SfcLint

theorem Text.dropEndWhile_prefix (p : Char → Bool) (t : Text) : dropEndWhile p t <+: t := by
  induction t with
  | nil => exact List.nil_prefix
  | cons c t ih =>
    rw [dropEndWhile, List.foldr_cons]
    split
    · exact List.nil_prefix
    · exact List.cons_prefix_cons.mpr ⟨rfl, ih⟩

@[simp]
theorem Binding.ofAttribute_position (rawName : Text) (value : Option Text) (place : Position) :
    (ofAttribute rawName value place).position = place := by
  rw [ofAttribute.eq_def]
  split <;> rfl

@[simp]
theorem Binding.ofAttribute_rawName (rawName : Text) (value : Option Text) (place : Position) :
    (ofAttribute rawName value place).rawName = rawName := by
  rw [ofAttribute.eq_def]
  split <;> rfl

namespace Pattern

/-- What a pattern starts by setting aside is a start of what it matches. -/
theorem exists_captured_of_mem_ways {name : String} {body rest : Pattern} {cursor next : Cursor}
    (foreign : name ∉ rest.names) (member : next ∈ (seq (capture name body) rest).ways cursor) :
    ∃ taken middle, middle ∈ body.ways cursor ∧ Reaches cursor taken middle ∧
      next.captured? name = some taken := by
  rw [ways, List.mem_flatMap] at member
  obtain ⟨_, first, later⟩ := member
  rw [ways, List.mem_map] at first
  obtain ⟨middle, inBody, rfl⟩ := first
  obtain ⟨taken, reaches⟩ := exists_reaches_of_mem_ways inBody
  refine ⟨taken, middle, inBody, reaches, ?_⟩
  rw [captured?_of_mem_ways foreign later, captured?_setAside, reaches.take_eq]

theorem taken_ne_nil_of_mem_ways_some1 {test : Char → Bool} {cursor next : Cursor} {taken : Text}
    (member : next ∈ (some1 test).ways cursor) (reaches : Reaches cursor taken next) :
    taken ≠ [] := by
  rw [some1, ways, List.mem_flatMap] at member
  obtain ⟨middle, first, later⟩ := member
  obtain ⟨more, onward⟩ := exists_reaches_of_mem_ways later
  have step : middle.offset = cursor.offset + 1 := by
    rw [ways] at first
    split at first
    · rw [List.mem_ite_nil_right, List.mem_singleton] at first
      rw [first.2]
    · contradiction
  rintro rfl
  have stays := reaches.offset
  have moves := onward.offset
  simp only [List.length_nil] at stays
  omega

end Pattern

namespace Assembly

open Pattern

/-- A hit of an attribute starts with its name. -/
theorem attributeName_of_mem_hits {t : Text} {hit : Hit} (member : hit ∈ writtenAttribute.hits t) :
    hit.start < t.length ∧ hit.group "name" ≠ [] ∧ hit.group "name" <+: t.drop hit.start := by
  obtain ⟨within, found⟩ := hitAt?_of_mem_hits member
  obtain ⟨next, inWays, same⟩ := hitAt?_eq_some found
  -- What follows the name sets aside the value only.
  obtain ⟨taken, middle, inBody, reaches, captured⟩ := exists_captured_of_mem_ways (by decide) inWays
  have group : hit.group "name" = taken := by
    rw [same, Hit.group]
    show (next.captured? "name").getD [] = taken
    rw [captured]
    rfl
  rw [group]
  exact ⟨within, taken_ne_nil_of_mem_ways_some1 inBody reaches, ⟨_, reaches.rest.symm⟩⟩

/-- The element has the given position, and each of its bindings stands on its name, so many
characters into the text of the start tag. -/
theorem elementOf_eq_ok {name raw : Text} {position : Position} {opened : OpenElement}
    (read : elementOf name raw position = .ok opened) :
    opened.position = position ∧ opened.children = [] ∧
      ∀ binding ∈ opened.bindings, ∃ n < raw.length,
        binding.position = position.after (raw.take n) ∧ binding.rawName ≠ [] ∧
          binding.rawName <+: raw.drop n := by
  rw [elementOf] at read
  generalize (((writtenName.leading? raw).map (·.stop)).getD 0) = bodyStart at read
  generalize (((writtenName.leading? raw).map (·.group "name")).getD name) = tag at read
  generalize shortened : Text.dropEndWhile (· == '/')
    (Text.dropEndWhile (· == '>') (raw.drop bodyStart)) = body at read
  dsimp only at read
  have front : body <+: raw.drop bodyStart := by
    rw [← shortened]
    exact (Text.dropEndWhile_prefix _ _).trans (Text.dropEndWhile_prefix _ _)
  rw [Except.bind_eq_ok_iff] at read
  obtain ⟨bindings, mapped, made⟩ := read
  obtain rfl := Except.pure_eq_ok_iff.mp made
  refine ⟨rfl, rfl, ?_⟩
  intro binding member
  obtain ⟨hit, isHit, made⟩ := Except.exists_of_mapM_eq_ok mapped member
  rw [Except.bind_eq_ok_iff] at made
  obtain ⟨value, -, made⟩ := made
  obtain rfl := Except.pure_eq_ok_iff.mp made
  obtain ⟨within, nonempty, starts⟩ := attributeName_of_mem_hits isHit
  have shorter := front.length_le
  rw [List.length_drop] at shorter
  refine ⟨bodyStart + hit.start, by omega, by simp, by simpa using nonempty, ?_⟩
  obtain ⟨rest, split⟩ := front
  rw [Binding.ofAttribute_rawName, ← List.drop_drop, ← split,
    List.drop_append_of_le_length (Nat.le_of_lt within)]
  exact starts.trans (List.prefix_append _ _)

end Assembly

end SfcLint
