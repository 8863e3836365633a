/-
# Members of an object literal

The members of an object literal are those of the stretches between its commas, one by one. Which
member a stretch holds depends on the head that it starts with.
-/

import SfcLint.Proofs.Script.KeyPattern

namespace SfcLint.Script

open Pattern

/-- The key and the kind of a member. -/
abbrev Member := Option Text × EntryKind

/-- An entry without its value and its place. -/
def Entry.member (entry : Entry) : Member := (entry.key, entry.kind)

/-- The member that a stretch between commas holds, if it holds one. -/
def memberOf (raw : Text) : Except Failure (Option Member) :=
  (entryOf ⟨0, Text.strip raw⟩).map (Option.map Entry.member)

/-- The members of an object literal, given the text between its braces. -/
def members (body : Text) : Except Failure (List Member) :=
  (objectEntries body).map (List.map Entry.member)

/-- The members that were found, in their order, unless one could not be read. -/
def gather : List (Except Failure (Option Member)) → Except Failure (List Member)
  | [] => .ok []
  | .error failure :: _ => .error failure
  | .ok found :: later => (gather later).map (found.toList ++ ·)

/-- The kind of member that is known by a sign. -/
def kindOf (sign : Text) : EntryKind :=
  if sign = [':'] then .property else if sign = ['('] then .method else .shorthand

theorem kindOf_sign {kind : EntryKind} (keyed : kind ≠ .spread) : kindOf kind.sign = kind := by
  cases kind with
  | spread => contradiction
  | _ => rfl

section

variable {piece : Piece}

theorem entryOf_of_dots {rest : Text} (dots : Text.dropFront? "..." piece.text = some rest) :
    (entryOf piece).map (Option.map Entry.member) = .ok (some (none, .spread)) := by
  rw [entryOf, dots]
  rfl

theorem entryOf_of_hit {hit : Hit} (plain : Text.dropFront? "..." piece.text = none)
    (found : entryKey.leading? piece.text = some hit) :
    (entryOf piece).map (Option.map Entry.member) =
      (entryName hit).map fun key => some (some key, kindOf (hit.group "sep")) := by
  rw [entryOf, plain]
  dsimp only
  rw [found]
  dsimp only
  cases entryName hit with
  | error failure => rfl
  | ok key =>
    generalize hit.group "sep" = sign
    split
    · rfl
    · rfl
    next notColon notParen =>
      rw [kindOf, if_neg notColon, if_neg notParen]
      rfl

theorem entryOf_of_none (plain : Text.dropFront? "..." piece.text = none)
    (missing : entryKey.leading? piece.text = none) :
    (entryOf piece).map (Option.map Entry.member) = .ok none := by
  rw [entryOf, plain]
  dsimp only
  rw [missing]
  rfl

/-- Where a member stands in a text matters neither to its key nor to its kind. -/
theorem entryOf_eq_memberOf (raw : Text) (offset : Nat) :
    (entryOf ⟨offset, Text.strip raw⟩).map (Option.map Entry.member) = memberOf raw := by
  rw [memberOf]
  cases dots : Text.dropFront? "..." (Text.strip raw) with
  | some rest => rw [entryOf_of_dots dots, entryOf_of_dots dots]
  | none =>
    cases found : entryKey.leading? (Text.strip raw) with
    | none => rw [entryOf_of_none dots found, entryOf_of_none dots found]
    | some hit => rw [entryOf_of_hit dots found, entryOf_of_hit dots found]

end

/-! ## The member of a stretch -/

/-- Where the head of a stretch ends: behind the dots of a spread, or behind what the pattern for
keys passes. It is counted from the first character that is not blank. -/
def headStop? (raw : Text) : Option Nat :=
  match Text.dropFront? "..." (Text.strip raw) with
  | some _ => some 3
  | none => (entryKey.leading? (Text.strip raw)).map (·.stop)

/-- The stretch holds no member. -/
def NoMember (raw : Text) : Prop := memberOf raw = .ok none

section

variable {raw : Text}

theorem getLast?_strip : (Text.strip raw).getLast? ≠ some '\n' := by
  intro last
  exact absurd (Text.not_isBlank_of_getLast?_stripEnd last) (by decide)

theorem spread_of_dots {rest : Text} (dots : Text.strip raw = "...".toList ++ rest) :
    memberOf raw = .ok (some (none, .spread)) ∧ headStop? raw = some 3 := by
  have front := dropFront?_eq_some_iff.mpr dots
  exact ⟨entryOf_of_dots front, by rw [headStop?, front]⟩

theorem no_dots (plain : ∀ rest, Text.strip raw ≠ "...".toList ++ rest) :
    Text.dropFront? "..." (Text.strip raw) = none := by
  cases front : Text.dropFront? "..." (Text.strip raw) with
  | none => rfl
  | some rest => exact absurd (dropFront?_eq_some_iff.mp front) (plain rest)

theorem member_of_head {head : Head} (split : Text.strip raw = head.text) :
    memberOf raw = head.key.map (fun key => some (some key, head.kind)) ∧
      headStop? raw = some head.stop := by
  have plain : Text.dropFront? "..." (Text.strip raw) = none := by
    refine no_dots ?_
    intro rest dots
    obtain ⟨c, later, text, starts⟩ := head.text_eq
    rw [split, text] at dots
    obtain ⟨rfl, -⟩ := List.cons.inj dots
    exact absurd starts (by decide)
  have notBreak : head.text.getLast? ≠ some '\n' := split ▸ getLast?_strip
  obtain ⟨hit, found, named, sign, stop⟩ := leading?_entryKey notBreak
  rw [← split] at found
  constructor
  · rw [memberOf, entryOf_of_hit plain found, named, sign, kindOf_sign head.keyed]
  · rw [headStop?, plain]
    dsimp only
    rw [found, Option.map_some, stop]

/-- A stretch that starts with a head has a member with a key, or none that can be read. -/
theorem memberOf_ne_of_keyless {head : Head} (split : Text.strip raw = head.text)
    {found : Option Member} (keyless : ∀ key kind, found ≠ some (some key, kind)) :
    memberOf raw ≠ .ok found := by
  rw [(member_of_head split).1]
  cases head.key with
  | error failure => simp [Except.map]
  | ok key => exact fun same => keyless _ _ (Except.ok.inj same).symm

/-- Stretches with the same member start with heads of the same key. -/
theorem key_eq_of_memberOf_eq {raw' : Text} {head head' : Head}
    (split : Text.strip raw = head.text) (split' : Text.strip raw' = head'.text)
    (same : memberOf raw = memberOf raw') : head.key = head'.key := by
  rw [(member_of_head split).1, (member_of_head split').1] at same
  cases key : head.key <;> cases key' : head'.key <;> simp_all [Except.map]

theorem noMember_of_headless (plain : ∀ rest, Text.strip raw ≠ "...".toList ++ rest)
    (headless : ∀ head : Head, head.text ≠ Text.strip raw) :
    NoMember raw ∧ headStop? raw = none := by
  have front := no_dots plain
  have missing := leading?_entryKey_eq_none getLast?_strip headless
  constructor
  · exact entryOf_of_none front missing
  · rw [headStop?, front]
    dsimp only
    rw [missing, Option.map_none]

/-- A stretch is a spread, starts with a head, or holds no member. -/
theorem stretch_cases (raw : Text) :
    (∃ rest, Text.strip raw = "...".toList ++ rest) ∨
      (∃ head : Head, Text.strip raw = head.text) ∨ NoMember raw ∧ headStop? raw = none := by
  by_cases dots : ∃ rest, Text.strip raw = "...".toList ++ rest
  · exact .inl dots
  · by_cases headed : ∃ head : Head, Text.strip raw = head.text
    · exact .inr (.inl headed)
    · rw [not_exists] at dots headed
      exact .inr (.inr (noMember_of_headless dots fun head same => headed head same.symm))

theorem noMember_of_blank (blank : Text.strip raw = []) : NoMember raw := by
  refine (noMember_of_headless ?_ ?_).1
  · simp [blank]
  · intro head nothing
    obtain ⟨c, rest, text, -⟩ := head.text_eq
    rw [blank, text] at nothing
    contradiction

end

/-! ## The stretches of an object literal -/

/-- The members of an object literal are those of its stretches. -/
theorem members_eq (body : Text) :
    members body = gather ((stretches [','] body).map memberOf) := by
  have general (raws : List Text) (offset : Nat) :
      ((piecesFrom 1 offset raws).foldr (fun piece later => do
          let entry ← entryOf piece
          let entries ← later
          return entry.toList ++ entries) (.ok [])).map (List.map Entry.member) =
        gather (raws.map memberOf) := by
    induction raws generalizing offset with
    | nil => rfl
    | cons raw raws ih =>
      rw [piecesFrom, List.map_cons]
      split
      next blank =>
        have nothing : memberOf raw = .ok none := noMember_of_blank blank
        rw [ih, nothing, gather]
        cases gather (raws.map memberOf) <;> rfl
      next =>
        rw [List.foldr_cons, ← entryOf_eq_memberOf raw (offset + Text.blankWidth raw)]
        cases entryOf ⟨offset + Text.blankWidth raw, Text.strip raw⟩ with
        | error failure => rfl
        | ok entry =>
          rw [Except.map, gather, ← ih (offset + raw.length + 1)]
          cases List.foldr _ _ (piecesFrom 1 (offset + raw.length + 1) raws) with
          | error failure => rfl
          | ok entries => cases entry <;> rfl
  exact general _ 0

end SfcLint.Script
