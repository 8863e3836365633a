/-
# Closed texts behind brackets and between commas

A bracket is closed behind a closed text as it would be without it, so the text stands in the span
as a whole, whatever follows. Between commas closed texts are the stretches of a list, and a list
of some that are not blank has just these as its parts, without the blanks around them.
-/

import SfcLint.Proofs.Script.FunctionForms
import SfcLint.Proofs.Script.ObjectText

namespace SfcLint.Script

variable {signs t after : Text} {kind : Bracket}

theorem NestedWithout.weaken {signs' : Text} {front : List Lexeme} (fewer : signs' ⊆ signs)
    (nested : NestedWithout signs front) : NestedWithout signs' front := by
  induction nested with
  | nil => exact .nil
  | pass plain other _ ih => exact .pass plain (fun c listed => other c (fewer listed)) ih
  | group kind inner _ ih => exact .group kind inner ih

/-- A text that is closed without some signs is closed without fewer of them. -/
theorem Closed.weaken {signs' : Text} (fewer : signs' ⊆ signs) (closed : Closed signs t) :
    Closed signs' t :=
  ⟨closed.nested.weaken fewer, closed.ended⟩

/-! ## Behind a bracket -/

/-- A bracket before a closed text is closed where the one that stands behind the text would be. -/
theorem spanAt?_closed (closed : Closed signs t) (apart : Apart t after) (before : Text) :
    spanAt? (before ++ kind.opener :: (t ++ after)) before.length =
      (lexemeClosing [kind] (lexemes after)).map fun n =>
        ⟨before.length, before.length + (n + t.length), t ++ after.take (n - 1)⟩ := by
  have opens : (before ++ kind.opener :: (t ++ after))[before.length]? = some kind.opener := by
    simp
  have behind : (before ++ kind.opener :: (t ++ after)).drop (before.length + 1) = t ++ after := by
    rw [← List.drop_drop, List.drop_left, List.drop_one, List.tail_cons]
  rw [spanAt?_opener opens, behind, closed.lexemes_append apart,
    lexemeClosing_nested kind [] closed.nested.nested, textOf_lexemes, Option.map_map]
  cases ends : lexemeClosing [kind] (lexemes after) with
  | none => rfl
  | some n =>
    -- The closing bracket takes one character at least.
    obtain ⟨inner, -, rfl⟩ := lexemeClosing_eq_some_iff.mp ends
    have width : (textOf inner).length + 1 + t.length - 1 = t.length + (textOf inner).length := by
      omega
    simp only [Option.map_some, Function.comp_apply, width, List.take_length_add_append,
      Nat.add_sub_cancel]

theorem apart_closer (kind : Bracket) (t after : Text) : Apart t (kind.closer :: after) := by
  cases kind <;> exact apart_cons (by decide) (by decide) t after

theorem lexemes_closer (kind : Bracket) (t : Text) :
    lexemes (kind.closer :: t) = .mark kind.closer :: lexemes t := by
  refine lexemes_of_mark ?_
  cases kind <;> rfl

/-- Behind a closed text a bracket is closed by the first closing one. -/
theorem closing_closed (closed : Closed signs t) (kind : Bracket) (after : Text) :
    closing 0 [.bracket kind] (t ++ kind.closer :: after) = some (t.length + 1) := by
  have whole := closing_brackets [kind] (t ++ kind.closer :: after)
  rw [closed.lexemes_append (apart_closer kind t after), lexemes_closer,
    lexemeClosing_nested kind [] closed.nested.nested, lexemeClosing_closer, textOf_lexemes,
    lexemeClosing] at whole
  refine whole.trans ?_
  rw [Option.map_some, Option.map_some, Nat.zero_add, Nat.add_comm]

/-- A closed text fits between two brackets of a kind. -/
theorem Closed.fits (closed : Closed signs t) (kind : Bracket) : kind.Fits t := by
  have opens : (kind.opener :: (t ++ [kind.closer]))[0]? = some kind.opener := rfl
  have found := matching?_opener opens
  rw [spanAt?] at found
  simp only [List.drop_zero, Bracket.opened?_opener, closing_closed closed kind []] at found
  rw [Bracket.Fits]
  exact found.trans (by simp)

/-! ## Between commas -/

theorem apart_comma (t after : Text) : Apart t (',' :: after) :=
  apart_cons (by decide) (by decide) t after

/-- A closed text before a comma is the first stretch. -/
theorem Closed.stretches_cons (closed : Closed [','] t) (rest : Text) :
    stretches [','] (t ++ ',' :: rest) = t :: stretches [','] rest := by
  have comma : lexemes (',' :: rest) = .mark ',' :: lexemes rest := lexemes_of_mark rfl
  rw [stretches_eq, closed.lexemes_append (apart_comma t rest), comma,
    splitLexemes_of_closed closed, List.map_cons, textOf_lexemes, ← stretches_eq]

/-- A closed text alone is the only stretch. -/
theorem Closed.stretches_eq (closed : Closed [','] t) : stretches [','] t = [t] := by
  have alone := closed.nested.splitLexemes_append []
  rw [List.append_nil] at alone
  rw [Script.stretches_eq, alone]
  simp [splitLexemes, prepend, textOf_lexemes]

/-- The texts between commas are the stretches without the blanks around them, if not blank. -/
theorem splitCommas_eq (t : Text) :
    splitCommas t = ((stretches [','] t).map Text.strip).filter (· ≠ []) := by
  have texts (gap offset : Nat) (raws : List Text) :
      (piecesFrom gap offset raws).map (·.text) = (raws.map Text.strip).filter (· ≠ []) := by
    -- Induction on the stretches: their places do not matter for what their texts are.
    induction raws generalizing offset with
    | nil => rfl
    | cons raw raws ih =>
      rw [piecesFrom_cons, List.map_cons]
      split
      next blank => rw [ih, blank, List.filter_cons_of_neg (by simp)]
      next visible => rw [List.map_cons, ih, List.filter_cons_of_pos (by simpa using visible)]
  exact texts _ _ _

/-- Blanks around a closed text leave it closed. They complete no comment sign with it. -/
theorem Closed.around {front back : Text} (visible : ∀ d ∈ signs, Text.isBlank d = false)
    (closed : Closed signs t) (blank : ∀ c ∈ front, Text.isBlank c = true)
    (blank' : ∀ c ∈ back, Text.isBlank c = true) : Closed signs (front ++ (t ++ back)) := by
  have last := closed_of_blanks visible blank'
  refine (closed_of_blanks visible blank).append (closed.append last ?_)
    (apart_of_not_mem (Text.not_mem_of_blanks rfl blank) _)
  intro _ c first
  have behind := blank' c (List.mem_of_head? first)
  constructor
  · rintro rfl
    contradiction
  · rintro rfl
    contradiction

/-- Closed texts with a sign and a blank between them are closed together. -/
theorem Closed.join {sign : Char} (between : Closed signs [sign, ' ']) (slash : sign ≠ '/')
    (star : sign ≠ '*') {texts : List Text} (closed : ∀ t ∈ texts, Closed signs t) :
    Closed signs (Text.join [sign, ' '] texts) := by
  induction texts with
  | nil => exact closed_nil
  | cons first others ih =>
    rw [List.forall_mem_cons] at closed
    cases others with
    | nil =>
      rw [Text.join_singleton]
      exact closed.1
    | cons next others =>
      -- Neither the sign behind the first text nor the next text behind the blank begins a comment.
      have noSlash : '/' ∉ [sign, ' '] := by simp [slash.symm]
      rw [Text.join_cons_cons]
      exact closed.1.append (between.append (ih closed.2) (apart_of_not_mem noSlash _))
        (apart_cons slash star _ _)

/-- A list of closed texts is closed itself but for its commas. -/
theorem closed_join {texts : List Text} (closed : ∀ t ∈ texts, Closed [','] t) :
    Closed [] (Text.join ", " texts) :=
  Closed.join (closed_of_all (by decide)) (by decide) (by decide) fun t member =>
    (closed t member).weaken (List.nil_subset _)

/-- The stretches of a list of closed texts are these texts but for the blanks around them. -/
theorem map_strip_stretches_join {first : Text} {others : List Text}
    (closed : ∀ t ∈ first :: others, Closed [','] t)
    (visible : ∀ t ∈ first :: others, Text.strip t ≠ []) {front back : Text}
    (blank : ∀ c ∈ front, Text.isBlank c = true) (blank' : ∀ c ∈ back, Text.isBlank c = true) :
    (stretches [','] (front ++ (Text.join ", " (first :: others) ++ back))).map Text.strip =
      (first :: others).map Text.strip := by
  -- Induction on the others: the blank behind a comma is the front of the next text.
  induction others generalizing first front with
  | nil =>
    rw [List.forall_mem_singleton] at closed visible
    rw [Text.join_singleton, (closed.around not_isBlank_comma blank blank').stretches_eq,
      List.map_singleton, List.map_singleton, Text.strip_blanks visible blank blank']
  | cons next others ih =>
    rw [List.forall_mem_cons] at closed visible
    have none : ∀ c ∈ [], Text.isBlank c = true := List.forall_mem_nil _
    have cut : front ++ (Text.join ", " (first :: next :: others) ++ back) =
        (front ++ (first ++ [])) ++ ',' ::
          ([' '] ++ (Text.join ", " (next :: others) ++ back)) := by
      rw [Text.join_cons_cons]
      simp
    rw [cut, (closed.1.around not_isBlank_comma blank none).stretches_cons, List.map_cons,
      ih closed.2 visible.2 Text.isBlank_space, Text.strip_blanks visible.1 blank none]
    rfl

/-- A list of closed texts that are not blank has these as its parts, also with blanks around. -/
theorem splitCommas_join {texts : List Text} (closed : ∀ t ∈ texts, Closed [','] t)
    (visible : ∀ t ∈ texts, Text.strip t ≠ []) {front back : Text}
    (blank : ∀ c ∈ front, Text.isBlank c = true) (blank' : ∀ c ∈ back, Text.isBlank c = true) :
    splitCommas (front ++ (Text.join ", " texts ++ back)) = texts.map Text.strip := by
  rw [splitCommas_eq]
  cases texts with
  | nil =>
    -- A list of none is one stretch of blanks, and that is no part.
    have none : Text.strip (front ++ ([] ++ back)) = [] := by
      rw [Text.strip, Text.stripStart_blanks blank, List.nil_append, ← List.append_nil back,
        Text.stripStart_blanks blank']
      rfl
    have alone := (@closed_nil [',']).around not_isBlank_comma blank blank'
    have joined : Text.join ", " [] = [] := rfl
    rw [joined, alone.stretches_eq, List.map_singleton, none]
    rfl
  | cons first others =>
    rw [map_strip_stretches_join closed visible blank blank', List.filter_eq_self]
    intro stripped member
    obtain ⟨t, inside, rfl⟩ := List.mem_map.mp member
    simpa using visible t inside

/-- A list of closed texts without blanks around them has these texts as its parts. -/
theorem splitCommas_join_of_trimmed {texts : List Text} (closed : ∀ t ∈ texts, Closed [','] t)
    (trimmed : ∀ t ∈ texts, Text.Trimmed t) {front back : Text}
    (blank : ∀ c ∈ front, Text.isBlank c = true) (blank' : ∀ c ∈ back, Text.isBlank c = true) :
    splitCommas (front ++ (Text.join ", " texts ++ back)) = texts := by
  have stripped : ∀ t ∈ texts, Text.strip t = t := fun t member => (trimmed t member).strip_eq.1
  have visible : ∀ t ∈ texts, Text.strip t ≠ [] := by
    intro t member
    rw [stripped t member]
    exact (trimmed t member).nonempty
  rw [splitCommas_join closed visible blank blank']
  exact (List.map_congr_left stripped).trans (List.map_id texts)

end SfcLint.Script
