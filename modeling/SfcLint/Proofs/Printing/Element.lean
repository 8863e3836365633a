/-
# The elements of printed start tags

The text of a printed start tag is read once more for the element it opens: its name as written,
and its attributes one after the other, each with what stands between its quotes. They give the
bindings of the attributes, at the places of their names.
-/

import SfcLint.Proofs.Markup.Mask
import SfcLint.Proofs.Printing.Mask
import SfcLint.Proofs.Printing.Tag
import SfcLint.Proofs.Text.Except

namespace SfcLint

theorem Text.dropEndWhile_append_of_pos {p : Char → Bool} {c : Char} (dropped : p c = true)
    (t : Text) : dropEndWhile p (t ++ [c]) = dropEndWhile p t := by
  simp [dropEndWhile, dropped]

theorem Text.dropEndWhile_append_of_neg {p : Char → Bool} {c : Char} (kept : p c = false)
    (t : Text) : dropEndWhile p (t ++ [c]) = t ++ [c] := by
  induction t with
  | nil => simp [dropEndWhile, kept]
  | cons d t ih =>
    rw [dropEndWhile] at ih
    rw [List.cons_append, dropEndWhile, List.foldr_cons, ih]
    simp

namespace Printing

open Markup Pattern
open Assembly (writtenName writtenAttribute elementOf OpenElement)

variable {attributes : List Assignment} {pair : Assignment} {name body rest : Text}

theorem picks_writtenName (proper : ElementName name) (attributes : List Assignment) :
    Picks writtenName ⟨none, '<' :: (name ++ (printAttributes attributes ++ ['>']))⟩
      ⟨name.getLast?, printAttributes attributes ++ ['>']⟩ [("name", name)] := by
  obtain ⟨c, tail, split, letter, letters⟩ := proper.exists_cons
  have visible : Text.isBlank c = false :=
    isBlank_of_isElementChar (proper.letters c (by rw [split]; exact List.mem_cons_self))
  have named : Picks (some1 fun c => !Text.isBlank c && outside "/>" c)
      ⟨some '<', name ++ (printAttributes attributes ++ ['>'])⟩
      ⟨name.getLast?, printAttributes attributes ++ ['>']⟩ [] := by
    refine picks_some1 proper.nonempty (fun d member => ?_) ?_
    · rw [isBlank_of_isElementChar (proper.letters d member),
        outside_of_test (proper.letters d member) (by decide)]
      rfl
    · cases attributes with
      | nil => rintro d ⟨⟩; decide
      | cons pair attributes => rintro d ⟨⟩; decide
  have noBlanks : Picks blanks ⟨some '<', name ++ (printAttributes attributes ++ ['>'])⟩
      ⟨some '<', name ++ (printAttributes attributes ++ ['>'])⟩ [] := by
    rw [split]
    exact picks_no_blanks visible _
  exact picks_seq (picks_literal ['<']) (picks_seq noBlanks (picks_capture named))

theorem picks_writtenAttribute (proper : pair.Printable) (rest : Text) :
    Picks writtenAttribute ⟨some ' ', pair.written ++ rest⟩ ⟨some '"', rest⟩
      [("value", pair.value), ("name", pair.name)] := by
  have named : Picks (some1 fun c => !Text.isBlank c && outside "\"'>/=" c)
      ⟨some ' ', pair.name ++ '=' :: '"' :: (pair.value ++ '"' :: rest)⟩
      ⟨pair.name.getLast?, '=' :: '"' :: (pair.value ++ '"' :: rest)⟩ [] := by
    refine picks_some1 proper.nonempty (fun d member => ?_) ?_
    · exact visible_of_isAttributeChar (proper.letters d member) (by decide)
    · rintro d ⟨⟩
      decide
  rw [written_append]
  exact picks_seq (picks_capture named) (picks_optional (picks_seq (picks_no_blanks (by decide) _)
    (picks_seq (picks_literal ['=']) (picks_seq (picks_no_blanks (by decide) _)
      (picks_alt_left (picks_quoted proper rest))))))

/-- The attributes are found one after the other, each behind its space. -/
theorem mapM_hits {ε : Type} {f : Hit → Except ε Binding} {position : Position}
    (reads : ∀ (front : Text) (pair : Assignment) (later : List Assignment) (hit : Hit),
      front ++ printAttributes (pair :: later) = body → pair.Printable →
        Finds hit (front.length + 1) pair.written (printAttributes later)
          [("value", pair.value), ("name", pair.name)] →
          f hit = .ok (.ofAttribute pair.name (some pair.value)
            ((position.after front).advance ' ')))
    (printable : ∀ pair ∈ attributes, pair.Printable) (front : Text) (before : Option Char)
    (split : front ++ printAttributes attributes = body) :
    (writtenAttribute.allFrom 0 front.length before (printAttributes attributes)).mapM f =
      .ok (bindingsAt (position.after front) attributes) := by
  induction attributes generalizing front before with
  | nil => rfl
  | cons pair attributes ih =>
    rw [List.forall_mem_cons] at printable
    have written : printAttributes (pair :: attributes) =
        ' ' :: (pair.written ++ printAttributes attributes) := rfl
    have space : Refuses writtenAttribute
        ⟨before, ' ' :: (pair.written ++ printAttributes attributes)⟩ :=
      refuses_seq (refuses_capture (refuses_seq (refuses_one (by rintro d ⟨⟩; decide))))
    obtain ⟨hit, found, finds⟩ := exists_allFrom_of_picks (by simp [Assignment.written])
      (picks_writtenAttribute printable.1 (printAttributes attributes)) (front.length + 1)
    have here := reads front pair attributes hit split printable.1 finds
    have later := ih printable.2 (front ++ pair.print) (pair.written.getLast?.or (some ' '))
      (by rw [← split, List.append_assoc]; rfl)
    have length : (front ++ pair.print).length = front.length + 1 + pair.written.length := by
      simp [Assignment.print]
      omega
    rw [length, Position.after_append] at later
    rw [written, allFrom_of_refuses space, found, List.mapM_cons, here, later]
    rfl

/-- What is printed for attributes ends with a quote. -/
theorem dropEndWhile_printAttributes {p : Char → Bool} (kept : p '"' = false)
    (attributes : List Assignment) :
    Text.dropEndWhile p (printAttributes attributes) = printAttributes attributes := by
  rcases List.eq_nil_or_concat' attributes with rfl | ⟨earlier, pair, rfl⟩
  · rfl
  · have split : printAttributes (earlier ++ [pair]) =
        (printAttributes earlier ++ ' ' :: (pair.name ++ '=' :: '"' :: pair.value)) ++ ['"'] := by
      simp [printAttributes, Assignment.print, Assignment.written]
    rw [split, Text.dropEndWhile_append_of_neg kept]

/-- The element that a printed start tag opens. -/
theorem elementOf_startTag (proper : ElementName name)
    (printable : ∀ pair ∈ attributes, pair.Printable) (position : Position) :
    elementOf name (startTag name attributes) position =
      .ok ⟨name, bindingsAt (position.after ('<' :: name)) attributes, position, []⟩ := by
  have split : startTag name attributes = ('<' :: name) ++ (printAttributes attributes ++ ['>']) :=
    rfl
  have picks : Picks writtenName ⟨none, ('<' :: name) ++ (printAttributes attributes ++ ['>'])⟩
      ⟨name.getLast?, printAttributes attributes ++ ['>']⟩ [("name", name)] :=
    picks_writtenName proper attributes
  obtain ⟨hit, found, finds⟩ : ∃ hit, writtenName.leading? (startTag name attributes) = some hit ∧
      Finds hit 0 ('<' :: name) (printAttributes attributes ++ ['>']) [("name", name)] :=
    exists_leading?_of_picks picks
  have group : hit.group "name" = name := by
    rw [Hit.group, finds.group?_eq]
    rfl
  have stop : hit.stop = ('<' :: name).length := by rw [finds.stop, Nat.zero_add]
  -- Behind the name only the signs at the end are cut off, and no attribute ends with one of them.
  have inner : Text.dropEndWhile (· == '/') (Text.dropEndWhile (· == '>')
      ((startTag name attributes).drop ('<' :: name).length)) = printAttributes attributes := by
    rw [split, List.drop_left, Text.dropEndWhile_append_of_pos (by decide),
      dropEndWhile_printAttributes (by decide), dropEndWhile_printAttributes (by decide)]
  rw [elementOf, found]
  simp only [Option.map_some, Option.getD_some, group, stop, inner]
  refine Except.bind_eq_ok_iff.mpr ⟨_, mapM_hits ?_ printable [] none rfl, rfl⟩
  -- An attribute starts behind the row of those before it and one space.
  rintro front pair later hit whole proper finds
  have value : hit.group? "value" = some pair.value := by
    rw [finds.group?_eq]
    rfl
  have named : hit.group "name" = pair.name := by
    rw [Hit.group, finds.group?_eq]
    rfl
  have place : (startTag name attributes).take (('<' :: name).length + hit.start) =
      '<' :: name ++ (front ++ [' ']) := by
    rw [List.nil_append] at whole
    rw [split, finds.start, List.take_length_add_append, ← whole, List.append_assoc,
      List.take_length_add_append]
    rfl
  simp only [value, named, place, unescape_of_not_mem proper.reference, Option.mapM_some,
    unmasked_of_not_mem proper.mask]
  change Except.ok _ = _
  rw [Position.after_append, Position.after_append]
  rfl

/-! ## Runs of texts and interpolations -/

namespace Tree

/-- The tree is an element. -/
def isElement : Tree → Bool
  | element _ _ _ => true
  | _ => false

variable {trees : List Tree}

/-- Trees that do not start with a text start with an empty stretch. -/
theorem exists_segmentsFrom_printAll (leaves : ∀ tree ∈ trees, tree.isElement = false)
    (printable : AllPrintable trees) (other : trees.head?.any isText = false) :
    ∃ segments, segmentsFrom false (printAll trees) = .plain [] :: segments := by
  cases trees with
  | nil => exact ⟨[], rfl⟩
  | cons tree trees =>
    rw [AllPrintable] at printable
    cases tree with
    | element name attributes children => simp [isElement] at leaves
    | text content => simp [isText] at other
    | interpolation content =>
      have proper : Expression content := printable.1
      refine ⟨.braced (spaced content) :: segmentsFrom false (printAll trees), ?_⟩
      rw [printAll, print, List.append_assoc, List.append_assoc,
        segmentsFrom_interpolation (noneStarts_spaced proper _)]

/-- The spaces around a trimmed text are stripped. -/
theorem strip_spaced {t : Text} (trimmed : Text.strip t = t) : Text.strip (spaced t) = t := by
  have front : Text.stripStart (spaced t) = Text.stripStart (t ++ [' ']) :=
    List.dropWhile_cons_of_pos (by decide)
  rw [Text.strip, front]
  by_cases blank : Text.stripStart t = []
  · have none : t = [] := by
      rw [← trimmed, Text.strip, blank]
      rfl
    subst none
    decide
  · rw [Text.stripStart_append blank, Text.stripEnd, Text.dropEndWhile_append_of_pos (by decide)]
    exact trimmed

theorem nodesFrom_plain_nil (position : Position) (later : List Segment) :
    nodesFrom position (.plain [] :: later) = nodesFrom position later := by
  rw [nodesFrom, Position.after_nil]
  cases nodesFrom position later <;> rfl

/-- The nodes of a run are those of the texts and interpolations that it is the print of. -/
theorem nodesOfRun_printAll (leaves : ∀ tree ∈ trees, tree.isElement = false)
    (printable : AllPrintable trees) (position : Position) :
    nodesOfRun position (printAll trees) = .ok (nodesAt position trees) := by
  rw [nodesOfRun, segments]
  induction trees generalizing position with
  | nil => rfl
  | cons tree trees ih =>
    rw [List.forall_mem_cons] at leaves
    rw [AllPrintable] at printable
    have later (position : Position) := ih leaves.2 printable.2.2 position
    cases tree with
    | element name attributes children => simp [isElement] at leaves
    | text content =>
      have proper : TextContent content := printable.1
      obtain ⟨segments, split⟩ :=
        exists_segmentsFrom_printAll leaves.2 printable.2.2 (printable.2.1 rfl)
      have behind := later (position.after content)
      rw [split, nodesFrom_plain_nil] at behind
      rw [printAll, print, segmentsFrom_plain (noneStarts_of_not_mem proper.brace) split,
        List.append_nil, nodesFrom, behind]
      change Except.ok (if Text.allBlank content then _ else _) = _
      rw [if_neg (by rw [proper.visible]; decide), nodesAt, nodeAt, print]
    | interpolation content =>
      have proper : Expression content := printable.1
      have written : (Segment.braced (spaced content)).source =
          (interpolation content).print := by
        simp [Segment.source, print, braces, closingBraces]
      rw [printAll, print, List.append_assoc, List.append_assoc,
        segmentsFrom_interpolation (noneStarts_spaced proper _), nodesFrom_plain_nil, nodesFrom,
        written, later, strip_spaced proper.trimmed, nodesAt, nodeAt]
      rfl

end Tree

end Printing

end SfcLint
