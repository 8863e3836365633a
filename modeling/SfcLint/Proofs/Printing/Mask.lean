/-
# The mask over printed trees

The only braces in what is printed are those of the interpolations, so exactly the signs inside
interpolations are masked. The masked text is again the print of a tree, and its interpolations
look like text to the tokenizer.
-/

import SfcLint.Proofs.Pattern.Hits
import SfcLint.Proofs.Pattern.Spelling
import SfcLint.Proofs.Printing.Tree

namespace SfcLint

/-! ## Where no interpolation starts -/

namespace Markup

variable {sign t later : Text} {c : Char}

theorem noneStarts_append {s : Text} :
    NoneStarts sign (s ++ t) later ↔ NoneStarts sign s (t ++ later) ∧ NoneStarts sign t later := by
  induction s with
  | nil => simp [NoneStarts]
  | cons c s ih => simp [NoneStarts, ih, and_assoc]

theorem noneStarts_of_not_mem (absent : c ∉ t) : NoneStarts (c :: sign) t later := by
  induction t with
  | nil => trivial
  | cons d t ih =>
    rw [List.mem_cons, not_or] at absent
    exact ⟨fun starts => absent.1 (List.cons_prefix_cons.mp starts).1, ih absent.2⟩

/-- Two equal characters do not start in a text that does not hold them if another character
follows. -/
theorem noneStarts_pair (absent : ¬ [c, c] <:+: t) (other : later.head? ≠ some c) :
    NoneStarts [c, c] t later := by
  induction t with
  | nil => trivial
  | cons d t ih =>
    rw [List.infix_cons_iff, not_or] at absent
    refine ⟨?_, ih absent.2⟩
    intro starts
    obtain ⟨same, behind⟩ := List.cons_prefix_cons.mp starts
    cases t with
    | nil =>
      obtain ⟨rest, split⟩ := behind
      rw [List.nil_append] at split
      exact other (split ▸ rfl)
    | cons e t =>
      obtain ⟨same', -⟩ := List.cons_prefix_cons.mp behind
      exact absent.1 ⟨t, by rw [← same, ← same']; rfl⟩

/-- Text in which no interpolation starts is not masked. -/
theorem maskInterpolations_append (none : NoneStarts braces t later) :
    maskInterpolations (t ++ later) = t ++ maskInterpolations later := by
  obtain ⟨first, others, front, split, opens, -⟩ := exists_segmentsFrom false later
  cases first with
  | plain first =>
    rw [maskInterpolations, segments, segmentsFrom_plain none split, maskInterpolations, segments,
      split, List.flatMap_cons, List.flatMap_cons, Segment.maskedSource, Segment.maskedSource,
      List.append_assoc]
  | braced first => contradiction
  | unclosed first => contradiction

/-- An interpolation goes up to the first closing braces. -/
theorem segmentsFrom_interpolation (none : NoneStarts closingBraces t (closingBraces ++ later)) :
    segmentsFrom false (braces ++ (t ++ (closingBraces ++ later))) =
      .plain [] :: .braced t :: segmentsFrom false later := by
  have whole := segmentsFrom_braced none
    (show segmentsFrom true (closingBraces ++ later) = .braced [] :: segmentsFrom false later from
      rfl)
  rw [List.append_nil] at whole
  exact congrArg (_ :: ·) whole

theorem maskInterpolations_interpolation
    (none : NoneStarts closingBraces t (closingBraces ++ later)) :
    maskInterpolations (braces ++ (t ++ (closingBraces ++ later))) =
      (Segment.braced t).maskedSource ++ maskInterpolations later := by
  rw [maskInterpolations, segments, segmentsFrom_interpolation none, List.flatMap_cons,
    List.flatMap_cons]
  rfl

theorem unmasked_of_not_mem (absent : mask ∉ t) : unmasked t = t := by
  rw [unmasked]
  refine (List.map_congr_left fun c member => ?_).trans (List.map_id t)
  rw [if_neg (ne_of_mem_of_not_mem member absent)]
  rfl

theorem not_mem_masked (t : Text) : '<' ∉ masked t := by
  rw [masked, List.mem_map]
  rintro ⟨c, -, same⟩
  by_cases sign : c = '<'
  · rw [if_pos sign] at same
    exact absurd same (by decide)
  · rw [if_neg sign] at same
    exact sign same

end Markup

namespace Printing

open Markup

variable {attributes : List Assignment} {name content later : Text}

theorem noneStarts_printAttributes (printable : ∀ pair ∈ attributes, pair.Printable)
    (later : Text) : NoneStarts braces (printAttributes attributes) later := by
  induction attributes with
  | nil => trivial
  | cons pair attributes ih =>
    rw [List.forall_mem_cons] at printable
    have brace : '\x7b' ∉ pair.name := fun member =>
      absurd (printable.1.letters _ member) (by decide)
    have value : NoneStarts braces pair.value ('"' :: (printAttributes attributes ++ later)) :=
      noneStarts_pair printable.1.braces (by simp)
    rw [printAttributes, List.flatMap_cons]
    refine noneStarts_append.mpr ⟨?_, ih printable.2⟩
    refine noneStarts_append (s := [' ']).mpr ⟨noneStarts_of_not_mem (by decide), ?_⟩
    refine noneStarts_append.mpr ⟨noneStarts_of_not_mem brace, ?_⟩
    refine noneStarts_append (s := ['=', '"']).mpr ⟨noneStarts_of_not_mem (by decide), ?_⟩
    exact noneStarts_append.mpr ⟨value, noneStarts_of_not_mem (by decide)⟩

theorem ElementName.brace_not_mem (proper : ElementName name) : '\x7b' ∉ name :=
  fun member => absurd (proper.letters _ member) (by decide)

theorem noneStarts_startTag (proper : ElementName name)
    (printable : ∀ pair ∈ attributes, pair.Printable) (later : Text) :
    NoneStarts braces (startTag name attributes) later := by
  refine noneStarts_append (s := ['<']).mpr ⟨noneStarts_of_not_mem (by decide), ?_⟩
  refine noneStarts_append.mpr ⟨noneStarts_of_not_mem proper.brace_not_mem, ?_⟩
  exact noneStarts_append.mpr
    ⟨noneStarts_printAttributes printable _, noneStarts_of_not_mem (by decide)⟩

theorem noneStarts_endTag (proper : ElementName name) (later : Text) :
    NoneStarts braces (endTag name) later := by
  refine noneStarts_append (s := ['<', '/']).mpr ⟨noneStarts_of_not_mem (by decide), ?_⟩
  exact noneStarts_append.mpr
    ⟨noneStarts_of_not_mem proper.brace_not_mem, noneStarts_of_not_mem (by decide)⟩

/-- The interpolation of an expression does not end before its end. -/
theorem noneStarts_spaced (proper : Expression content) (later : Text) :
    NoneStarts closingBraces (spaced content) later := by
  refine noneStarts_append (s := [' ']).mpr ⟨noneStarts_of_not_mem (by decide), ?_⟩
  exact noneStarts_append.mpr
    ⟨noneStarts_pair proper.open? (by simp), noneStarts_of_not_mem (by decide)⟩

/-! ## Block end tags -/

section BlockEnd

open Pattern

/-- The words that start the end tag of a block. -/
def blockWord : Pattern := any [caseless "template", caseless "script", caseless "style"]

/-- The end tag of a block starts with one of the words, and the word ends there. -/
theorem mem_ways_blockEnd {cursor next : Cursor} :
    next ∈ blockEnd.ways cursor ↔
      next ∈ (seq "</" blockWord).ways cursor ∧ atEdge next = true := by
  have ends (middle : Cursor) : next ∈ edge.ways middle ↔ next = middle ∧ atEdge next = true := by
    rw [ways, List.mem_ite_nil_right, List.mem_singleton, and_comm]
    exact and_congr_right fun same => by rw [same]
  change next ∈ (seq "</" (seq blockWord edge)).ways cursor ↔ _
  simp only [ways_seq, List.mem_flatMap, ends]
  constructor
  · rintro ⟨first, inSign, second, inWord, rfl, isEdge⟩
    exact ⟨⟨first, inSign, inWord⟩, isEdge⟩
  · rintro ⟨⟨first, inSign, inWord⟩, isEdge⟩
    exact ⟨first, inSign, next, inWord, rfl, isEdge⟩

theorem takes_caseless {Q : Char → Prop} {word : String}
    (letters : ∀ letter ∈ word.toList, ∀ c : Char,
      (c.toLower == letter || (foldedTo letter).contains c) = true → Q c) :
    (caseless word).Takes Q := by
  rw [caseless]
  generalize word.toList = characters at letters
  induction characters with
  | nil => trivial
  | cons letter characters ih =>
    rw [List.forall_mem_cons] at letters
    cases characters with
    | nil => exact letters.1
    | cons next characters => exact ⟨letters.1, ih letters.2⟩

theorem blockWord_takes : (seq "</" blockWord).Takes (· ≠ ' ') := by
  have word {word : String}
      (known : word.toList.any (fun letter =>
        (' ').toLower == letter || (foldedTo letter).contains ' ') = false) :
      (caseless word).Takes (· ≠ ' ') := by
    refine takes_caseless fun letter member c passes => ?_
    rintro rfl
    exact List.any_eq_false.mp known letter member passes
  exact ⟨by simp [Takes], word (by decide), word (by decide), word (by decide)⟩

/-- What starts with the sign and holds no space ends before the first space behind a text. -/
theorem append_space_cut {front back rest taken : Text} {m : Nat} (starts : taken.head? = some '<')
    (spaceless : ' ' ∉ taken) (other : '<' ∉ back)
    (split : (front ++ ' ' :: back).drop m = taken ++ rest) :
    ∃ x, front.drop m = taken ++ x ∧ rest = x ++ ' ' :: back := by
  have sign : '<' ∈ taken := List.mem_of_head? starts
  rw [List.drop_append] at split
  have inside : m < front.length := by
    refine Nat.lt_of_not_le fun beyond => ?_
    rw [List.drop_eq_nil_of_le (by omega), List.nil_append] at split
    have member : '<' ∈ (' ' :: back).drop (m - front.length) := by
      rw [split]
      exact List.mem_append_left _ sign
    exact other ((List.mem_cons.mp (List.mem_of_mem_drop member)).resolve_left (by decide))
  rw [Nat.sub_eq_zero_of_le (Nat.le_of_lt inside), List.drop_zero,
    List.append_eq_append_iff] at split
  rcases split with ⟨x, rfl, behind⟩ | ⟨x, ahead, behind⟩
  · cases x with
    | nil => exact ⟨[], by simp, by simpa using behind.symm⟩
    | cons c x =>
      obtain ⟨rfl, -⟩ := List.cons.inj behind
      simp at spaceless
  · exact ⟨x, ahead, behind⟩

/-- Whether a word ends at a place does not depend on a space behind the text. -/
theorem atEdge_space {place other : Cursor} {back : Text}
    (behind : place.rest = other.rest ++ ' ' :: back) (before : other.before = place.before) :
    atEdge other = atEdge place := by
  rw [atEdge, atEdge, behind, before]
  cases other.rest with
  | nil =>
    have blank : Text.isWordChar ' ' = false := by decide
    simp [blank]
  | cons c rest => rfl

/-- The end tag of a block starts with its sign, and its first word is taken as it is. -/
theorem exists_taken_of_blockEnd {cursor next : Cursor} (member : next ∈ blockEnd.ways cursor) :
    ∃ (taken : Text) (aside : List Aside), Spells (seq "</" blockWord) taken aside ∧
      Leads cursor taken aside next ∧ taken.head? = some '<' ∧ ' ' ∉ taken := by
  obtain ⟨inWord, -⟩ := mem_ways_blockEnd.mp member
  obtain ⟨taken, aside, spells, leads⟩ := exists_spells_of_mem_ways (by decide) inWord
  obtain ⟨taken', spaceless, reaches⟩ := exists_taken_of_mem_ways blockWord_takes inWord
  obtain rfl : taken = taken' := leads.take_eq.symm.trans reaches.take_eq
  refine ⟨taken, aside, spells, leads, ?_, fun space => spaceless _ space rfl⟩
  obtain ⟨_, word, _, _, ⟨rfl, rfl⟩, -, rfl, -⟩ := spells
  rfl

/-- The end tag of a block that starts before a space ends before it. -/
theorem exists_blockEnd_of_space {front back : Text} {m : Nat} {cursor next : Cursor}
    (other : '<' ∉ back) (stands : cursor.rest = (front ++ ' ' :: back).drop m)
    (member : next ∈ blockEnd.ways cursor) :
    m ≤ front.length ∧ ∃ last, last ∈ blockEnd.ways (.within front m) := by
  obtain ⟨taken, aside, spells, leads, starts, spaceless⟩ := exists_taken_of_blockEnd member
  obtain ⟨x, ahead, behind⟩ :=
    append_space_cut starts spaceless other (stands.symm.trans leads.rest)
  obtain ⟨c, tail, rfl⟩ : ∃ c tail, taken = c :: tail :=
    List.exists_cons_of_ne_nil (by rintro rfl; simp at starts)
  constructor
  · have shorter := congrArg List.length ahead
    rw [List.length_drop, List.length_append, List.length_cons] at shorter
    omega
  · obtain ⟨last, inWord, leads'⟩ :
        ∃ last ∈ (seq "</" blockWord).ways (.within front m),
          Leads (.within front m) (c :: tail) aside last :=
      exists_way_of_spells (by decide) spells ⟨x, ahead.symm⟩
    have rest : last.rest = x := List.append_cancel_left (leads'.rest.symm.trans ahead)
    have before : last.before = next.before := by
      rw [leads'.before, leads.before, List.getLast?_cons]
      rfl
    rw [← rest] at behind
    refine ⟨last, mem_ways_blockEnd.mpr ⟨inWord, ?_⟩⟩
    rw [atEdge_space behind before]
    exact (mem_ways_blockEnd.mp member).2

/-- Spaces and braces around an expression make no end tag of a block. -/
theorem not_occursIn_spaced (proper : Expression content) :
    blockEnd.occursIn (Segment.braced (spaced content)).source = false := by
  have written : (Segment.braced (spaced content)).source =
      '\x7b' :: '\x7b' :: ' ' :: (content ++ ' ' :: ['\x7d', '\x7d']) := by
    simp [Segment.source, spaced]
  rw [Bool.eq_false_iff, written]
  intro occurs
  obtain ⟨hit, found⟩ := Option.isSome_iff_exists.mp occurs
  obtain ⟨n, inside, here, -⟩ := first?_eq_some found
  obtain ⟨next, member, -⟩ := hitAt?_eq_some here
  -- The sign stands behind the opening braces and the space.
  obtain ⟨m, rfl⟩ : ∃ m, n = m + 3 := by
    obtain ⟨taken, aside, -, leads, starts, -⟩ := exists_taken_of_blockEnd member
    have sign := congrArg List.head? leads.rest
    rw [Cursor.within_rest, List.head?_append, starts] at sign
    rcases n with _ | _ | _ | m
    · simp at sign
    · simp at sign
    · simp at sign
    · exact ⟨m, rfl⟩
  have other : '<' ∉ ['\x7d', '\x7d'] := by decide
  obtain ⟨bound, last, member'⟩ := exists_blockEnd_of_space other
    (show _ = (content ++ ' ' :: ['\x7d', '\x7d']).drop m from rfl) member
  have absent : blockEnd.first? content = none :=
    Option.not_isSome_iff_eq_none.mp (Bool.eq_false_iff.mp proper.inside)
  have missing := first?_eq_none absent bound
  rw [hitAt?_eq_none_iff] at missing
  rw [missing] at member'
  contradiction

end BlockEnd

/-! ## The masked print -/

namespace Tree

mutual

/-- The tree as it is written, with the signs inside its interpolations masked. -/
def maskedPrint : Tree → Text
  | element name attributes children =>
      startTag name attributes ++ (maskedPrintAll children ++ endTag name)
  | text content => content
  | interpolation content => braces ++ (spaced (masked content) ++ closingBraces)

/-- Some trees, one after the other, with the signs inside interpolations masked. -/
def maskedPrintAll : List Tree → Text
  | [] => []
  | tree :: trees => maskedPrint tree ++ maskedPrintAll trees

end

theorem maskedSource_spaced (proper : Expression content) :
    (Segment.braced (spaced content)).maskedSource =
      braces ++ (spaced (masked content) ++ closingBraces) := by
  rw [Segment.maskedSource, if_neg (by rw [not_occursIn_spaced proper]; decide)]
  simp [Segment.source, masked, spaced, braces, closingBraces]

mutual

theorem maskInterpolations_print : ∀ (tree : Tree) (later : Text), tree.Printable →
    maskInterpolations (tree.print ++ later) = tree.maskedPrint ++ maskInterpolations later
  | element name attributes children, later, printable => by
    rw [Printable] at printable
    obtain ⟨proper, pairs, below⟩ := printable
    rw [print, maskedPrint, List.append_assoc, List.append_assoc,
      maskInterpolations_append (noneStarts_startTag proper pairs _),
      maskInterpolations_printAll children _ below,
      maskInterpolations_append (noneStarts_endTag proper _), List.append_assoc, List.append_assoc]
  | text content, later, printable => by
    rw [Printable] at printable
    rw [print, maskedPrint, maskInterpolations_append (noneStarts_of_not_mem printable.brace)]
  | interpolation content, later, printable => by
    rw [Printable] at printable
    rw [print, maskedPrint, List.append_assoc, List.append_assoc,
      maskInterpolations_interpolation (noneStarts_spaced printable _),
      maskedSource_spaced printable]

/-- Exactly the signs inside interpolations are masked. -/
theorem maskInterpolations_printAll : ∀ (trees : List Tree) (later : Text), AllPrintable trees →
    maskInterpolations (printAll trees ++ later) =
      maskedPrintAll trees ++ maskInterpolations later
  | [], _, _ => rfl
  | tree :: trees, later, printable => by
    rw [AllPrintable] at printable
    rw [printAll, maskedPrintAll, List.append_assoc,
      maskInterpolations_print tree _ printable.1,
      maskInterpolations_printAll trees later printable.2.2, List.append_assoc]

end

/-- The masked print hides signs of the print, and nothing else. -/
theorem hides_printAll {trees : List Tree} (printable : AllPrintable trees) :
    Hides (printAll trees) (maskedPrintAll trees) := by
  have hides := hides_maskInterpolations (printAll trees ++ [])
  rw [maskInterpolations_printAll trees [] printable] at hides
  rwa [List.append_nil, show maskInterpolations [] = [] from rfl, List.append_nil] at hides

end Tree

end Printing

end SfcLint
