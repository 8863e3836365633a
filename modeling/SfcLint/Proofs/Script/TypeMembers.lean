/-
# Members of type literals

A type literal is written as its members, each a name, a colon and a type. To find the members,
everything inside the brackets of the types is blanked. What is left of a type begins no member, for
a member begins behind a semicolon, a comma, a line break or a brace: the first three stand in a
type only inside brackets, and behind a brace or a line break that was left there are only blanks up
to the closing bracket.
-/

import SfcLint.Proofs.Pattern.Preference
import SfcLint.Proofs.Script.ClosedLists
import SfcLint.Proofs.Script.ObjectText
import SfcLint.Script.Props

namespace SfcLint.Script

variable {signs t inner shown rest : Text} {c : Char}

/-! ## Texts without literals -/

/-- Every bracket of the text is closed, and outside the brackets none of the signs stands. -/
inductive Grouped (signs : Text) : Text → Prop
  | nil : Grouped signs []
  | pass {c : Char} {t : Text} :
      (Lexeme.mark c).isBracket = false → c ∉ signs → Grouped signs t → Grouped signs (c :: t)
  | group (kind : Bracket) {inner t : Text} :
      Closed [] inner → Grouped signs t →
        Grouped signs (kind.opener :: (inner ++ kind.closer :: t))

theorem Nested.without {front : List Lexeme} (nested : Nested front) : NestedWithout [] front := by
  induction nested with
  | nil => exact .nil
  | pass plain _ ih => exact .pass plain (fun _ => nofun) ih
  | group kind inner _ _ ih => exact .group kind inner ih

theorem Closed.grouped (closed : Closed signs t) (plain : ∀ c ∈ t, BeginsNoLiteral c) :
    Grouped signs t := by
  have nested := closed.nested
  rw [lexemes_of_beginsNoLiteral plain] at nested
  clear closed
  -- Induction on the nesting: without literals each lexeme is one character.
  generalize row : t.map Lexeme.mark = front at nested
  induction nested generalizing t with
  | nil =>
    obtain rfl := List.map_eq_nil_iff.mp row
    exact .nil
  | pass other outside _ ih =>
    obtain ⟨c, t, rfl, rfl, later⟩ := List.map_eq_cons_iff.mp row
    rw [List.forall_mem_cons] at plain
    exact .pass other (fun listed => outside c listed rfl) (ih plain.2 later)
  | group kind nested _ ih =>
    obtain ⟨c, t, rfl, first, behind⟩ := List.map_eq_cons_iff.mp row
    obtain ⟨inner, t, rfl, rfl, closes⟩ := List.map_eq_append_iff.mp behind
    obtain ⟨d, t, rfl, last, later⟩ := List.map_eq_cons_iff.mp closes
    obtain rfl := Lexeme.mark.inj first
    obtain rfl := Lexeme.mark.inj last
    rw [List.forall_mem_cons, List.forall_mem_append, List.forall_mem_cons] at plain
    exact .group kind (closed_of_marks plain.2.1 nested.without) (ih plain.2.2.2 later)

/-! ## What is left of them -/

theorem topLevelFrom_cons (plain : Bracket.opened? c = none) (t : Text) :
    topLevelFrom 0 (c :: t) = c :: topLevelFrom 0 t := by
  rw [topLevelFrom, plain]

theorem topLevelFrom_append (plain : ∀ c ∈ t, Bracket.opened? c = none) (after : Text) :
    topLevelFrom 0 (t ++ after) = t ++ topLevelFrom 0 after := by
  induction t with
  | nil => rfl
  | cons c t ih =>
    rw [List.forall_mem_cons] at plain
    rw [List.cons_append, topLevelFrom_cons plain.1, ih plain.2]
    rfl

theorem topLevelFrom_blanking (inner after : Text) :
    topLevelFrom inner.length (inner ++ after) = blanked inner ++ topLevelFrom 0 after := by
  induction inner with
  | nil => rfl
  | cons c inner ih =>
    rw [List.length_cons, List.cons_append, topLevelFrom, ih]
    rfl

theorem topLevelFrom_group (closed : Closed signs inner) (kind : Bracket) (after : Text) :
    topLevelFrom 0 (kind.opener :: (inner ++ kind.closer :: after)) =
      kind.opener :: (blanked inner ++ kind.closer :: topLevelFrom 0 after) := by
  rw [topLevelFrom, Bracket.opened?_opener]
  dsimp only
  rw [closing_closed closed kind after]
  dsimp only
  rw [Nat.add_sub_cancel, topLevelFrom_blanking, topLevelFrom_cons (Bracket.opened?_closer kind)]

theorem isBlank_of_mem_blanked (member : c ∈ blanked t) : Text.isBlank c = true := by
  obtain ⟨d, -, rfl⟩ := List.mem_map.mp member
  split
  next same => rw [same]; decide
  next => decide

/-! ## Where no member begins -/

open Pattern

/-- The signs behind which a member may begin. -/
def memberSigns : Text := ";,\n\x7b".toList

/-- A member of a type literal behind the sign before it. -/
def memberBehind : Pattern :=
  all [
    blanks,
    optional (all ["readonly", blanks1]),
    any [
      capture "name" identifier,
      all ["'", capture "name" (some1 (outside "'")), "'"],
      all ["\"", capture "name" (some1 (outside "\"")), "\""]],
    blanks, optional "?", blanks, ":"]

theorem typeMember_eq :
    typeMember = seq (any [start, one (among ";,\n\x7b")]) memberBehind := rfl

/-- Inside a text no member begins without a sign. -/
theorem refuses_typeMember {before : Char} (other : c ∉ memberSigns) :
    Refuses typeMember ⟨some before, c :: rest⟩ := by
  have noSign : among ";,\n\x7b" c = false := by
    rw [Bool.eq_false_iff]
    intro listed
    exact other (List.contains_iff_mem.mp listed)
  refine refuses_seq (refuses_alt (refuses_start before) (refuses_one ?_))
  rintro d ⟨⟩
  exact noSign

/-- Only a letter, a quote or a blank begins a member behind its sign. -/
theorem refuses_memberBehind {blanks : Text} (blank : ∀ d ∈ blanks, Text.isBlank d = true)
    (kind : Bracket) (rest : Text) (before : Option Char) :
    Refuses memberBehind ⟨before, blanks ++ kind.closer :: rest⟩ := by
  have visible : Text.isBlank kind.closer = false := by cases kind <;> decide
  refine refuses_many_seq (by rintro c ⟨⟩; exact visible) ?_
  rintro front back rfl before
  -- Wherever the run of blanks ends, the next character is a blank or the closing bracket.
  obtain ⟨c, later, split, letter, single, double⟩ : ∃ c later,
      back ++ kind.closer :: rest = c :: later ∧ Text.isNameStart c = false ∧ c ≠ '\'' ∧
        c ≠ '"' := by
    cases back with
    | nil =>
      refine ⟨kind.closer, rest, rfl, ?_⟩
      cases kind <;> decide
    | cons d back =>
      have isBlank := blank d (by simp)
      refine ⟨d, _, rfl, ?_, ?_, ?_⟩
      · rw [← Bool.not_eq_true]
        intro starts
        have inside := Text.isNameChar_of_isNameStart starts
        rw [Text.isNameChar_of_isBlank isBlank] at inside
        contradiction
      · rintro rfl
        contradiction
      · rintro rfl
        contradiction
  have noWord : ¬ "readonly".toList <+: c :: later := by
    refine not_prefix_of_other rfl ?_
    rintro rfl
    contradiction
  have noQuote {sign : Char} (other : c ≠ sign) : ¬ [sign] <+: c :: later :=
    not_prefix_of_other rfl other.symm
  rw [split]
  exact refuses_optional_seq (refuses_seq (refuses_literal noWord)) (refuses_seq (refuses_alt
    (refuses_capture (refuses_seq (refuses_one (by rintro d ⟨⟩; exact letter))))
    (refuses_alt (refuses_seq (refuses_literal (noQuote single)))
      (refuses_seq (refuses_literal (noQuote double))))))

/-- In the text no member is found, wherever it stands behind a character. -/
def Memberless (t : Text) : Prop :=
  ∀ (rest : Text) (offset : Nat) (before : Char), ∃ offset' before',
    typeMember.allFrom 0 offset (some before) (t ++ rest) =
      typeMember.allFrom 0 offset' (some before') rest

theorem memberless_nil : Memberless [] := fun _ offset before => ⟨offset, before, rfl⟩

theorem memberless_cons
    (none : ∀ before rest, Refuses typeMember ⟨some before, c :: (t ++ rest)⟩)
    (later : Memberless t) : Memberless (c :: t) := by
  intro rest offset before
  obtain ⟨offset', before', same⟩ := later rest (offset + 1) c
  refine ⟨offset', before', ?_⟩
  rw [List.cons_append, allFrom_of_refuses (none before rest), same]

theorem Memberless.append {t' : Text} (none : Memberless t) (none' : Memberless t') :
    Memberless (t ++ t') := by
  intro rest offset before
  obtain ⟨offset', before', same⟩ := none (t' ++ rest) offset before
  obtain ⟨offset'', before'', same'⟩ := none' rest offset' before'
  exact ⟨offset'', before'', by rw [List.append_assoc, same, same']⟩

/-- Neither a sign before blanks and a closing bracket begins a member, nor does a blank there. -/
theorem memberless_group (kind : Bracket) {blanks : Text}
    (blank : ∀ d ∈ blanks, Text.isBlank d = true) (c : Char) :
    Memberless (c :: (blanks ++ [kind.closer])) := by
  have none {blanks : Text} (blank : ∀ d ∈ blanks, Text.isBlank d = true) (c before : Char)
      (rest : Text) : Refuses typeMember ⟨some before, c :: (blanks ++ [kind.closer] ++ rest)⟩ := by
    rw [typeMember_eq, List.append_assoc]
    exact refuses_alt_seq (refuses_seq (refuses_start before))
      (refuses_one_seq (refuses_memberBehind blank kind rest _))
  -- Induction on the blanks: each of them is the character before the others.
  induction blanks generalizing c with
  | nil =>
    have closer : kind.closer ∉ memberSigns := by cases kind <;> decide
    exact memberless_cons (none blank c)
      (memberless_cons (fun _ _ => refuses_typeMember closer) memberless_nil)
  | cons d blanks ih =>
    exact memberless_cons (none blank c) (ih (List.forall_mem_cons.mp blank).2 d)

/-- The signs that stand in the type of a member inside brackets only. -/
def typeSigns : Text := ",;:\n".toList

/-- What is left of a type begins no member. -/
theorem Grouped.exists_shown (grouped : Grouped typeSigns t) :
    ∃ shown, (∀ after, topLevelFrom 0 (t ++ after) = shown ++ topLevelFrom 0 after) ∧
      Memberless shown := by
  induction grouped with
  | nil => exact ⟨[], fun _ => rfl, memberless_nil⟩
  | @pass c t plain outside _ ih =>
    obtain ⟨shown, left, none⟩ := ih
    rw [Lexeme.isBracket, Bool.or_eq_false_iff, Option.isSome_eq_false_iff,
      Option.isNone_iff_eq_none] at plain
    -- A sign would stand outside all brackets or be a brace, and a brace is no plain character.
    have other : c ∉ memberSigns := by
      intro listed
      have signs : ∀ d ∈ memberSigns, d ∈ typeSigns ∨ d = Bracket.curly.opener :=
        List.all_iff_forall_prop.mp (by decide)
      rcases signs c listed with listed' | rfl
      · exact outside listed'
      · exact absurd plain.1 (by decide)
    refine ⟨c :: shown, ?_, memberless_cons (fun _ _ => refuses_typeMember other) none⟩
    intro after
    rw [List.cons_append, topLevelFrom_cons plain.1, left]
    rfl
  | @group kind inner t closed _ ih =>
    obtain ⟨shown, left, none⟩ := ih
    have group := memberless_group kind (fun _ => isBlank_of_mem_blanked (t := inner)) kind.opener
    refine ⟨kind.opener :: (blanked inner ++ [kind.closer]) ++ shown, ?_, group.append none⟩
    intro after
    have whole : kind.opener :: (inner ++ kind.closer :: t) ++ after =
        kind.opener :: (inner ++ kind.closer :: (t ++ after)) := by simp
    rw [whole, topLevelFrom_group closed, left]
    simp

/-! ## Members -/

/-- A prop as it is written: its name, its type, and whether a type literal marks it as one that
stays as it is or as one that may be left out. -/
structure WrittenProp where
  name : Text
  type : Text
  isReadonly : Bool
  isOptional : Bool
  identifier : KeyForm.name.Proper name
  trimmed : Text.Trimmed type
  plain : ∀ c ∈ type, BeginsNoLiteral c
  closed : Closed typeSigns type

namespace WrittenProp

/-- The mark behind the name. -/
def mark (prop : WrittenProp) : Text := if prop.isOptional then ['?'] else []

/-- The word before the name. -/
def word (prop : WrittenProp) : Text :=
  if prop.isReadonly then "readonly".toList ++ [' '] else []

/-- The prop as a member of a type literal, up to the colon. -/
def head (prop : WrittenProp) : Text := prop.word ++ (prop.name ++ prop.mark)

/-- The prop as a member of a type literal. -/
def member (prop : WrittenProp) : Text := prop.head ++ ':' :: ' ' :: prop.type

variable (prop : WrittenProp)

theorem mark_stops (rest : Text) :
    ∀ c ∈ (prop.mark ++ ':' :: rest).head?, Text.isNameChar c = false ∧ Text.isBlank c = false := by
  unfold mark
  cases prop.isOptional with
  | true =>
    rintro c ⟨⟩
    decide
  | false =>
    rintro c ⟨⟩
    decide

theorem visible (rest : Text) : ∀ c ∈ (prop.name ++ rest).head?, Text.isBlank c = false :=
  (trimmed_of_identifier prop.identifier).not_isBlank_head? rest

/-- The word before the name is passed over, and a name that begins with the word is not taken for
it. -/
theorem picks_word (rest : Text) (before : Option Char) :
    ∃ last, Picks (optional (all ["readonly", blanks1]))
      ⟨before, prop.head ++ ':' :: rest⟩ ⟨last, prop.name ++ (prop.mark ++ ':' :: rest)⟩ [] := by
  have split : prop.head ++ ':' :: rest =
      prop.word ++ (prop.name ++ (prop.mark ++ ':' :: rest)) := by simp [head]
  rw [split, word]
  cases prop.isReadonly with
  | true =>
    have picks := picks_seq (@picks_literal before ([' '] ++ _) "readonly".toList)
      (picks_some1 (by decide) Text.isBlank_space (prop.visible (prop.mark ++ ':' :: rest)))
    exact ⟨_, picks_optional picks⟩
  | false =>
    refine ⟨before, picks_optional_of_refuses (refuses_literal_seq ?_)⟩
    intro behind same before
    have letters : ∀ c ∈ "readonly".toList, Text.isNameChar c = true :=
      List.all_eq_true.mp (by decide)
    have stops := prop.mark_stops rest
    have ends := fun c first => (stops c first).1
    obtain ⟨more, name⟩ := prefix_of_letters letters ends ⟨_, same.symm⟩
    rw [← name, if_neg Bool.false_ne_true, List.nil_append, List.append_assoc,
      List.append_cancel_left_eq] at same
    rw [← same]
    refine refuses_seq (refuses_one fun c first => ?_)
    -- Behind the word the name goes on or it ends with a sign.
    cases more with
    | nil => exact (stops c first).2
    | cons d more =>
      obtain rfl := Option.some.inj first
      have inside : Text.isNameChar d = true := prop.identifier.inside d (by rw [← name]; simp)
      rw [← Bool.not_eq_true]
      intro blank
      rw [Text.isNameChar_of_isBlank blank] at inside
      exact absurd inside Bool.false_ne_true

theorem picks_mark (rest : Text) (before : Option Char) :
    Picks (all [blanks, optional "?", blanks, ":"]) ⟨before, prop.mark ++ ':' :: rest⟩
      ⟨some ':', rest⟩ [] := by
  unfold mark
  cases prop.isOptional with
  | true =>
    exact picks_seq (picks_no_blanks (by decide) _) (picks_seq
      (picks_optional (picks_literal ['?']))
      (picks_seq (picks_no_blanks (by decide) _) (picks_literal [':'])))
  | false =>
    have noMark : ¬ ['?'] <+: ':' :: rest := not_prefix_of_other rfl (by decide)
    exact picks_seq (picks_no_blanks (by decide) _) (picks_seq
      (picks_optional_of_refuses (refuses_literal noMark))
      (picks_seq (picks_no_blanks (by decide) _) (picks_literal [':'])))

/-- The member is found behind its sign and a blank. -/
theorem picks_member (rest : Text) (before : Option Char) :
    Picks memberBehind ⟨before, [' '] ++ (prop.head ++ ':' :: rest)⟩ ⟨some ':', rest⟩
      [("name", prop.name)] := by
  have starts : ∀ c ∈ (prop.head ++ ':' :: rest).head?, Text.isBlank c = false := by
    rw [head, List.append_assoc, word]
    cases prop.isReadonly with
    | true =>
      rintro c ⟨⟩
      decide
    | false =>
      rw [if_neg Bool.false_ne_true, List.nil_append, List.append_assoc]
      exact prop.visible _
  obtain ⟨last, word⟩ := prop.picks_word rest (some ' ')
  obtain ⟨last', name⟩ := passes_identifier prop.identifier
    (fun c first => (prop.mark_stops rest c first).1) last
  exact picks_seq (picks_many [' '] Text.isBlank_space starts) (picks_seq word
    (picks_seq (picks_alt_left (picks_capture name)) (prop.picks_mark rest last')))

end WrittenProp

/-! ## Finding the members -/

namespace WrittenProp

/-- Up to its type a member is a row of letters, blanks and signs that no bracket is among. -/
theorem plain_head (prop : WrittenProp) : ∀ c ∈ ' ' :: (prop.head ++ [':', ' ']),
    BeginsNoLiteral c ∧ (Lexeme.mark c).isBracket = false ∧ c ∉ [] := by
  have name (c : Char) (member : c ∈ prop.name) :
      BeginsNoLiteral c ∧ (Lexeme.mark c).isBracket = false ∧ c ∉ [] :=
    plain_of_test (List.all_iff_forall_prop.mp (by decide)) (prop.identifier.inside c member)
  unfold head word mark
  rw [List.forall_mem_cons, List.forall_mem_append, List.forall_mem_append, List.forall_mem_append]
  refine ⟨by decide, ⟨?_, name, ?_⟩, List.all_iff_forall_prop.mp (by decide)⟩
  · cases prop.isReadonly <;> exact List.all_iff_forall_prop.mp (by decide)
  · cases prop.isOptional <;> exact List.all_iff_forall_prop.mp (by decide)

/-- Of a member everything is left but what stands inside the brackets of its type. -/
theorem exists_shown (prop : WrittenProp) :
    ∃ shown, (∀ after, topLevelFrom 0 (' ' :: (prop.member ++ after)) =
        [' '] ++ (prop.head ++ ':' :: (shown ++ topLevelFrom 0 after))) ∧ Memberless shown := by
  have plain : ∀ c ∈ ' ' :: (prop.head ++ [':', ' ']), Bracket.opened? c = none := by
    intro c member
    have noBracket := (prop.plain_head c member).2.1
    rw [Lexeme.isBracket, Bool.or_eq_false_iff, Option.isSome_eq_false_iff,
      Option.isNone_iff_eq_none] at noBracket
    exact noBracket.1
  obtain ⟨shown, left, none⟩ := (prop.closed.grouped prop.plain).exists_shown
  refine ⟨' ' :: shown, fun after => ?_,
    memberless_cons (fun _ _ => refuses_typeMember (by decide)) none⟩
  have split : ' ' :: (prop.member ++ after) =
      ' ' :: (prop.head ++ [':', ' ']) ++ (prop.type ++ after) := by simp [member]
  rw [split, topLevelFrom_append plain, left]
  simp

/-- Behind a sign, or at the start, the member is the next one that is found. -/
theorem exists_hit (prop : WrittenProp) {before : Option Char} {sign : Text}
    (leads : ∀ rest, Passes (any [start, one (among ";,\n\x7b")]) before sign rest)
    (after : Text) (offset : Nat) : ∃ hit offset' before', hit.group "name" = prop.name ∧
      typeMember.allFrom 0 offset before
          (sign ++ topLevelFrom 0 (' ' :: (prop.member ++ after))) =
        hit :: typeMember.allFrom 0 offset' (some before') (topLevelFrom 0 after) := by
  obtain ⟨shown, left, none⟩ := prop.exists_shown
  let taken : Text := sign ++ ([' '] ++ prop.head) ++ [':']
  have text : taken ++ (shown ++ topLevelFrom 0 after) =
      sign ++ ([' '] ++ (prop.head ++ ':' :: (shown ++ topLevelFrom 0 after))) := by simp [taken]
  have picks : Picks typeMember ⟨before, taken ++ (shown ++ topLevelFrom 0 after)⟩
      ⟨some ':', shown ++ topLevelFrom 0 after⟩ [("name", prop.name)] := by
    obtain ⟨last, first⟩ := leads ([' '] ++ (prop.head ++ ':' :: (shown ++ topLevelFrom 0 after)))
    rw [typeMember_eq, text]
    exact picks_seq first (prop.picks_member _ last)
  obtain ⟨hit, found, finds⟩ := exists_allFrom_of_picks (by simp [taken]) picks offset
  have last : taken.getLast? = some ':' := List.getLast?_concat
  -- From the hit the search comes to the next member over what is left of the type.
  obtain ⟨offset', before', same⟩ := none (topLevelFrom 0 after) (offset + taken.length) ':'
  refine ⟨hit, offset', before', ?_, ?_⟩
  · rw [Hit.group, finds.group?_eq]
    rfl
  · rw [left, ← text, found, last, Option.some_or, same]

end WrittenProp

/-- What follows the first member of a type literal. -/
def membersBehind : List WrittenProp → Text
  | [] => [' ']
  | prop :: props => [';'] ++ ' ' :: (prop.member ++ membersBehind props)

/-- The text of a type literal between its braces. -/
def membersText (props : List WrittenProp) : Text :=
  ' ' :: (Text.join "; " (props.map WrittenProp.member) ++ [' '])

theorem membersText_cons (prop : WrittenProp) (props : List WrittenProp) :
    membersText (prop :: props) = ' ' :: (prop.member ++ membersBehind props) := by
  rw [membersText, List.cons_inj_right]
  -- Induction on the others: the separator goes to the member behind it.
  induction props generalizing prop with
  | nil => simp [Text.join, membersBehind]
  | cons next props ih =>
    rw [List.map_cons, List.map_cons, Text.join_cons_cons, List.append_assoc, List.append_assoc,
      ← List.map_cons, ih next]
    rfl

/-- Behind the first member the others are found. -/
theorem allFrom_membersBehind (props : List WrittenProp) (offset : Nat) (before : Char) :
    (typeMember.allFrom 0 offset (some before) (topLevelFrom 0 (membersBehind props))).map
      (·.group "name") = props.map (·.name) := by
  induction props generalizing offset before with
  | nil =>
    have blank : ' ' ∉ memberSigns := by decide
    exact congrArg _ (allFrom_of_refuses (refuses_typeMember blank) offset)
  | cons prop props ih =>
    have leads (rest : Text) :
        Passes (any [start, one (among ";,\n\x7b")]) (some before) [';'] rest :=
      ⟨some ';', picks_alt_right (refuses_start before) (picks_one (by decide))⟩
    obtain ⟨hit, offset', before', name, found⟩ :=
      prop.exists_hit leads (membersBehind props) offset
    rw [membersBehind, topLevelFrom_append (List.forall_mem_singleton.mpr rfl), found,
      List.map_cons, name, ih]
    rfl

/-- **The members of a type literal are found by their names**, each once and in their order. -/
theorem names_membersText (props : List WrittenProp) :
    (typeMember.hits (topLevelText (membersText props))).map (·.group "name") =
      props.map (·.name) := by
  cases props with
  | nil => decide
  | cons prop props =>
    have leads (rest : Text) : Passes (any [start, one (among ";,\n\x7b")]) none [] rest :=
      ⟨none, picks_alt_left picks_start⟩
    obtain ⟨hit, offset', before', name, found⟩ := prop.exists_hit leads (membersBehind props) 0
    rw [hits, topLevelText, membersText_cons]
    rw [List.nil_append] at found
    rw [found, List.map_cons, name, allFrom_membersBehind]
    rfl

end SfcLint.Script
