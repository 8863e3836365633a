/-
# Comments in an object literal

A comment neither makes nor hides a comma, but the key of a member is looked for in the text with
its comments. So a member is found as if the comments were not there exactly when its head ends
before the first of them.
-/

import Mathlib
import SfcLint.Proofs.Script.Members
import SfcLint.Proofs.Script.Splitting

namespace SfcLint.Script

/-- The head of the stretch ends before its first comment. -/
def HeadBeforeComment (raw : Text) : Prop :=
  ∃ stop, headStop? raw = some stop ∧ stop ≤ (Text.stripStart (codeBefore raw)).length

section

variable {raw code commented uncommented : Text}

theorem Parting.strip_eq (parting : Parting commented uncommented) (code : Text) :
    ∃ c rest, (c = '/' ∨ c = '*') ∧
      Text.strip (code ++ commented) = Text.stripStart code ++ '/' :: c :: rest := by
  obtain ⟨c, rest, known, rfl⟩ := parting.sign
  have visible : Text.isBlank c = false := by
    rcases known with rfl | rfl
    · decide
    · decide
  have behind : Text.stripEnd (Text.stripStart code ++ '/' :: c :: rest) =
      Text.stripStart code ++ '/' :: c :: Text.stripEnd rest := by
    rw [Text.stripEnd_append (by decide), ← List.nil_append (c :: rest),
      Text.stripEnd_append visible, List.nil_append]
  refine ⟨c, Text.stripEnd rest, known, ?_⟩
  rw [← behind, Text.strip]
  by_cases blank : Text.stripStart code = []
  · obtain ⟨blanks, allBlank, split⟩ := Text.exists_blanks_stripStart code
    rw [blank, List.append_nil] at split
    rw [blank, split, Text.stripStart_blanks allBlank, Text.stripStart_cons_of_not_blank (by decide),
      List.nil_append]
  · rw [Text.stripStart_append blank]

theorem strip_uncommented (some : Text.stripStart code ≠ []) (uncommented : Text) :
    Text.strip (code ++ uncommented) = Text.stripEnd (Text.stripStart code ++ uncommented) := by
  rw [Text.strip, Text.stripStart_append some]

/-- A stretch that starts with a comment holds no member. -/
theorem noMember_of_comment (parting : Parting commented uncommented)
    (split : raw = code ++ commented) (blank : Text.stripStart code = []) :
    NoMember raw ∧ headStop? raw = none := by
  obtain ⟨c, rest, -, strip⟩ := parting.strip_eq code
  rw [blank, List.nil_append, ← split] at strip
  refine noMember_of_headless ?_ ?_
  · intro rest' dots
    rw [strip] at dots
    exact absurd (List.cons.inj dots).1 (by decide)
  · intro head text
    obtain ⟨d, later, starts, first⟩ := head.text_eq
    rw [strip, starts] at text
    obtain ⟨rfl, -⟩ := List.cons.inj text
    exact absurd first (by decide)

/-! ## The head before the first comment -/

theorem exists_of_append_eq {front rest visible behind : Text}
    (same : front ++ rest = visible ++ behind) (within : front.length ≤ visible.length) :
    ∃ between, visible = front ++ between ∧ rest = between ++ behind := by
  obtain ⟨between, rfl⟩ :=
    List.prefix_of_prefix_length_le ⟨rest, same⟩ (List.prefix_append visible behind) within
  rw [List.append_assoc, List.append_cancel_left_eq] at same
  exact ⟨between, rfl, same⟩

theorem memberOf_blankComments (before : HeadBeforeComment raw) :
    memberOf (blankComments raw) = memberOf raw := by
  obtain ⟨stop, found, within⟩ := before
  rcases codeBefore_or_parting raw with ⟨-, unchanged⟩ | ⟨_, uncommented, parting, split, bare⟩
  · rw [unchanged]
  · have some : Text.stripStart (codeBefore raw) ≠ [] := by
      intro blank
      rw [(noMember_of_comment parting split blank).2] at found
      contradiction
    obtain ⟨c, rest, -, strip⟩ := parting.strip_eq (codeBefore raw)
    have strip' := strip_uncommented some uncommented
    rw [← split] at strip
    rw [← bare] at strip'
    rcases stretch_cases raw with ⟨behind, dots⟩ | ⟨head, text⟩ | ⟨-, none⟩
    · obtain ⟨member, three⟩ := spread_of_dots dots
      rw [three] at found
      obtain rfl := Option.some.inj found
      obtain ⟨between, visible, -⟩ := exists_of_append_eq (dots.symm.trans strip) within
      rw [visible, List.append_assoc] at strip'
      have dots' : Text.strip (blankComments raw) =
          "...".toList ++ Text.stripEnd (between ++ uncommented) :=
        strip'.trans (Text.stripEnd_append (by decide) ['.', '.'] _)
      rw [member, (spread_of_dots dots').1]
    · obtain ⟨member, stop'⟩ := member_of_head text
      rw [stop'] at found
      obtain rfl := Option.some.inj found
      rw [text, head.text_eq_front] at strip
      obtain ⟨between, visible, follows⟩ := exists_of_append_eq strip within
      -- Something follows, so the head ends with a sign, and stays when the rest changes.
      have nonempty : head.rest ≠ [] := by
        rw [follows]
        simp
      obtain ⟨earlier, sign, front, seen⟩ := head.exists_front_eq nonempty
      let head' : Head := { head with
        rest := Text.stripEnd (between ++ uncommented)
        ends := fun shorthand => absurd (head.ends shorthand) nonempty }
      have text' : Text.strip (blankComments raw) = head'.text := by
        have same : head'.front = head.front := rfl
        rw [head'.text_eq_front, same, strip', visible, front, List.append_assoc, List.append_assoc,
          List.append_assoc]
        exact Text.stripEnd_append seen earlier _
      rw [member, (member_of_head text').1]
      rfl
    · rw [none] at found
      contradiction

/-! ## A head that passes the first comment -/

/-- What stands before a character reaches past a front without that character. -/
theorem exists_of_not_mem {front back before behind : Text} {c : Char}
    (same : front ++ back = before ++ c :: behind) (missing : c ∉ front) :
    ∃ between, before = front ++ between ∧ back = between ++ c :: behind := by
  rcases List.append_eq_append_iff.mp same with ⟨between, rfl, rfl⟩ | ⟨between, rfl, rest⟩
  · exact ⟨between, rfl, rfl⟩
  · cases between with
    | nil => exact ⟨[], by simp, by simpa using rest.symm⟩
    | cons d between =>
      obtain ⟨rfl, -⟩ := List.cons.inj rest
      simp at missing

theorem slash_not_mem_accessor {accessor : Text} (isAccessor : Accessor accessor) :
    '/' ∉ accessor := by
  have noBlank {blanks : Text} (blank : ∀ c ∈ blanks, Text.isBlank c = true) : '/' ∉ blanks :=
    fun member => absurd (blank '/' member) (by decide)
  cases isAccessor with
  | bare => simp
  | star blank => simp [noBlank blank]
  | word listed _ blank =>
    rw [List.mem_append, not_or]
    refine ⟨?_, noBlank blank⟩
    intro member
    exact absurd ((accessor_word_eq listed).1 '/' member) (by decide)

/-- The signs around a key that is no name. -/
theorem KeyForm.signs {form : KeyForm} (quoted : form ≠ .name) :
    ∃ first last, form.opening = [first] ∧ form.closing = [last] ∧ startsKey first = true ∧
      Text.isNameStart first = false ∧ KeyForm.ofFirst first = form ∧ form.inside last = false ∧
        last ≠ ' ' ∧ last ≠ '/' ∧ last ≠ '*' := by
  cases form with
  | name => contradiction
  | single => exact ⟨'\'', '\'', rfl, rfl, by decide⟩
  | double => exact ⟨'"', '"', rfl, rfl, by decide⟩
  | computed => exact ⟨'[', ']', rfl, rfl, by decide⟩

/-- A slash within the head of a member stands within its key, and this is no name. -/
theorem Head.exists_slash {head : Head} {before behind : Text}
    (text : head.text = before ++ '/' :: behind) (within : before.length < head.stop) :
    ∃ early late, head.form ≠ .name ∧ head.inner = early ++ '/' :: late ∧
      before = head.accessor ++ (head.form.opening ++ early) ∧
        behind = late ++ (head.form.closing ++
          (head.blanks ++ (head.kind.sign ++ head.rest))) := by
  have noOpening : '/' ∉ head.form.opening := by
    cases head.form <;> simp [KeyForm.opening]
  have noClosing : '/' ∉ head.form.closing := by
    cases head.form <;> simp [KeyForm.closing]
  have noBlank : '/' ∉ head.blanks := fun member => absurd (head.blank '/' member) (by decide)
  have noSign : '/' ∉ head.kind.sign := by
    cases head.kind <;> simp [EntryKind.sign]
  rw [Head.text, tail_eq_written] at text
  obtain ⟨_, rfl, later⟩ := exists_of_not_mem text (slash_not_mem_accessor head.isAccessor)
  obtain ⟨between, rfl, fromKey⟩ := exists_of_not_mem later noOpening
  rw [stop, front, KeyForm.written] at within
  simp only [List.length_append] at within
  -- A slash behind the key would stand behind the whole head.
  have behindKey (past : Text) (rest : head.form.closing ++ (head.blanks ++ (head.kind.sign ++
      head.rest)) = past ++ '/' :: behind) (same : between = head.inner ++ past) : False := by
    obtain ⟨_, rfl, behindClosing⟩ := exists_of_not_mem rest noClosing
    obtain ⟨_, rfl, behindBlanks⟩ := exists_of_not_mem behindClosing noBlank
    obtain ⟨_, rfl, -⟩ := exists_of_not_mem behindBlanks noSign
    rw [same] at within
    simp only [List.length_append] at within
    omega
  rcases List.append_eq_append_iff.mp fromKey with ⟨past, same, rest⟩ | ⟨past, inner, rest⟩
  · exact (behindKey past rest same).elim
  · cases past with
    | nil =>
      rw [List.append_nil] at inner
      exact (behindKey [] rest.symm (by rw [inner, List.append_nil])).elim
    | cons c late =>
      obtain ⟨rfl, rfl⟩ := List.cons.inj rest
      refine ⟨between, late, ?_, inner, rfl, rfl⟩
      intro name
      obtain ⟨d, later, word, starts, continues⟩ : KeyForm.name.Proper head.inner :=
        name ▸ head.proper
      have known := (name ▸ head.proper).inside '/' (by simp [inner])
      exact absurd known (by decide)

/-- Before a key that is no name at most an accessor stands. -/
theorem Head.accessor_eq {head : Head} {accessor rest : Text} {first : Char}
    (isAccessor : Accessor accessor) (starts : startsKey first = true)
    (noName : Text.isNameStart first = false) (text : head.text = accessor ++ first :: rest) :
    head.accessor = accessor := by
  obtain ⟨c, later, tail, starts'⟩ := head.tail_eq
  have split : head.text = head.accessor ++ c :: later := by rw [Head.text, tail]
  by_cases bare : accessor = []
  · have isAccessor' := head.isAccessor
    rw [bare, List.nil_append] at text
    rw [text] at split
    generalize head.accessor = accessor' at isAccessor' split
    cases isAccessor' with
    | bare => exact bare.symm
    | star =>
      obtain ⟨rfl, -⟩ := List.cons.inj split
      exact absurd starts (by decide)
    | word listed =>
      obtain ⟨-, d, rest', rfl, start⟩ := accessor_word_eq listed
      obtain ⟨rfl, -⟩ := List.cons.inj split
      rw [noName] at start
      contradiction
  · have some := head.accessor_ne_nil isAccessor bare starts text
    exact accessor_unique head.isAccessor isAccessor some bare starts' starts
      (split.symm.trans text)

/-- A key that is no name and reaches past an accessor, its opening sign and a part of the key goes
on with what follows there, up to its closing sign. -/
theorem Head.exists_inner {head : Head} {form : KeyForm} (quoted : form ≠ .name)
    {accessor early after rest : Text} (isAccessor : Accessor accessor)
    (inside : ∀ c ∈ early, form.inside c = true) (other : ∀ last, form.closing = [last] →
      after.head? ≠ some last) (starts : rest <+: early ++ after)
    (text : head.text = accessor ++ (form.opening ++ rest)) :
    head.form = form ∧ ∃ late, late ≠ [] ∧ head.inner = early ++ late ∧ late <+: after := by
  obtain ⟨first, last, opening, closing, startsKey, noName, known, notInside, -⟩ :=
    form.signs quoted
  rw [opening, List.singleton_append] at text
  have accessors := head.accessor_eq isAccessor startsKey noName text
  rw [Head.text, accessors, List.append_cancel_left_eq] at text
  have form_eq : head.form = form := by
    obtain ⟨d, later, written, -⟩ := head.proper.written_eq
    have here := text
    rw [Head.tail, written] at here
    obtain ⟨rfl, -⟩ := List.cons.inj here
    rw [head.proper.eq_ofFirst written, known]
  refine ⟨form_eq, ?_⟩
  rw [tail_eq_written, form_eq, opening, closing, List.singleton_append] at text
  obtain ⟨-, inner⟩ := List.cons.inj text
  obtain ⟨more, split⟩ := starts
  rw [← inner, List.append_assoc, List.append_assoc, List.singleton_append] at split
  have missing : last ∉ early := by
    intro member
    rw [inside last member] at notInside
    contradiction
  obtain ⟨late, same, behind⟩ := exists_of_not_mem split.symm missing
  refine ⟨late, ?_, same, ⟨_, behind.symm⟩⟩
  rintro rfl
  exact other last closing (by rw [behind]; rfl)

/-- Where one key goes on with a comment and another one does not, they are different keys. -/
theorem named_ne_of_parting (parting : Parting commented uncommented) {form : KeyForm}
    {early late late' behind : Text} {c : Char} (quoted : form ≠ .name)
    (comment : c = '/' ∨ c = '*') (blank : uncommented = late' ++ behind) (some : late' ≠ []) :
    form.named (early ++ late') ≠ form.named (early ++ '/' :: c :: late) := by
  obtain ⟨spaces, starts⟩ := parting.blank
  obtain ⟨d, rest, rfl⟩ := List.exists_cons_of_ne_nil some
  rw [starts] at blank
  obtain ⟨rfl, -⟩ := List.cons.inj blank
  have texts : early ++ ' ' :: rest ≠ early ++ '/' :: c :: late := by simp
  have visible : Text.isBlank c = false := by
    rcases comment with rfl | rfl
    · decide
    · decide
  -- Quotes keep blanks, so only in a computed key may trimming make up for the comment.
  cases form with
  | name => contradiction
  | single =>
    cases early with
    | nil => simp [KeyForm.named]
    | cons d early => simp [KeyForm.named]
  | double => simp [KeyForm.named]
  | computed =>
    rw [KeyForm.named, KeyForm.named, Ne, Except.ok.injEq, Text.strip, Text.strip]
    intro same
    by_cases allBlank : Text.stripStart early = []
    · -- The comment would be the first thing in the key.
      obtain ⟨blanks, blank', split⟩ := Text.exists_blanks_stripStart early
      rw [allBlank, List.append_nil] at split
      rw [split, Text.stripStart_blanks blank', Text.stripStart_blanks blank',
        Text.stripStart_cons_of_not_blank (by decide : Text.isBlank '/' = false),
        ← List.singleton_append (l := c :: late), Text.stripEnd_append visible] at same
      obtain ⟨more, prefixed⟩ := Text.stripEnd_prefix (Text.stripStart (' ' :: rest))
      obtain ⟨front, frontBlank, split'⟩ := Text.exists_blanks_stripStart (' ' :: rest)
      rw [← prefixed, same] at split'
      have here := parting.code front c (Text.stripEnd late ++ more ++ behind) frontBlank (by
        rw [starts, blank, ← List.cons_append, split']
        simp)
      rcases comment with rfl | rfl
      · exact here.1 rfl
      · exact here.2 rfl
    -- Otherwise both keys start with the same code, and differ behind it.
    · rw [Text.stripStart_append allBlank, Text.stripStart_append allBlank,
        Text.stripEnd_append (by decide : Text.isBlank '/' = false)] at same
      have prefixed := Text.stripEnd_prefix (Text.stripStart early ++ ' ' :: rest)
      rw [same, List.prefix_append_right_inj, List.cons_prefix_cons] at prefixed
      exact absurd prefixed.1 (by decide)

/-- A head that passes the first comment has it in its key, which is no name. With comments blanked
the key goes on with what is then written there. -/
theorem exists_comment_in_key {head : Head} (text : Text.strip raw = head.text)
    (within : (Text.stripStart (codeBefore raw)).length < head.stop) :
    ∃ commented uncommented early late c, Parting commented uncommented ∧ head.form ≠ .name ∧
      (c = '/' ∨ c = '*') ∧ head.inner = early ++ '/' :: c :: late ∧
        Text.strip (blankComments raw) =
          head.accessor ++ (head.form.opening ++ Text.stripEnd (early ++ uncommented)) := by
  rcases codeBefore_or_parting raw with ⟨unchanged, -⟩ | ⟨_, uncommented, parting, split, bare⟩
  · -- Without a comment the head stands before the end of the text.
    rw [unchanged] at within
    have ends := (Text.stripEnd_prefix (Text.stripStart raw)).length_le
    rw [← Text.strip, text, head.text_eq_front, List.length_append] at ends
    rw [Head.stop] at within
    omega
  obtain ⟨c, rest, comment, strip⟩ := parting.strip_eq (codeBefore raw)
  rw [← split, text] at strip
  obtain ⟨early, late, quoted, inner, before, behind⟩ := head.exists_slash strip within
  obtain ⟨first, last, opening, closing, starts, -, -, -, -, notSlash, notStar⟩ :=
    head.form.signs quoted
  obtain ⟨late, rfl⟩ : ∃ late', late = c :: late' := by
    cases late with
    | nil =>
      rw [closing] at behind
      obtain ⟨rfl, -⟩ := List.cons.inj behind
      exact (comment.elim notSlash notStar).elim
    | cons d late =>
      obtain ⟨rfl, -⟩ := List.cons.inj behind
      exact ⟨late, rfl⟩
  have some : Text.stripStart (codeBefore raw) ≠ [] := by
    rw [before, opening]
    simp
  refine ⟨_, uncommented, early, late, c, parting, quoted, comment, inner, ?_⟩
  rw [bare, strip_uncommented some, before, opening, List.append_assoc, List.append_assoc,
    List.singleton_append, Text.stripEnd_append (not_isBlank_of_startsKey starts)]
  rfl

/-- A member whose head passes the first comment is not found when comments are blanked. -/
theorem memberOf_blankComments_ne {head : Head} (text : Text.strip raw = head.text)
    (within : (Text.stripStart (codeBefore raw)).length < head.stop) :
    memberOf (blankComments raw) ≠ memberOf raw := by
  obtain ⟨_, uncommented, early, late, c, parting, quoted, comment, inner, blanked⟩ :=
    exists_comment_in_key text within
  intro same
  rcases stretch_cases (blankComments raw) with ⟨rest, dots⟩ | ⟨head', text'⟩ | ⟨none, -⟩
  · exact memberOf_ne_of_keyless text (by simp) (same.symm.trans (spread_of_dots dots).1)
  · -- What is blanked does not close the key, so the key of the other head reaches into it.
    have other (sign : Char) (closes : head.form.closing = [sign]) :
        uncommented.head? ≠ some sign := by
      obtain ⟨first, last, -, closing, -, -, -, -, notSpace, -⟩ := head.form.signs quoted
      obtain ⟨spaces, blank⟩ := parting.blank
      rw [closing] at closes
      obtain ⟨rfl, -⟩ := List.cons.inj closes
      rw [blank]
      simpa using notSpace.symm
    have inside : ∀ d ∈ early, head.form.inside d = true := by
      intro d member
      exact head.proper.inside d (by rw [inner]; exact List.mem_append_left _ member)
    obtain ⟨form, late', nonempty, inner', ⟨more, follows⟩⟩ := head'.exists_inner quoted
      head.isAccessor inside other (Text.stripEnd_prefix _) (text'.symm.trans blanked)
    have keys := key_eq_of_memberOf_eq text' text same
    rw [Head.key, Head.key, form, inner, inner'] at keys
    exact named_ne_of_parting parting quoted comment follows.symm nonempty keys
  · exact memberOf_ne_of_keyless text (by simp) (same.symm.trans none)

theorem headBeforeComment_of_dots {rest : Text} (dots : Text.strip raw = "...".toList ++ rest) :
    HeadBeforeComment raw := by
  refine ⟨3, (spread_of_dots dots).2, ?_⟩
  rcases codeBefore_or_parting raw with ⟨unchanged, -⟩ | ⟨_, _, parting, split, -⟩
  · rw [unchanged]
    have within := (Text.stripEnd_prefix (Text.stripStart raw)).length_le
    rw [← Text.strip, dots, List.length_append] at within
    exact Nat.le_of_add_right_le within
  · obtain ⟨c, later, -, strip⟩ := parting.strip_eq (codeBefore raw)
    rw [← split, dots] at strip
    obtain ⟨between, visible, -⟩ := exists_of_not_mem strip (by decide)
    rw [visible, List.length_append]
    exact Nat.le_add_right _ _

/-! ## Object literals without their comments -/

/-- Comments do not change what member the stretch holds: its head ends before the first of them,
or it holds none with them and none without. -/
def Undisturbed (raw : Text) : Prop :=
  HeadBeforeComment raw ∨ NoMember raw ∧ NoMember (blankComments raw)

theorem memberOf_blankComments_iff (raw : Text) :
    memberOf (blankComments raw) = memberOf raw ↔ Undisturbed raw := by
  constructor
  · intro same
    rcases stretch_cases raw with ⟨rest, dots⟩ | ⟨head, text⟩ | ⟨none, -⟩
    · exact .inl (headBeforeComment_of_dots dots)
    · by_cases within : (Text.stripStart (codeBefore raw)).length < head.stop
      · exact absurd same (memberOf_blankComments_ne text within)
      · exact .inl ⟨head.stop, (member_of_head text).2, Nat.le_of_not_lt within⟩
    · exact .inr ⟨none, same.trans none⟩
  · rintro (before | ⟨none, none'⟩)
    · exact memberOf_blankComments before
    · exact none'.trans none.symm

end

/-- **Comments change members where they stand before or in a head.** Blanking the comments of an
object literal leaves the stretches between its commas, and leaves the member of each of them
exactly when its head ends before its first comment, or when it has a member neither way. Where
this holds of all stretches the object literal keeps all its members. -/
theorem members_blankComments (body : Text) :
    ((stretches [','] (blankComments body)).map memberOf = (stretches [','] body).map memberOf ↔
      ∀ raw ∈ stretches [','] body, Undisturbed raw) ∧
    ((∀ raw ∈ stretches [','] body, Undisturbed raw) →
      members (blankComments body) = members body) := by
  have stretchwise : (stretches [','] (blankComments body)).map memberOf =
      (stretches [','] body).map memberOf ↔ ∀ raw ∈ stretches [','] body, Undisturbed raw := by
    rw [stretches_blankComments, List.map_map, List.map_inj_left]
    exact forall₂_congr fun raw _ => memberOf_blankComments_iff raw
  refine ⟨stretchwise, ?_⟩
  intro undisturbed
  rw [members_eq, members_eq, stretchwise.mpr undisturbed]

/-- Comments behind values change no members. -/
theorem members_blankComments_behind :
    Undisturbed "a: 1 /* first */".toList ∧
      members (blankComments "a: 1 /* first */, b: 2 // second") =
        members "a: 1 /* first */, b: 2 // second" := by
  have first : Undisturbed "a: 1 /* first */".toList := .inl ⟨2, by cbv, by cbv⟩
  have second : Undisturbed " b: 2 // second".toList := .inl ⟨2, by cbv, by cbv⟩
  have both : stretches [','] "a: 1 /* first */, b: 2 // second" =
      ["a: 1 /* first */".toList, " b: 2 // second".toList] := by cbv
  refine ⟨first, (members_blankComments _).2 ?_⟩
  rw [both]
  intro raw member
  simp only [List.mem_cons, List.not_mem_nil, or_false] at member
  rcases member with rfl | rfl
  · exact first
  · exact second

/-- A comment in front of a member hides it. -/
theorem comment_hides_member :
    members "a: 1, // first\n b: 2" = .ok [(some "a".toList, .property)] ∧
      members (blankComments "a: 1, // first\n b: 2") =
        .ok [(some "a".toList, .property), (some "b".toList, .property)] := by
  constructor
  · cbv
  · cbv

end SfcLint.Script
