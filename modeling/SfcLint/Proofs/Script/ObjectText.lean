/-
# Object literals that are written

An object literal is written as its members with commas and spaces between them. A member is a
property, a method, a name that stands for itself or a spread, and its parts are closed texts. Read
again, it has its members in their order, each with its key, its kind, its value and its place. Only
one sort of key is not read: a computed one with nothing between its brackets.
-/

import SfcLint.Proofs.Script.Closed
import SfcLint.Proofs.Script.Members

namespace SfcLint.Script

/-! ## Members -/

/-- The text can be the name of a key in this form: an identifier, some text between quotes that
needs no backslash, or a closed text between brackets. -/
def KeyForm.Names : KeyForm → Text → Prop
  | name, t => name.Proper t
  | single, t => t ≠ [] ∧ '\'' ∉ t ∧ '\\' ∉ t ∧ '\n' ∉ t
  | double, t => t ≠ [] ∧ '"' ∉ t ∧ '\\' ∉ t ∧ '\n' ∉ t
  | computed, t => Closed [','] t ∧ Text.strip t = t ∧ ']' ∉ t

/-- A key and the form in which it is written. -/
structure WrittenKey where
  form : KeyForm
  name : Text
  names : form.Names name

/-- A member of an object literal as it is written. -/
inductive WrittenMember
  | property (key : WrittenKey) (gap value : Text) (blank : ∀ c ∈ gap, Text.isBlank c = true)
      (closed : Closed [','] value) (trimmed : Text.Trimmed value)
  | method (accessor : Text) (key : WrittenKey) (parameters gap body : Text)
      (isAccessor : Accessor accessor) (list : Closed [','] ('(' :: (parameters ++ [')'])))
      (blank : ∀ c ∈ gap, Text.isBlank c = true)
      (block : Closed [','] ('\x7b' :: (body ++ ['\x7d'])))
  | shorthand (name : Text) (identifier : KeyForm.name.Proper name)
  | spread (value : Text) (closed : Closed [','] value) (trimmed : Text.Trimmed value)

/-- The text of the key. -/
def WrittenKey.text (key : WrittenKey) : Text := key.form.written key.name

namespace WrittenMember

/-- The list of parameters and the block of a method. -/
def methodTail (parameters gap body : Text) : Text :=
  '(' :: (parameters ++ ')' :: (gap ++ '\x7b' :: (body ++ ['\x7d'])))

/-- The text of the member. -/
def text : WrittenMember → Text
  | property key gap value .. => key.text ++ ':' :: (gap ++ value)
  | method accessor key parameters gap body .. =>
      accessor ++ (key.text ++ methodTail parameters gap body)
  | shorthand name _ => name
  | spread value .. => "...".toList ++ value

/-- The member as it is to be read at an offset. -/
def entry (offset : Nat) : WrittenMember → Entry
  | property key _ value .. => ⟨some key.name, value, offset, .property⟩
  | method _ key parameters gap body .. =>
      ⟨some key.name, methodTail parameters gap body, offset, .method⟩
  | shorthand name _ => ⟨some name, name, offset, .shorthand⟩
  | spread value .. => ⟨none, value, offset, .spread⟩

/-- The member has a computed key with nothing between its brackets. -/
def keyIsEmpty : WrittenMember → Bool
  | property key .. => key.name.isEmpty
  | method _ key .. => key.name.isEmpty
  | _ => false

end WrittenMember

/-! ## Members are closed texts -/

/-- A comma is no blank. -/
theorem not_isBlank_comma : ∀ d ∈ [','], Text.isBlank d = false :=
  List.all_iff_forall_prop.mp (by decide)

theorem closed_of_identifier {name : Text} (identifier : KeyForm.name.Proper name) :
    Closed [','] name :=
  closed_of_beginsNoLiteral fun c member =>
    plain_of_test (List.all_iff_forall_prop.mp (by decide)) (identifier.inside c member)

theorem WrittenKey.closed (key : WrittenKey) : Closed [','] key.text := by
  obtain ⟨form, name, names⟩ := key
  cases form with
  | name =>
    rw [text, KeyForm.written, KeyForm.opening, KeyForm.closing, List.append_nil]
    exact closed_of_identifier names
  | single =>
    obtain ⟨-, noQuote, noEscape, inLine⟩ := names
    exact closed_of_literal fun after => .single (quotedTail_of_plain noQuote noEscape inLine after)
  | double =>
    obtain ⟨-, noQuote, noEscape, inLine⟩ := names
    exact closed_of_literal fun after => .double (quotedTail_of_plain noQuote noEscape inLine after)
  | computed => exact names.1.group .square

theorem methodTail_eq (parameters gap body : Text) : WrittenMember.methodTail parameters gap body =
    ('(' :: (parameters ++ [')'])) ++ (gap ++ '\x7b' :: (body ++ ['\x7d'])) := by
  simp [WrittenMember.methodTail]

theorem Accessor.plain {accessor : Text} (isAccessor : Accessor accessor) {c : Char}
    (member : c ∈ accessor) : (Text.isNameChar c || Text.isBlank c || c == '*') = true := by
  cases isAccessor with
  | bare => contradiction
  | word listed _ blank =>
    rcases List.mem_append.mp member with inWord | inBlanks
    · rw [(accessor_word_eq listed).1 c inWord]
      rfl
    · rw [blank c inBlanks, Bool.or_true]
      rfl
  | star blank =>
    rcases List.mem_cons.mp member with rfl | inBlanks
    · decide
    · rw [blank c inBlanks, Bool.or_true]
      rfl

theorem closed_of_accessor {accessor : Text} (isAccessor : Accessor accessor) :
    Closed [','] accessor := by
  have refused : ∀ d ∈ "'\"`/()[]\x7b\x7d".toList ++ [','],
      (Text.isNameChar d || Text.isBlank d || d == '*') = false :=
    List.all_iff_forall_prop.mp (by decide)
  exact closed_of_beginsNoLiteral fun _ member => plain_of_test refused (isAccessor.plain member)

theorem WrittenMember.closed (member : WrittenMember) : Closed [','] member.text := by
  -- Two parts could begin a comment together only if the first one ended with a slash.
  have noSlash {t : Text} (blank : ∀ c ∈ t, Text.isBlank c = true) : '/' ∉ t := by
    intro slash
    exact absurd (blank _ slash) (by decide)
  cases member with
  | property key gap value blank closed trimmed =>
    have colon : Closed [','] [':'] := closed_of_all (by decide)
    have blanks := closed_of_blanks not_isBlank_comma blank
    have front := colon.append blanks (apart_of_not_mem (by decide) _)
    have slash : '/' ∉ [':'] ++ gap := by simpa using noSlash blank
    exact key.closed.append (front.append closed (apart_of_not_mem slash _))
      (apart_cons (by decide) (by decide) _ _)
  | method accessor key parameters gap body isAccessor list blank block =>
    have slash : '/' ∉ accessor := by
      intro slash
      exact absurd (isAccessor.plain slash) (by decide)
    have tail : Closed [','] (methodTail parameters gap body) := by
      rw [methodTail_eq]
      have blanks := closed_of_blanks not_isBlank_comma blank
      exact list.append (blanks.append block (apart_of_not_mem (noSlash blank) _))
        (apart_concat (by decide) ('(' :: parameters) _)
    exact (closed_of_accessor isAccessor).append
      (key.closed.append tail (apart_cons (by decide) (by decide) _ _)) (apart_of_not_mem slash _)
  | shorthand name identifier => exact closed_of_identifier identifier
  | spread value closed trimmed =>
    have dots : Closed [','] "...".toList := closed_of_all (by decide)
    exact dots.append closed (apart_of_not_mem (by decide) _)

/-! ## Members have no blanks around them -/

theorem WrittenKey.text_eq (key : WrittenKey) :
    ∃ c rest, key.text = c :: rest ∧ startsKey c = true := by
  obtain ⟨form, name, names⟩ := key
  cases form with
  | name => exact KeyForm.Proper.written_eq names
  | single => exact ⟨'\'', _, rfl, by decide⟩
  | double => exact ⟨'"', _, rfl, by decide⟩
  | computed => exact ⟨'[', _, rfl, by decide⟩

theorem trimmed_of_identifier {name : Text} (identifier : KeyForm.name.Proper name) :
    Text.Trimmed name where
  nonempty := by
    obtain ⟨c, rest, rfl, -⟩ := identifier
    exact List.cons_ne_nil c rest
  ends := by
    intro c here
    have member : c ∈ name := here.elim List.mem_of_head? List.mem_of_getLast?
    rw [← Bool.not_eq_true]
    intro blank
    have inside : Text.isNameChar c = true := identifier.inside c member
    rw [Text.isNameChar_of_isBlank blank] at inside
    contradiction

theorem WrittenMember.trimmed (member : WrittenMember) : Text.Trimmed member.text := by
  -- The ends of a member are those of its key or accessor, and of its value or body.
  cases member with
  | property key gap value blank closed trimmed =>
    obtain ⟨c, rest, first, starts⟩ := key.text_eq
    obtain ⟨inner, last, split, visible⟩ := trimmed.exists_concat
    have front : text (property key gap value blank closed trimmed) =
        c :: (rest ++ ':' :: (gap ++ value)) := by
      rw [text, first, List.cons_append]
    have back : text (property key gap value blank closed trimmed) =
        key.text ++ ':' :: (gap ++ inner) ++ [last] := by
      simp [text, split]
    exact Text.trimmed_of_ends front back (not_isBlank_of_startsKey starts) visible
  | method accessor key parameters gap body isAccessor list blank block =>
    obtain ⟨c, rest, first, starts⟩ := key.text_eq
    obtain ⟨d, later, front, visible⟩ :=
      isAccessor.append_eq starts (rest ++ methodTail parameters gap body)
    have starts : text (method accessor key parameters gap body isAccessor list blank block) =
        d :: later := by
      rw [text, first]
      exact front
    have back : text (method accessor key parameters gap body isAccessor list blank block) =
        accessor ++ (key.text ++ '(' :: (parameters ++ ')' :: (gap ++ '\x7b' :: body))) ++
          ['\x7d'] := by
      simp [text, methodTail]
    exact Text.trimmed_of_ends starts back (not_isBlank_of_starts visible) (by decide)
  | shorthand name identifier => exact trimmed_of_identifier identifier
  | spread value closed trimmed =>
    obtain ⟨front, last, split, visible⟩ := trimmed.exists_concat
    have starts : text (spread value closed trimmed) = '.' :: ("..".toList ++ value) := rfl
    have back : text (spread value closed trimmed) = "...".toList ++ front ++ [last] := by
      simp [text, split]
    exact Text.trimmed_of_ends starts back (by decide) visible

/-! ## Reading a member -/

/-- The value of a member behind its head. -/
def Head.value (head : Head) (key : Text) : Text :=
  match head.kind with
  | .property => Text.strip head.rest
  | .method => '(' :: head.rest
  | _ => key

/-- A member with a key is no spread. -/
theorem dropFront?_dots_eq_none {c : Char} (starts : c = '*' ∨ startsKey c = true) (rest : Text) :
    Text.dropFront? "..." (c :: rest) = none := by
  cases front : Text.dropFront? "..." (c :: rest) with
  | none => rfl
  | some behind =>
    obtain ⟨rfl, -⟩ := List.cons.inj (Pattern.dropFront?_eq_some_iff.mp front)
    exact absurd starts (by decide)

/-- A piece that starts with a head is the member that the head tells of. -/
theorem entryOf_head (head : Head) (offset : Nat) (notBreak : head.text.getLast? ≠ some '\n') :
    entryOf ⟨offset, head.text⟩ =
      head.key.map fun key => some ⟨some key, head.value key, offset, head.kind⟩ := by
  have plain : Text.dropFront? "..." head.text = none := by
    obtain ⟨c, later, text, starts⟩ := head.text_eq
    rw [text]
    exact dropFront?_dots_eq_none starts later
  obtain ⟨hit, found, named, sign, stop⟩ := leading?_entryKey notBreak
  -- The pattern stops at the end of the head, so the value is all that stands behind it.
  have rest : hit.rest = head.rest := by
    obtain ⟨-, length, split, -⟩ := Pattern.leading?_eq_some found
    rw [stop, Head.stop] at length
    rw [head.text_eq_front] at split
    exact (List.append_inj_right split length).symm
  rw [entryOf, plain]
  dsimp only
  rw [found]
  dsimp only
  rw [named, sign, rest]
  cases head.key with
  | error failure => rfl
  | ok key =>
    unfold Head.value
    cases kind : head.kind with
    | spread => exact absurd kind head.keyed
    | _ => rfl

theorem WrittenKey.proper {key : WrittenKey} (nonempty : key.name ≠ []) :
    key.form.Proper key.name ∧ key.form.named key.name = .ok key.name := by
  obtain ⟨form, name, names⟩ := key
  cases form with
  | name => exact ⟨names, rfl⟩
  | single =>
    obtain ⟨-, noQuote, -⟩ := names
    cases name with
    | nil => contradiction
    | cons c name => exact ⟨noQuote, rfl⟩
  | double =>
    obtain ⟨-, noQuote, -⟩ := names
    exact ⟨noQuote, rfl⟩
  | computed =>
    obtain ⟨_, trimmed, noBracket⟩ := names
    exact ⟨⟨nonempty, noBracket⟩, congrArg Except.ok trimmed⟩

theorem WrittenKey.form_of_empty {key : WrittenKey} (empty : key.name = []) :
    key.text = ['[', ']'] := by
  obtain ⟨form, name, names⟩ := key
  obtain rfl : name = [] := empty
  cases form with
  | name =>
    obtain ⟨c, rest, nothing, -⟩ := names
    contradiction
  | single => exact absurd rfl names.1
  | double => exact absurd rfl names.1
  | computed => rfl

/-- No head has a computed key with nothing between its brackets. -/
theorem Head.text_ne_of_empty (head : Head) {accessor rest : Text}
    (isAccessor : Accessor accessor) : head.text ≠ accessor ++ '[' :: ']' :: rest := by
  intro same
  obtain ⟨c, later, tail, starts⟩ := head.tail_eq
  -- With one accessor before them the two keys are the same text, and the empty one is no key.
  have accessors : head.accessor = accessor := by
    by_cases bare : accessor = []
    · -- A word or a star does not start like a bracket.
      have isOther := head.isAccessor
      rw [bare, List.nil_append, Head.text] at same
      generalize head.accessor = other at isOther same
      cases isOther with
      | bare => exact bare.symm
      | star => exact absurd (List.cons.inj same).1 (by decide)
      | word listed =>
        obtain ⟨-, d, later, rfl, start⟩ := accessor_word_eq listed
        obtain ⟨rfl, -⟩ := List.cons.inj same
        exact absurd start (by decide)
    · have some := Head.accessor_ne_nil isAccessor bare (by decide) same
      rw [Head.text, tail] at same
      exact accessor_unique head.isAccessor isAccessor some bare starts (by decide) same
  rw [Head.text, accessors, List.append_cancel_left_eq] at same
  have proper := head.proper
  obtain ⟨d, behind, written, -⟩ := proper.written_eq
  -- So the key of the head is computed too, and its name would have to be empty or hold a bracket.
  have form : head.form = .computed := by
    have first := congrArg List.head? same
    rw [Head.tail, written] at first
    obtain rfl := Option.some.inj first
    exact proper.eq_ofFirst written
  rw [form] at proper
  obtain ⟨some, noBracket⟩ := proper
  obtain ⟨e, inner, split⟩ := List.exists_cons_of_ne_nil some
  rw [Head.tail_eq_written, form, split] at same
  obtain ⟨rfl, -⟩ := List.cons.inj (List.cons.inj same).2
  exact noBracket (by rw [split]; exact List.mem_cons_self)

/-- A member does not end with a line break, before which the pattern of a key could stop. -/
theorem WrittenMember.getLast?_text (member : WrittenMember) :
    member.text.getLast? ≠ some '\n' := by
  intro last
  exact absurd (member.trimmed.ends _ (.inr last)) (by decide)

theorem entryOf_of_empty {accessor rest : Text} (isAccessor : Accessor accessor) (offset : Nat)
    (notBreak : (accessor ++ '[' :: ']' :: rest).getLast? ≠ some '\n') :
    entryOf ⟨offset, accessor ++ '[' :: ']' :: rest⟩ = .ok none := by
  have missing := leading?_entryKey_eq_none notBreak fun head => head.text_ne_of_empty isAccessor
  have plain : Text.dropFront? "..." (accessor ++ '[' :: ']' :: rest) = none := by
    obtain ⟨d, later, text, starts⟩ := isAccessor.append_eq (c := '[') (by decide) (']' :: rest)
    rw [text]
    exact dropFront?_dots_eq_none starts later
  rw [entryOf, plain]
  dsimp only
  rw [missing]

/-- A member is read as it was written, unless its key is an empty computed one. -/
theorem entryOf_text (member : WrittenMember) (offset : Nat) :
    entryOf ⟨offset, member.text⟩ =
      .ok (if member.keyIsEmpty then none else some (member.entry offset)) := by
  have notBreak := member.getLast?_text
  cases member with
  | property key gap value blank closed trimmed =>
    -- A key that is empty is none, and every other one is read with its form.
    by_cases empty : key.name = []
    · rw [WrittenMember.keyIsEmpty, empty]
      rw [WrittenMember.text, key.form_of_empty empty] at notBreak ⊢
      exact entryOf_of_empty .bare offset notBreak
    · obtain ⟨proper, named⟩ := key.proper empty
      have strip : Text.strip (gap ++ value) = value := by
        rw [Text.strip, Text.stripStart_blanks blank]
        exact trimmed.strip_eq.1
      have read := entryOf_head ⟨[], key.form, key.name, [], .property, gap ++ value, .bare, proper,
        by simp, by decide, by simp⟩ offset notBreak
      refine read.trans ?_
      rw [Head.key, named, WrittenMember.keyIsEmpty, if_neg (by simpa using empty)]
      simp only [Except.map, Head.value, strip]
      rfl
  | method accessor key parameters gap body isAccessor list blank block =>
    by_cases empty : key.name = []
    · rw [WrittenMember.keyIsEmpty, empty]
      rw [WrittenMember.text, key.form_of_empty empty] at notBreak ⊢
      exact entryOf_of_empty isAccessor offset notBreak
    · obtain ⟨proper, named⟩ := key.proper empty
      have read := entryOf_head ⟨accessor, key.form, key.name, [], .method,
        parameters ++ ')' :: (gap ++ '\x7b' :: (body ++ ['\x7d'])), isAccessor, proper, by simp,
        by decide, by simp⟩ offset notBreak
      refine read.trans ?_
      rw [Head.key, named, WrittenMember.keyIsEmpty, if_neg (by simpa using empty)]
      rfl
  | shorthand name identifier =>
    have whole : WrittenMember.text (.shorthand name identifier) =
        Head.text ⟨[], .name, name, [], .shorthand, [], .bare, identifier, by simp, by decide,
          by simp⟩ := by
      simp [WrittenMember.text, Head.text, Head.tail, KeyForm.written, KeyForm.opening,
        KeyForm.closing, EntryKind.sign]
    rw [whole] at notBreak ⊢
    exact entryOf_head _ offset notBreak
  | spread value closed trimmed =>
    have dots : Text.dropFront? "..." (WrittenMember.text (.spread value closed trimmed)) =
        some value :=
      Pattern.dropFront?_eq_some_iff.mpr rfl
    rw [entryOf, dots]
    dsimp only
    rw [trimmed.strip_eq.1]
    rfl

/-! ## Reading all members -/

namespace WrittenMember

/-- The members with their offsets, where the first is at an offset and a comma and a space stand
between two of them. -/
def placed : Nat → List WrittenMember → List (Nat × WrittenMember)
  | _, [] => []
  | offset, member :: others => (offset, member) :: placed (offset + member.text.length + 2) others

/-- The text of an object literal between its braces. -/
def body (members : List WrittenMember) : Text := Text.join ", " (members.map text)

end WrittenMember

theorem map_snd_placed (offset : Nat) (members : List WrittenMember) :
    (WrittenMember.placed offset members).map Prod.snd = members := by
  induction members generalizing offset with
  | nil => rfl
  | cons member others ih => rw [WrittenMember.placed, List.map_cons, ih]

theorem exists_split_of_mem_placed {members : List WrittenMember} {member : WrittenMember}
    {offset place : Nat} (here : (place, member) ∈ WrittenMember.placed offset members) :
    ∃ front back, members = front ++ member :: back ∧
      place = offset + Text.joinWidth 2 (front.map WrittenMember.text) := by
  induction members generalizing offset with
  | nil => contradiction
  | cons first others ih =>
    rcases List.mem_cons.mp here with same | behind
    · obtain ⟨rfl, rfl⟩ := Prod.mk.inj same
      exact ⟨[], others, rfl, rfl⟩
    · obtain ⟨front, back, rfl, rfl⟩ := ih behind
      refine ⟨first :: front, back, rfl, ?_⟩
      rw [List.map_cons, Text.joinWidth_cons]
      omega

/-- A member stands in the object literal at its offset. -/
theorem text_prefix_of_mem_placed {members : List WrittenMember} {member : WrittenMember}
    {place : Nat} (here : (place, member) ∈ WrittenMember.placed 0 members) :
    member.text <+: (WrittenMember.body members).drop place := by
  obtain ⟨front, back, rfl, rfl⟩ := exists_split_of_mem_placed here
  obtain ⟨rest, stands⟩ := Text.exists_drop_join ", " (front.map WrittenMember.text) member.text
    (back.map WrittenMember.text)
  rw [WrittenMember.body, List.map_append, List.map_cons, Nat.zero_add]
  exact ⟨rest, stands.symm⟩

theorem piecesAt_texts (offset : Nat) (members : List WrittenMember) :
    piecesAt offset (members.map WrittenMember.text) =
      (WrittenMember.placed offset members).map fun (offset, member) => ⟨offset, member.text⟩ := by
  induction members generalizing offset with
  | nil => rfl
  | cons member others ih =>
    rw [List.map_cons, piecesAt, ih]
    rfl

theorem splitSpans_body (members : List WrittenMember) :
    splitSpans (WrittenMember.body members) [','] =
      (WrittenMember.placed 0 members).map fun (offset, member) => ⟨offset, member.text⟩ := by
  rw [WrittenMember.body, splitSpans_join, piecesAt_texts]
  · rintro t here
    obtain ⟨member, -, rfl⟩ := List.mem_map.mp here
    exact member.closed
  · rintro t here
    obtain ⟨member, -, rfl⟩ := List.mem_map.mp here
    exact member.trimmed

/-- **An object literal is read as the members of which it was written**, in their order and each at
the offset where it stands. Only a member with an empty computed key is left out. -/
theorem objectEntries_body (members : List WrittenMember) :
    objectEntries (WrittenMember.body members) =
        .ok ((WrittenMember.placed 0 members).filterMap fun (offset, member) =>
          if member.keyIsEmpty then none else some (member.entry offset)) ∧
      (WrittenMember.placed 0 members).map Prod.snd = members ∧
        ∀ offset member, (offset, member) ∈ WrittenMember.placed 0 members →
          member.text <+: (WrittenMember.body members).drop offset := by
  refine ⟨?_, map_snd_placed 0 members, fun _ _ => text_prefix_of_mem_placed⟩
  rw [objectEntries, splitSpans_body, List.foldr_map]
  generalize WrittenMember.placed 0 members = places
  induction places with
  | nil => rfl
  | cons place places ih =>
    obtain ⟨offset, member⟩ := place
    rw [List.foldr_cons, ih, entryOf_text]
    cases empty : member.keyIsEmpty with
    | true => simp [empty]; rfl
    | false => simp [empty]; rfl

/-- A method whose name is a word that also stands before it. -/
def getter : WrittenMember :=
  .method ("get".toList ++ [' ']) ⟨.name, "get", proper_of_all (by decide) (by decide)⟩ [] [' '] []
    (.word (by decide) (List.cons_ne_nil ' ' []) (List.all_eq_true.mp (by decide)))
    ((@closed_nil []).group .round) (List.all_eq_true.mp (by decide))
    ((@closed_nil []).group .curly)

/-- The method between a name that stands for itself and a spread. -/
def getterMembers : List WrittenMember :=
  [.shorthand "async" (proper_of_all (by decide) (by decide)), getter,
    .spread "set" (closed_of_all (by decide))
      (trimmed_of_identifier (proper_of_all (by decide) (by decide)))]

theorem objectEntries_body_getter :
    objectEntries "async, get get() \x7b\x7d, ...set" =
        .ok [⟨some "async", "async", 0, .shorthand⟩, ⟨some "get", "() \x7b\x7d", 7, .method⟩,
          ⟨none, "set", 21, .spread⟩] ∧
      (7, getter) ∈ WrittenMember.placed 0 getterMembers ∧
        getter.text <+: (WrittenMember.body getterMembers).drop 7 := by
  obtain ⟨read, -, stands⟩ := objectEntries_body getterMembers
  have text : WrittenMember.body getterMembers = "async, get get() \x7b\x7d, ...set".toList := by
    decide
  have here : (7, getter) ∈ WrittenMember.placed 0 getterMembers :=
    List.mem_cons_of_mem _ List.mem_cons_self
  rw [text] at read
  exact ⟨read.trans (by decide), here, stands 7 getter here⟩

/-- A property whose key is computed from nothing. -/
def namelessProperty : WrittenMember :=
  .property ⟨.computed, [], closed_nil, rfl, List.not_mem_nil⟩ [' '] ['1']
    (List.all_eq_true.mp (by decide))
    (closed_of_all (by decide))
    (Text.trimmed_of_ends rfl (List.nil_append _).symm (by decide) (by decide))

/-- A computed key with nothing between its brackets is no key, so its member has no entry. -/
theorem objectEntries_namelessProperty :
    WrittenMember.body [namelessProperty] = "[]: 1".toList ∧
      namelessProperty.entry 0 = ⟨some [], ['1'], 0, .property⟩ ∧
      objectEntries (WrittenMember.body [namelessProperty]) = .ok [] ∧
      ¬ ∀ members, objectEntries (WrittenMember.body members) =
        .ok ((WrittenMember.placed 0 members).map fun (offset, member) => member.entry offset) := by
  have none : objectEntries (WrittenMember.body [namelessProperty]) = .ok [] := by decide
  refine ⟨rfl, rfl, none, ?_⟩
  intro each
  have one := none.symm.trans (each [namelessProperty])
  contradiction

end SfcLint.Script
