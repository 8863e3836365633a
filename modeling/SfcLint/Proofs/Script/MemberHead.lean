/-
# Heads of members

A member of an object literal starts with its head: perhaps a word or a star, then the key, then
blanks and a sign that tells the kind of the member. A text has at most one head.
-/

import SfcLint.Proofs.Text.Blank
import SfcLint.Script.Entry

namespace SfcLint.Script

/-- What may stand before a key. -/
inductive Accessor : Text → Prop
  | bare : Accessor []
  | word {word blanks : Text} :
      word ∈ ["async".toList, "get".toList, "set".toList] → blanks ≠ [] →
        (∀ c ∈ blanks, Text.isBlank c = true) → Accessor (word ++ blanks)
  | star {blanks : Text} : (∀ c ∈ blanks, Text.isBlank c = true) → Accessor ('*' :: blanks)

/-- The ways to write a key: as a name, in quotes of either kind, or computed in brackets. -/
inductive KeyForm
  | name
  | single
  | double
  | computed
  deriving DecidableEq

namespace KeyForm

/-- What a key is set aside as. -/
def label : KeyForm → String
  | name => "name"
  | single => "single"
  | double => "double"
  | computed => "computed"

/-- The sign before the key. -/
def opening : KeyForm → Text
  | name => []
  | single => ['\'']
  | double => ['"']
  | computed => ['[']

/-- The sign behind the key. -/
def closing : KeyForm → Text
  | name => []
  | single => ['\'']
  | double => ['"']
  | computed => [']']

/-- The text can be written in this form. -/
def Proper : KeyForm → Text → Prop
  | name, t => ∃ c rest, t = c :: rest ∧ Text.isNameStart c = true ∧
      ∀ d ∈ rest, Text.isNameChar d = true
  | single, t => '\'' ∉ t
  | double, t => '"' ∉ t
  | computed, t => t ≠ [] ∧ ']' ∉ t

/-- The text as it is written in this form. -/
def written (form : KeyForm) (t : Text) : Text := form.opening ++ t ++ form.closing

/-- The key that the text names in this form. -/
def named : KeyForm → Text → Except Failure Text
  | single, [] => .error .emptyKey
  | computed, t => .ok (Text.strip t)
  | _, t => .ok t

end KeyForm

/-- The sign behind a key by which a kind of member is known. -/
def EntryKind.sign : EntryKind → Text
  | property => [':']
  | method => ['(']
  | _ => []

/-- The head of a member and what follows it. A name stands for itself only where the text ends. -/
structure Head where
  accessor : Text
  form : KeyForm
  inner : Text
  blanks : Text
  kind : EntryKind
  rest : Text
  isAccessor : Accessor accessor
  proper : form.Proper inner
  blank : ∀ c ∈ blanks, Text.isBlank c = true
  keyed : kind ≠ .spread
  ends : kind = .shorthand → rest = []

namespace Head

/-- The text from the key on. -/
def tail (head : Head) : Text :=
  head.form.written head.inner ++ (head.blanks ++ (head.kind.sign ++ head.rest))

/-- The head and what follows it. -/
def text (head : Head) : Text := head.accessor ++ head.tail

/-- The head without what follows it. -/
def front (head : Head) : Text :=
  head.accessor ++ (head.form.written head.inner ++ (head.blanks ++ head.kind.sign))

/-- How long the head is. -/
def stop (head : Head) : Nat := head.front.length

/-- The key of the member. -/
def key (head : Head) : Except Failure Text := head.form.named head.inner

theorem text_eq_front (head : Head) : head.text = head.front ++ head.rest := by
  rw [text, tail, front, List.append_assoc, List.append_assoc, List.append_assoc]

/-- Where something follows, the head ends with its sign. -/
theorem exists_front_eq (head : Head) (some : head.rest ≠ []) :
    ∃ before sign, head.front = before ++ [sign] ∧ Text.isBlank sign = false := by
  rw [front, ← List.append_assoc, ← List.append_assoc]
  cases kind : head.kind with
  | property => exact ⟨_, ':', rfl, by decide⟩
  | method => exact ⟨_, '(', rfl, by decide⟩
  | shorthand => exact absurd (head.ends kind) some
  | spread => exact absurd kind head.keyed

end Head

/-- A key can start with the character. -/
def startsKey (c : Char) : Bool := Text.isNameStart c || Pattern.among "'\"[" c

theorem KeyForm.Proper.written_eq {form : KeyForm} {t : Text} (proper : form.Proper t) :
    ∃ c rest, form.written t = c :: rest ∧ startsKey c = true := by
  cases form with
  | name =>
    obtain ⟨c, rest, rfl, starts, -⟩ := proper
    exact ⟨c, rest ++ [], rfl, by rw [startsKey, starts, Bool.true_or]⟩
  | single => exact ⟨'\'', t ++ ['\''], rfl, by decide⟩
  | double => exact ⟨'"', t ++ ['"'], rfl, by decide⟩
  | computed => exact ⟨'[', t ++ [']'], rfl, by decide⟩

/-- Of a given text it can be evaluated whether it is an identifier. -/
theorem proper_of_all {name : Text} (starts : name.head?.any Text.isNameStart = true)
    (continues : name.tail.all Text.isNameChar = true) : KeyForm.name.Proper name := by
  cases name with
  | nil => contradiction
  | cons c rest => exact ⟨c, rest, rfl, starts, List.all_eq_true.mp continues⟩

/-! ## A text has one head -/

/-- The longest beginning of one sort of characters is found in one way only. -/
theorem span_unique {p : Char → Bool} {front front' back back' : Text}
    (all : ∀ c ∈ front, p c = true) (all' : ∀ c ∈ front', p c = true)
    (stops : ∀ c, back.head? = some c → p c = false)
    (stops' : ∀ c, back'.head? = some c → p c = false) (same : front ++ back = front' ++ back') :
    front = front' ∧ back = back' := by
  have span {front back : Text} (all : ∀ c ∈ front, p c = true)
      (stops : ∀ c, back.head? = some c → p c = false) :
      (front ++ back).takeWhile p = front := by
    rw [List.takeWhile_append_of_pos all]
    cases back with
    | nil => simp
    | cons c back => rw [List.takeWhile_cons_of_neg (by rw [stops c rfl]; decide), List.append_nil]
  have fronts : front = front' := by
    rw [← span all stops, same, span all' stops']
  subst fronts
  exact ⟨rfl, List.append_cancel_left same⟩

theorem not_isBlank_of_startsKey {c : Char} (starts : startsKey c = true) :
    Text.isBlank c = false := by
  rw [← Bool.not_eq_true]
  intro blank
  rw [startsKey, Bool.or_eq_true] at starts
  rcases starts with start | quote
  · have other := Text.isNameChar_of_isBlank blank
    rw [Text.isNameChar_of_isNameStart start] at other
    contradiction
  · have listed : c = '\'' ∨ c = '"' ∨ c = '[' := by simpa [Pattern.among] using quote
    rcases listed with rfl | rfl | rfl
    · exact absurd blank (by decide)
    · exact absurd blank (by decide)
    · exact absurd blank (by decide)

namespace Head

/-- No blank follows the blanks behind a key, and no name is continued there. -/
theorem sign_stops (head : Head) {c : Char}
    (first : (head.kind.sign ++ head.rest).head? = some c) : c = ':' ∨ c = '(' := by
  cases kind : head.kind with
  | property =>
    rw [kind] at first
    exact .inl (Option.some.inj first).symm
  | method =>
    rw [kind] at first
    exact .inr (Option.some.inj first).symm
  | shorthand =>
    rw [kind, head.ends kind] at first
    contradiction
  | spread => exact absurd kind head.keyed

theorem blanks_stop (head : Head) {c : Char}
    (first : (head.kind.sign ++ head.rest).head? = some c) : Text.isBlank c = false := by
  rcases head.sign_stops first with rfl | rfl
  · decide
  · decide

theorem name_stops (head : Head) {c : Char}
    (first : (head.blanks ++ (head.kind.sign ++ head.rest)).head? = some c) :
    Text.isNameChar c = false := by
  cases between : head.blanks with
  | nil =>
    rw [between, List.nil_append] at first
    rcases head.sign_stops first with rfl | rfl
    · decide
    · decide
  | cons d later =>
    rw [between] at first
    obtain rfl := Option.some.inj first
    refine Text.isNameChar_of_isBlank (head.blank _ ?_)
    rw [between]
    exact List.mem_cons_self

end Head

theorem accessor_word_eq {word : Text}
    (listed : word ∈ ["async".toList, "get".toList, "set".toList]) :
    (∀ c ∈ word, Text.isNameChar c = true) ∧
      ∃ c rest, word = c :: rest ∧ Text.isNameStart c = true := by
  simp only [List.mem_cons, List.not_mem_nil, or_false] at listed
  rw [← List.all_eq_true]
  rcases listed with rfl | rfl | rfl
  · exact ⟨by decide, _, _, rfl, by decide⟩
  · exact ⟨by decide, _, _, rfl, by decide⟩
  · exact ⟨by decide, _, _, rfl, by decide⟩

/-- A word before a key is followed by a blank, so it is a whole name. -/
theorem name_stops_blanks {blanks rest : Text} (some : blanks ≠ [])
    (blank : ∀ c ∈ blanks, Text.isBlank c = true) {c : Char}
    (first : (blanks ++ rest).head? = Option.some c) : Text.isNameChar c = false := by
  obtain ⟨d, later, rfl⟩ := List.exists_cons_of_ne_nil some
  obtain rfl := Option.some.inj first
  exact Text.isNameChar_of_isBlank (blank _ List.mem_cons_self)

theorem accessor_unique {accessor accessor' rest rest' : Text} {c c' : Char}
    (isAccessor : Accessor accessor) (isAccessor' : Accessor accessor') (some : accessor ≠ [])
    (some' : accessor' ≠ []) (starts : startsKey c = true) (starts' : startsKey c' = true)
    (same : accessor ++ c :: rest = accessor' ++ c' :: rest') : accessor = accessor' := by
  have stops {c : Char} {rest : Text} (starts : startsKey c = true) (d : Char)
      (first : (c :: rest).head? = Option.some d) : Text.isBlank d = false := by
    obtain rfl := Option.some.inj first
    exact not_isBlank_of_startsKey starts
  -- A word does not start like a star.
  have differ {word blanks blanks' rest rest' : Text}
      (listed : word ∈ ["async".toList, "get".toList, "set".toList])
      (same : word ++ blanks ++ rest = '*' :: blanks' ++ rest') : False := by
    obtain ⟨-, d, later, rfl, start⟩ := accessor_word_eq listed
    obtain ⟨rfl, -⟩ := List.cons.inj same
    exact absurd start (by decide)
  cases isAccessor with
  | bare => contradiction
  | @word word blanks listed nonempty blank =>
    cases isAccessor' with
    | bare => contradiction
    | @word word' blanks' listed' nonempty' blank' =>
      rw [List.append_assoc, List.append_assoc] at same
      obtain ⟨rfl, later⟩ := span_unique (accessor_word_eq listed).1
        (accessor_word_eq listed').1 (fun _ => name_stops_blanks nonempty blank)
        (fun _ => name_stops_blanks nonempty' blank') same
      obtain ⟨rfl, -⟩ := span_unique blank blank' (stops starts) (stops starts') later
      rfl
    | star blank' => exact (differ listed same).elim
  | star blank =>
    cases isAccessor' with
    | bare => contradiction
    | word listed' nonempty' blank' => exact (differ listed' same.symm).elim
    | star blank' =>
      obtain ⟨-, later⟩ := List.cons.inj same
      obtain ⟨rfl, -⟩ := span_unique blank blank' (stops starts) (stops starts') later
      rfl

/-- What starts with an accessor or like a key starts with a star or like a key. -/
theorem Accessor.append_eq {accessor : Text} {c : Char} (isAccessor : Accessor accessor)
    (starts : startsKey c = true) (rest : Text) :
    ∃ d later, accessor ++ c :: rest = d :: later ∧ (d = '*' ∨ startsKey d = true) := by
  cases isAccessor with
  | bare => exact ⟨c, rest, rfl, .inr starts⟩
  | star blank => exact ⟨'*', _, rfl, .inl rfl⟩
  | word listed =>
    obtain ⟨-, d, later, rfl, start⟩ := accessor_word_eq listed
    exact ⟨d, _, rfl, .inr (by rw [startsKey, start, Bool.true_or])⟩

theorem not_isBlank_of_starts {c : Char} (starts : c = '*' ∨ startsKey c = true) :
    Text.isBlank c = false := by
  rcases starts with rfl | starts
  · decide
  · exact not_isBlank_of_startsKey starts

namespace Head

theorem tail_eq (head : Head) : ∃ c rest, head.tail = c :: rest ∧ startsKey c = true := by
  obtain ⟨c, rest, written, starts⟩ := head.proper.written_eq
  exact ⟨c, _, by rw [tail, written, List.cons_append], starts⟩

/-- A head starts with a star or like a key. -/
theorem text_eq (head : Head) :
    ∃ c rest, head.text = c :: rest ∧ (c = '*' ∨ startsKey c = true) := by
  obtain ⟨c, rest, tail, starts⟩ := head.tail_eq
  rw [text, tail]
  exact head.isAccessor.append_eq starts rest

/-- A text that starts with a word for accessors and then with a key has no head without it. -/
theorem accessor_ne_nil {head : Head} {accessor rest : Text} {c : Char}
    (isAccessor : Accessor accessor) (some : accessor ≠ []) (starts : startsKey c = true)
    (same : head.text = accessor ++ c :: rest) : head.accessor ≠ [] := by
  intro bare
  rw [text, bare, List.nil_append] at same
  cases isAccessor with
  | bare => contradiction
  | star blank =>
    obtain ⟨d, later, tail, starts⟩ := head.tail_eq
    rw [tail] at same
    obtain ⟨rfl, -⟩ := List.cons.inj same
    exact absurd starts (by decide)
  | @word word blanks listed nonempty blank =>
    obtain ⟨characters, d, later, split, start⟩ := accessor_word_eq listed
    -- The word is the key of the head, and its blanks stand before a sign.
    have name : head.form = .name := by
      rw [split, tail] at same
      cases form : head.form with
      | name => rfl
      | _ =>
        rw [form] at same
        obtain ⟨rfl, -⟩ := List.cons.inj same
        exact absurd start (by decide)
    obtain ⟨e, rest', inner, starts', continues⟩ : KeyForm.name.Proper head.inner :=
      name ▸ head.proper
    have written : head.form.written head.inner = head.inner := by
      rw [name, KeyForm.written, KeyForm.opening, KeyForm.closing, List.nil_append, List.append_nil]
    rw [tail, written, List.append_assoc] at same
    obtain ⟨-, behind⟩ := span_unique (by
      rw [inner]
      exact List.forall_mem_cons.mpr ⟨Text.isNameChar_of_isNameStart starts', continues⟩)
      characters (fun _ => head.name_stops) (fun _ => name_stops_blanks nonempty blank) same
    obtain ⟨-, sign⟩ := span_unique head.blank blank (fun _ => head.blanks_stop)
      (fun d first => by
        obtain rfl := Option.some.inj first
        exact not_isBlank_of_startsKey starts) behind
    have first := congrArg List.head? sign
    rcases head.sign_stops first with rfl | rfl
    · exact absurd starts (by decide)
    · exact absurd starts (by decide)

end Head

namespace KeyForm

/-- The form of a key that starts with the character. -/
def ofFirst (c : Char) : KeyForm :=
  if c = '\'' then single else if c = '"' then double else if c = '[' then computed else name

theorem Proper.eq_ofFirst {form : KeyForm} {t rest : Text} {c : Char} (proper : form.Proper t)
    (written : form.written t = c :: rest) : form = ofFirst c := by
  cases form with
  | name =>
    obtain ⟨d, later, rfl, starts, -⟩ := proper
    obtain ⟨rfl, -⟩ := List.cons.inj written
    have other (quote : Char) (noName : Text.isNameStart quote = false) : d ≠ quote := by
      rintro rfl
      rw [noName] at starts
      contradiction
    rw [ofFirst, if_neg (other _ (by decide)), if_neg (other _ (by decide)),
      if_neg (other _ (by decide))]
  | _ =>
    obtain ⟨rfl, -⟩ := List.cons.inj written
    rfl

/-- The characters of which a key in this form is made. -/
def inside : KeyForm → Char → Bool
  | name, c => Text.isNameChar c
  | single, c => c != '\''
  | double, c => c != '"'
  | computed, c => c != ']'

theorem Proper.inside {form : KeyForm} {t : Text} (proper : form.Proper t) :
    ∀ c ∈ t, form.inside c = true := by
  have other {quote : Char} (missing : quote ∉ t) : ∀ c ∈ t, (c != quote) = true := by
    intro c member
    rw [bne_iff_ne]
    rintro rfl
    exact missing member
  cases form with
  | name =>
    obtain ⟨c, rest, rfl, starts, continues⟩ := proper
    exact List.forall_mem_cons.mpr ⟨Text.isNameChar_of_isNameStart starts, continues⟩
  | single => exact other proper
  | double => exact other proper
  | computed => exact other proper.2

/-- Behind a key comes its closing sign or, after a name, what continues no name. -/
theorem closing_stops {form : KeyForm} {after : Text}
    (stops : ∀ c, after.head? = some c → Text.isNameChar c = false) (c : Char)
    (first : (form.closing ++ after).head? = some c) : form.inside c = false := by
  cases form with
  | name => exact stops c first
  | _ =>
    obtain rfl := Option.some.inj first
    rfl

end KeyForm

namespace Head

theorem tail_eq_written (head : Head) : head.tail = head.form.opening ++ (head.inner ++
    (head.form.closing ++ (head.blanks ++ (head.kind.sign ++ head.rest)))) := by
  rw [tail, KeyForm.written, List.append_assoc, List.append_assoc]

theorem kind_eq {head head' : Head}
    (same : head.kind.sign ++ head.rest = head'.kind.sign ++ head'.rest) :
    head.kind = head'.kind := by
  have ends := head.ends
  have ends' := head'.ends
  have keyed := head.keyed
  have keyed' := head'.keyed
  cases kind : head.kind <;> cases kind' : head'.kind <;>
    simp_all [EntryKind.sign]

/-- A text has only one head. -/
theorem text_injective {head head' : Head} (same : head.text = head'.text) : head = head' := by
  obtain ⟨c, rest, tail, starts⟩ := head.tail_eq
  obtain ⟨c', rest', tail', starts'⟩ := head'.tail_eq
  have accessors : head.accessor = head'.accessor := by
    have split : head.text = head.accessor ++ c :: rest := by rw [text, tail]
    have split' : head'.text = head'.accessor ++ c' :: rest' := by rw [text, tail']
    by_cases bare : head.accessor = []
    · by_cases bare' : head'.accessor = []
      · rw [bare, bare']
      · exact absurd bare (accessor_ne_nil head'.isAccessor bare' starts' (same.trans split'))
    · have some := accessor_ne_nil head.isAccessor bare starts (same.symm.trans split)
      exact accessor_unique head.isAccessor head'.isAccessor bare some starts starts'
        (split.symm.trans (same.trans split'))
  -- The accessors are the same, so what follows them is, too; then the form is seen from its first
  -- sign.
  rw [text, text, accessors, List.append_cancel_left_eq] at same
  have forms : head.form = head'.form := by
    obtain ⟨d, later, written, -⟩ := head.proper.written_eq
    obtain ⟨d', later', written', -⟩ := head'.proper.written_eq
    have first := congrArg List.head? same
    rw [Head.tail, Head.tail, written, written'] at first
    obtain rfl := Option.some.inj first
    rw [head.proper.eq_ofFirst written, head'.proper.eq_ofFirst written']
  rw [tail_eq_written, tail_eq_written, forms, List.append_cancel_left_eq] at same
  -- A key goes on to where its form has it end, and the blanks go on to the sign.
  obtain ⟨inners, behind⟩ := span_unique (forms ▸ head.proper).inside head'.proper.inside
    (KeyForm.closing_stops fun _ => head.name_stops)
    (KeyForm.closing_stops fun _ => head'.name_stops) same
  obtain ⟨betweens, signs⟩ := span_unique head.blank head'.blank (fun _ => head.blanks_stop)
    (fun _ => head'.blanks_stop) (List.append_cancel_left behind)
  have kinds := kind_eq signs
  rw [kinds, List.append_cancel_left_eq] at signs
  cases head
  cases head'
  simp only at accessors forms inners betweens kinds signs
  subst accessors forms inners betweens kinds signs
  rfl

end Head

end SfcLint.Script
