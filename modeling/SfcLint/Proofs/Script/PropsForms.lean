/-
# Forms of declared props

The same props are declared in five forms: as a list or an object of the option, as a list or an
object that the macro is given, and as a type literal that it is given as type argument. Each form
is found as one declaration with the text that lists the props, and from each text the same names
are read, in their order.
-/

import SfcLint.Proofs.Script.TypeMembers

namespace SfcLint.Script

/-! ## The forms -/

namespace PropsKind

/-- The brackets around the text that lists the props. -/
def bracket : PropsKind → Bracket
  | array => .square
  | object => .curly
  | type => .curly

/-- The text that lists the props. -/
def body (props : List WrittenProp) : PropsKind → Text
  | array => Text.join ", " (props.map fun prop => '\'' :: (prop.name ++ ['\'']))
  | object =>
      ' ' :: (Text.join ", " (props.map fun prop => prop.name ++ ':' :: ' ' :: prop.type) ++ [' '])
  | type => membersText props

/-- The list, the object or the type literal. -/
def literal (props : List WrittenProp) (kind : PropsKind) : Text :=
  kind.bracket.opener :: (kind.body props ++ [kind.bracket.closer])

end PropsKind

/-- The forms in which props are declared. -/
inductive PropsForm
  | optionArray
  | optionObject
  | argumentArray
  | argumentObject
  | typeArgument
  deriving DecidableEq, Repr

namespace PropsForm

/-- The kind of declaration that the form is. -/
def kind : PropsForm → PropsKind
  | optionArray | argumentArray => .array
  | optionObject | argumentObject => .object
  | typeArgument => .type

/-- The text that declares the props in this form. -/
def text (props : List WrittenProp) (form : PropsForm) : Text :=
  match form with
  | optionArray | optionObject => "props: ".toList ++ form.kind.literal props
  | argumentArray | argumentObject => "defineProps(".toList ++ (form.kind.literal props ++ [')'])
  | typeArgument => "defineProps<".toList ++ (form.kind.literal props ++ ">()".toList)

end PropsForm

/-- The words that a declaration begins with. -/
def propsWords : List Text := ["props".toList, "defineProps".toList]

/-- The word stands nowhere in the text. -/
def Lacks (word t : Text) : Prop := ¬ word <:+: t

open Pattern

variable {word front back : Text} {c : Char} {props : List WrittenProp}

/-! ## Words that stand nowhere -/

/-- The signs between the parts of a declaration. -/
def seams : Text := "'\",;:? ()[]\x7b\x7d<>".toList

theorem not_mem_of_seam (listed : word ∈ propsWords) (seam : c ∈ seams) : c ∉ word := by
  have signs : (propsWords.all fun word => seams.all fun c => decide (c ∉ word)) = true := by
    decide
  exact List.all_iff_forall_prop.mp (List.all_eq_true.mp signs word listed) c seam

/-- Over a sign no word goes on. -/
theorem lacks_seam (listed : word ∈ propsWords) (seam : c ∈ seams) (before : Lacks word front)
    (behind : Lacks word back) : Lacks word (front ++ c :: back) := by
  have absent := not_mem_of_seam listed seam
  -- What begins with the sign and is a part of the word is empty.
  have nothing {t : Text} (part : t ⊆ word) (starts : t <+: c :: back) : t = [] := by
    rcases List.prefix_cons_iff.mp starts with none | ⟨rest, rfl, -⟩
    · exact none
    · exact absurd (part List.mem_cons_self) absent
  intro inside
  rcases List.infix_append_iff.mp inside with inside | inside | ⟨first, last, rfl, ends, starts⟩
  · exact before inside
  · rcases List.infix_cons_iff.mp inside with starts | inside
    · rw [nothing (List.Subset.refl word) starts] at behind
      exact behind List.nil_infix
    · exact behind inside
  · rw [nothing (List.subset_append_right first last) starts, List.append_nil] at before
    exact before ends.isInfix

theorem lacks_of_not_mem (inside : c ∈ word) (absent : c ∉ front) : Lacks word front :=
  fun stands => absent (stands.subset inside)

theorem lacks_nil (listed : word ∈ propsWords) : Lacks word [] := by
  have some : ∀ word ∈ propsWords, ¬ word <:+: [] := by decide
  exact some word listed

theorem lacks_cons (listed : word ∈ propsWords) (seam : c ∈ seams) (behind : Lacks word back) :
    Lacks word (c :: back) :=
  lacks_seam listed seam (lacks_nil listed) behind

theorem lacks_concat (listed : word ∈ propsWords) (seam : c ∈ seams) (before : Lacks word front) :
    Lacks word (front ++ [c]) :=
  lacks_seam listed seam before (lacks_nil listed)

theorem lacks_join (listed : word ∈ propsWords) (seam : c ∈ seams) {texts : List Text}
    (lacks : ∀ t ∈ texts, Lacks word t) : Lacks word (Text.join [c, ' '] texts) := by
  induction texts with
  | nil => exact lacks_nil listed
  | cons first others ih =>
    rw [List.forall_mem_cons] at lacks
    cases others with
    | nil =>
      rw [Text.join_singleton]
      exact lacks.1
    | cons next others =>
      rw [Text.join_cons_cons]
      exact lacks_seam listed seam lacks.1 (lacks_cons listed (by decide) (ih lacks.2))

/-- Neither the name of the prop nor its type holds a word that begins a declaration. -/
def WrittenProp.Apart (prop : WrittenProp) : Prop :=
  ∀ word ∈ propsWords, Lacks word prop.name ∧ Lacks word prop.type

theorem lacks_readonly (listed : word ∈ propsWords) : Lacks word "readonly".toList := by
  have letter : ∀ word ∈ propsWords, 's' ∈ word := by decide
  exact lacks_of_not_mem (letter word listed) (by decide)

/-- The text that lists the props holds no word that begins a declaration. -/
theorem lacks_body (listed : word ∈ propsWords) (apart : ∀ prop ∈ props, prop.Apart)
    (kind : PropsKind) : Lacks word (kind.body props) := by
  cases kind with
  | array =>
    refine lacks_join listed (by decide) (List.forall_mem_map.mpr fun prop inside => ?_)
    exact lacks_cons listed (by decide)
      (lacks_concat listed (by decide) (apart prop inside word listed).1)
  | object =>
    refine lacks_cons listed (by decide) (lacks_concat listed (by decide) ?_)
    refine lacks_join listed (by decide) (List.forall_mem_map.mpr fun prop inside => ?_)
    obtain ⟨name, type⟩ := apart prop inside word listed
    exact lacks_seam listed (by decide) name (lacks_cons listed (by decide) type)
  | type =>
    refine lacks_cons listed (by decide) (lacks_concat listed (by decide) ?_)
    refine lacks_join listed (by decide) (List.forall_mem_map.mpr fun prop inside => ?_)
    obtain ⟨name, type⟩ := apart prop inside word listed
    have marked : Lacks word (prop.name ++ prop.mark) := by
      unfold WrittenProp.mark
      cases prop.isOptional with
      | true => exact lacks_concat listed (by decide) name
      | false => rwa [if_neg Bool.false_ne_true, List.append_nil]
    have head : Lacks word prop.head := by
      unfold WrittenProp.head WrittenProp.word
      cases prop.isReadonly with
      | true =>
        rw [if_pos rfl, List.append_assoc]
        exact lacks_seam listed (by decide) (lacks_readonly listed) marked
      | false => rwa [if_neg Bool.false_ne_true, List.nil_append]
    exact lacks_seam listed (by decide) head (lacks_cons listed (by decide) type)

theorem lacks_literal (listed : word ∈ propsWords) (apart : ∀ prop ∈ props, prop.Apart)
    (kind : PropsKind) : Lacks word (kind.literal props) := by
  refine lacks_cons listed ?_ (lacks_concat listed ?_ (lacks_body listed apart kind))
  · cases kind <;> decide
  · cases kind <;> decide

/-! ## The text that lists the props is closed -/

theorem closed_quoted (prop : WrittenProp) : Closed [','] ('\'' :: (prop.name ++ ['\''])) := by
  have other {sign : Char} (noLetter : Text.isNameChar sign = false) : sign ∉ prop.name := by
    intro member
    have inside : Text.isNameChar sign = true := prop.identifier.inside sign member
    rw [noLetter] at inside
    contradiction
  exact closed_of_literal fun after => .single (quotedTail_of_plain (other (by decide))
    (other (by decide)) (other (by decide)) after)

theorem closed_member (prop : WrittenProp) : Closed [] prop.member := by
  have head : Closed [] (prop.head ++ [':'] ++ [' ']) := by
    refine closed_of_beginsNoLiteral fun c member => prop.plain_head c ?_
    rw [List.append_assoc] at member
    exact List.mem_cons_of_mem _ member
  have split : prop.member = prop.head ++ [':'] ++ [' '] ++ prop.type := by
    simp [WrittenProp.member]
  rw [split]
  exact head.append (prop.closed.weaken (List.nil_subset _)) (apart_concat (by decide) _ _)

/-- The prop as a member of an object literal. -/
def WrittenProp.property (prop : WrittenProp) : WrittenMember :=
  .property ⟨.name, prop.name, prop.identifier⟩ [' '] prop.type Text.isBlank_space
    (prop.closed.weaken (by decide)) prop.trimmed

theorem property_text (prop : WrittenProp) :
    prop.property.text = prop.name ++ ':' :: ' ' :: prop.type := by
  simp [WrittenProp.property, WrittenMember.text, WrittenKey.text, KeyForm.written,
    KeyForm.opening, KeyForm.closing]

theorem body_object (props : List WrittenProp) : PropsKind.object.body props = [' '] ++
    (Text.join ", " ((props.map WrittenProp.property).map WrittenMember.text) ++ [' ']) := by
  have texts : (props.map WrittenProp.property).map WrittenMember.text =
      props.map fun prop => prop.name ++ ':' :: ' ' :: prop.type := by
    rw [List.map_map]
    exact List.map_congr_left fun prop _ => property_text prop
  rw [texts]
  rfl

theorem closed_body (props : List WrittenProp) (kind : PropsKind) :
    Closed [] (kind.body props) := by
  have visible : ∀ d ∈ [], Text.isBlank d = false := List.forall_mem_nil _
  cases kind with
  | array => exact closed_join (List.forall_mem_map.mpr fun prop _ => closed_quoted prop)
  | object =>
    have properties : ∀ t ∈ (props.map WrittenProp.property).map WrittenMember.text,
        Closed [','] t := List.forall_mem_map.mpr fun member _ => member.closed
    rw [body_object]
    exact Closed.around visible (closed_join properties) Text.isBlank_space Text.isBlank_space
  | type =>
    have members : ∀ t ∈ props.map WrittenProp.member, Closed [] t :=
      List.forall_mem_map.mpr fun prop _ => closed_member prop
    exact Closed.around visible
      (Closed.join (closed_of_all (by decide)) (by decide) (by decide) members)
      Text.isBlank_space Text.isBlank_space

theorem closed_literal {signs : Text} (props : List WrittenProp) (kind : PropsKind) :
    Closed signs (kind.literal props) :=
  (closed_body props kind).group kind.bracket

/-! ## Reading the names -/

theorem unquoted?_quoted (t : Text) : unquoted? ('\'' :: (t ++ ['\''])) = some t := by
  have quoted : (isQuote '\'' && (t ++ ['\'']).getLast?.any isQuote) = true := by
    rw [List.getLast?_concat]
    decide
  rw [unquoted?, if_pos quoted, List.dropLast_concat]

/-- Members without an empty key are read one by one, and so are their keys. -/
theorem exists_objectEntries {t : Text} {members : List WrittenMember}
    (texts : splitCommas t = members.map WrittenMember.text)
    (keyed : ∀ member ∈ members, member.keyIsEmpty = false) :
    ∃ entries, objectEntries t = .ok entries ∧
      entries.map (·.key) = members.map fun member => (member.entry 0).key := by
  rw [splitCommas, split] at texts
  rw [objectEntries]
  -- Induction on the members: the piece of each is read without the others.
  generalize splitSpans t [','] = pieces at texts
  induction members generalizing pieces with
  | nil =>
    obtain rfl := List.map_eq_nil_iff.mp texts
    exact ⟨[], rfl, rfl⟩
  | cons member members ih =>
    rw [List.forall_mem_cons] at keyed
    obtain ⟨⟨offset, _⟩, pieces, rfl, rfl, later⟩ := List.map_eq_cons_iff.mp texts
    obtain ⟨entries, read, keys⟩ := ih keyed.2 pieces later
    have key : (member.entry offset).key = (member.entry 0).key := by cases member <;> rfl
    refine ⟨member.entry offset :: entries, ?_, ?_⟩
    · rw [List.foldr_cons, read, entryOf_text, keyed.1]
      rfl
    · rw [List.map_cons, List.map_cons, keys, key]

theorem filterMap_some_name (props : List WrittenProp) :
    props.filterMap (fun prop => some prop.name) = props.map (·.name) :=
  congrFun List.filterMap_eq_map props

theorem names_array (props : List WrittenProp) :
    (splitCommas (PropsKind.array.body props)).filterMap unquoted? = props.map (·.name) := by
  let quoted (prop : WrittenProp) : Text := '\'' :: (prop.name ++ ['\''])
  have closed : ∀ t ∈ props.map quoted, Closed [','] t :=
    List.forall_mem_map.mpr fun prop _ => closed_quoted prop
  have trimmed : ∀ t ∈ props.map quoted, Text.Trimmed t :=
    List.forall_mem_map.mpr fun prop _ => Text.trimmed_between (by decide) (by decide) prop.name
  have none : ∀ c ∈ [], Text.isBlank c = true := List.forall_mem_nil _
  have parts : splitCommas (PropsKind.array.body props) = props.map quoted := by
    have joined := splitCommas_join_of_trimmed closed trimmed none none
    rwa [List.nil_append, List.append_nil] at joined
  rw [parts, List.filterMap_map, ← filterMap_some_name]
  exact List.filterMap_congr fun prop _ => unquoted?_quoted prop.name

theorem exists_objectEntries_body (props : List WrittenProp) :
    ∃ entries, objectEntries (PropsKind.object.body props) = .ok entries ∧
      (entries.filterMap (·.key)).filter (fun key => !key.isEmpty) = props.map (·.name) := by
  let members := props.map WrittenProp.property
  have closed : ∀ t ∈ members.map WrittenMember.text, Closed [','] t :=
    List.forall_mem_map.mpr fun member _ => member.closed
  have trimmed : ∀ t ∈ members.map WrittenMember.text, Text.Trimmed t :=
    List.forall_mem_map.mpr fun member _ => member.trimmed
  have parts := splitCommas_join_of_trimmed closed trimmed Text.isBlank_space Text.isBlank_space
  rw [← body_object] at parts
  have named (prop : WrittenProp) : prop.name.isEmpty = false := by
    obtain ⟨c, rest, split, -⟩ := prop.identifier
    rw [split]
    rfl
  have keyed : ∀ member ∈ members, member.keyIsEmpty = false :=
    List.forall_mem_map.mpr fun prop _ => named prop
  obtain ⟨entries, read, keys⟩ := exists_objectEntries parts keyed
  refine ⟨entries, read, ?_⟩
  have names : entries.filterMap (·.key) = props.map (·.name) := by
    have rows := congrArg (List.filterMap id) keys
    rw [List.filterMap_map, List.map_map, List.filterMap_map] at rows
    exact rows.trans (filterMap_some_name props)
  rw [names, List.filter_eq_self]
  intro key member
  obtain ⟨prop, -, rfl⟩ := List.mem_map.mp member
  rw [named]
  rfl

/-- From the text that lists the props their names are read. -/
theorem names_body (props : List WrittenProp) (kind : PropsKind) (start stop : Nat) :
    PropsDeclaration.names ⟨kind, start, stop, kind.body props⟩ = .ok (props.map (·.name)) := by
  cases kind with
  | array => exact congrArg Except.ok (names_array props)
  | object =>
    obtain ⟨entries, read, names⟩ := exists_objectEntries_body props
    rw [PropsDeclaration.names]
    dsimp only
    rw [read]
    exact congrArg Except.ok names
  | type => exact congrArg Except.ok (names_membersText props)

/-! ## Finding the word -/

/-- A pattern that begins with a word has no way where the word does not stand. -/
theorem refuses_of_lacks (lacks : Lacks word front) {test : Char → Bool} {later : Pattern} :
    ∀ back, back <:+ front → ∀ before,
      Refuses (seq (behind false test) (seq (literal word) later)) ⟨before, back⟩ := by
  intro back ends before
  refine refuses_behind_seq (refuses_seq (refuses_literal fun starts => ?_))
  exact lacks (starts.isInfix.trans ends.isInfix)

theorem refuses_propsOption (lacks : Lacks "props".toList front) :
    ∀ back, back <:+ front → ∀ before, Refuses propsOption ⟨before, back⟩ :=
  refuses_of_lacks lacks

theorem refuses_definePropsName (lacks : Lacks "defineProps".toList front) :
    ∀ back, back <:+ front → ∀ before, Refuses definePropsName ⟨before, back⟩ :=
  refuses_of_lacks lacks

/-- The option is found, up to its value. -/
theorem picks_propsOption (kind : PropsKind) (back : Text) :
    Picks propsOption ⟨none, "props: ".toList ++ kind.bracket.opener :: back⟩
      ⟨some ' ', kind.bracket.opener :: back⟩ [] := by
  have visible : Text.isBlank kind.bracket.opener = false := by cases kind <;> decide
  have opens : among "[\x7b" kind.bracket.opener = true := by cases kind <;> decide
  have split : "props: ".toList ++ kind.bracket.opener :: back =
      "props".toList ++ (':' :: ([' '] ++ kind.bracket.opener :: back)) := by simp
  rw [split]
  exact picks_seq (picks_behind rfl) (picks_seq (picks_literal "props".toList)
    (picks_seq (picks_no_blanks (by decide) _) (picks_seq (picks_literal [':'])
      (picks_seq (picks_many [' '] Text.isBlank_space (by rintro d ⟨⟩; exact visible))
        (picks_ahead (picks_one opens))))))

/-- The macro is found, up to what it is given. -/
theorem picks_definePropsName (visible : Text.isBlank c = false) (back : Text) :
    Picks definePropsName ⟨none, "defineProps".toList ++ c :: back⟩ ⟨some 's', c :: back⟩ [] :=
  picks_seq (picks_behind rfl) (picks_seq (picks_literal "defineProps".toList)
    (picks_no_blanks visible back))

/-! ## Finding the declaration -/

theorem spanAt?_literal (props : List WrittenProp) (kind : PropsKind) (before after : Text) :
    spanAt? (before ++ (kind.literal props ++ after)) before.length =
      some ⟨before.length, before.length + (kind.body props).length + 1, kind.body props⟩ := by
  have split : kind.literal props ++ after =
      kind.bracket.opener :: (kind.body props ++ kind.bracket.closer :: after) := by
    simp [PropsKind.literal]
  rw [split]
  exact spanAt?_fits ((closed_body props kind).fits kind.bracket) before after

theorem kindOfOpener_opener {kind : PropsKind} (value : kind ≠ .type) :
    kindOfOpener (some kind.bracket.opener) = kind := by
  cases kind with
  | array => decide
  | object => decide
  | type => contradiction

/-- One hit in all is the only declaration. -/
theorem propsDeclarations_eq_singleton {t : Text} {hit : Hit} {declaration : PropsDeclaration}
    (single : propsOption.hits t = [hit] ∧ definePropsName.hits t = [] ∧
        optionDeclaration? t hit = some declaration ∨
      propsOption.hits t = [] ∧ definePropsName.hits t = [hit] ∧
        macroDeclaration? t hit = some declaration) : propsDeclarations t = [declaration] := by
  rw [propsDeclarations]
  rcases single with ⟨found, none, declared⟩ | ⟨none, found, declared⟩
  · rw [found, none]
    simp [declared]
  · rw [found, none]
    simp [declared]

/-- As the value of the option the text is a declaration of its kind. -/
theorem exists_propsDeclarations_option (apart : ∀ prop ∈ props, prop.Apart) {kind : PropsKind}
    (value : kind ≠ .type) :
    ∃ stop, propsDeclarations ("props: ".toList ++ kind.literal props) =
      [⟨kind, 0, stop, kind.body props⟩] := by
  have behind : Lacks "props".toList (kind.literal props) :=
    lacks_literal List.mem_cons_self apart kind
  -- The name of the macro is longer than that of the option, and the literal does not have it.
  have whole : Lacks "defineProps".toList ("props".toList ++ ':' :: ' ' :: kind.literal props) := by
    have listed : "defineProps".toList ∈ propsWords := List.mem_cons_of_mem _ List.mem_cons_self
    have short : Lacks "defineProps".toList "props".toList := by
      intro inside
      exact absurd inside.length_le (by decide)
    exact lacks_seam listed (by decide) short
      (lacks_cons listed (by decide) (lacks_literal listed apart kind))
  have others : definePropsName.hits ("props: ".toList ++ kind.literal props) = [] :=
    allFrom_eq_nil (refuses_definePropsName whole) 0 none
  obtain ⟨hit, found, finds⟩ := exists_hits_of_picks (by simp) (picks_propsOption kind _)
    (refuses_propsOption behind)
  have span := spanAt?_literal props kind "props: ".toList []
  rw [List.append_nil] at span
  refine ⟨"props: ".toList.length + (kind.body props).length + 1 + 1, ?_⟩
  refine propsDeclarations_eq_singleton (.inl ⟨found, others, ?_⟩)
  rw [optionDeclaration?, finds.stop, finds.start, finds.rest, Nat.zero_add]
  refine (congrArg _ span).trans ?_
  rw [Option.map_some, List.head?_cons, kindOfOpener_opener value]

/-- What the macro declares is what its only hit declares. -/
theorem propsDeclarations_defineProps {declaration : PropsDeclaration} (opens : c ∈ ['(', '<'])
    (lacks : ∀ word ∈ propsWords, Lacks word back)
    (declared : ∀ hit, Finds hit 0 "defineProps".toList (c :: back) [] →
      macroDeclaration? ("defineProps".toList ++ c :: back) hit = some declaration) :
    propsDeclarations ("defineProps".toList ++ c :: back) = [declaration] := by
  have signs : ∀ c ∈ ['(', '<'], c ∈ seams ∧ Text.isBlank c = false :=
    List.all_iff_forall_prop.mp (by decide)
  obtain ⟨seam, visible⟩ := signs c opens
  have listed : "props".toList ∈ propsWords := List.mem_cons_self
  have listed' : "defineProps".toList ∈ propsWords := List.mem_cons_of_mem _ List.mem_cons_self
  have none : propsOption.hits ("defineProps".toList ++ c :: back) = [] := by
    -- The macro has a capital letter where the option has a small one.
    have other : Lacks "props".toList "defineProps".toList := by
      simp [Lacks, List.infix_cons_iff]
    have whole := lacks_seam listed seam other (lacks _ listed)
    exact allFrom_eq_nil (refuses_propsOption whole) 0 Option.none
  have behind := lacks_cons listed' seam (lacks _ listed')
  obtain ⟨hit, found, finds⟩ := exists_hits_of_picks (by simp) (picks_definePropsName visible back)
    (refuses_definePropsName behind)
  exact propsDeclarations_eq_singleton (.inr ⟨none, found, declared hit finds⟩)

theorem pastBlanks_visible (before : Text) (visible : Text.isBlank c = false) (rest : Text) :
    pastBlanks (before ++ c :: rest) before.length = before.length := by
  have past := pastBlanks_blanks before (List.forall_mem_nil _) (c :: rest)
    (by rintro d ⟨⟩; exact visible)
  rwa [List.nil_append, List.append_nil] at past

/-- Without type arguments none are read. -/
theorem typeArgumentBody_paren (before rest : Text) :
    typeArgumentBody (before ++ '(' :: rest) before.length = (none, before.length) := by
  have behind : (before ++ '(' :: rest).drop before.length = '(' :: rest := List.drop_left
  rw [typeArgumentBody, pastBlanks_visible before (by decide), behind]
  exact if_pos fun same => absurd (Option.some.inj same) (by decide)

/-- As the argument of the macro the text is a declaration of its kind. -/
theorem exists_propsDeclarations_argument (apart : ∀ prop ∈ props, prop.Apart) {kind : PropsKind}
    (value : kind ≠ .type) :
    ∃ stop, propsDeclarations ("defineProps(".toList ++ (kind.literal props ++ [')'])) =
      [⟨kind, 0, stop, kind.body props⟩] := by
  have split : "defineProps(".toList ++ (kind.literal props ++ [')']) =
      "defineProps".toList ++ '(' :: (kind.literal props ++ [')']) := by simp
  have span := spanAt?_fits ((@closed_literal [] props kind).fits .round) "defineProps".toList []
  -- The argument is a text of its own, in which the literal is looked for once more.
  have inner := spanAt?_literal props kind [] []
  rw [List.append_nil, List.nil_append, List.length_nil] at inner
  have opens : kind.bracket.opener = '[' ∨ kind.bracket.opener = '\x7b' := by
    cases kind <;> decide
  have first : Text.blankWidth (kind.literal props) = 0 :=
    blankWidth_of_visible (by cases kind <;> decide) _
  have head : (kind.literal props)[0]? = some kind.bracket.opener := rfl
  refine ⟨"defineProps".toList.length + (kind.literal props).length + 1 + 1, ?_⟩
  rw [split]
  refine propsDeclarations_defineProps (by decide) (fun word listed => ?_) fun hit finds => ?_
  · exact lacks_concat listed (by decide) (lacks_literal listed apart kind)
  · have paren : ("defineProps".toList ++ '(' :: (kind.literal props ++ [')']))[
        "defineProps".toList.length]? = some '(' := by simp
    rw [macroDeclaration?, finds.stop, finds.start, Nat.zero_add, typeArgumentBody_paren]
    dsimp only
    rw [pastBlanks_visible _ (by decide), paren, if_neg (by simp)]
    refine (congrArg (Option.bind · _) span).trans ?_
    rw [Option.bind_some]
    dsimp only
    rw [first, head]
    dsimp only
    rw [if_pos opens, inner, Option.map_some, kindOfOpener_opener value]

/-- The characters of a bracketed part are passed over. -/
theorem typeArgumentsLength_passing (passed after : Text) (depth : Nat) (before : Char) :
    typeArgumentsLength passed.length depth before (passed ++ after) =
      (typeArgumentsLength 0 depth (passed.getLast?.getD before) after).map
        (· + passed.length) := by
  induction passed generalizing before with
  | nil => simp
  | cons c passed ih =>
    rw [List.length_cons, List.cons_append, typeArgumentsLength, ih, Option.map_map,
      List.getLast?_cons, Option.getD_some]
    rfl

/-- Type arguments that are one type literal end behind it. -/
theorem typeArgumentsLength_literal {signs t : Text} (closed : Closed signs t) (after : Text) :
    typeArgumentsLength 0 0 '<' ('<' :: '\x7b' :: (t ++ '\x7d' :: '>' :: after)) =
      some (t.length + 4) := by
  have noBracket : Bracket.opened? '<' = none := rfl
  have noBracket' : Bracket.opened? '>' = none := rfl
  have brace : Bracket.opened? '\x7b' = some .curly := rfl
  have closes : closing 0 [.bracket .curly] (t ++ '\x7d' :: '>' :: after) = some (t.length + 1) :=
    closing_closed closed .curly ('>' :: after)
  have passing := typeArgumentsLength_passing (t ++ ['\x7d']) ('>' :: after) 1 '\x7b'
  rw [List.length_append, List.length_singleton, List.append_assoc, List.singleton_append,
    List.getLast?_concat, Option.getD_some] at passing
  -- Behind a brace the sign belongs to no arrow, so it closes the arguments.
  have last : typeArgumentsLength 0 1 '\x7d' ('>' :: after) = some 1 := by
    rw [typeArgumentsLength, noBracket']
    dsimp only
    rw [if_neg (by decide), if_pos (by decide), if_pos (Nat.le_refl 1)]
  rw [typeArgumentsLength, noBracket]
  dsimp only
  rw [if_pos rfl, typeArgumentsLength, brace]
  dsimp only
  rw [closes]
  dsimp only
  rw [passing, last, Option.map_some, Option.map_some, Option.map_some, Option.some.injEq]
  omega

/-- Of type arguments that are one type literal the text between its braces is read. -/
theorem typeArgumentBody_literal {signs t : Text} (closed : Closed signs t) (before after : Text) :
    typeArgumentBody (before ++ '<' :: '\x7b' :: (t ++ '\x7d' :: '>' :: after)) before.length =
      (some t, before.length + (t.length + 4)) := by
  have behind : (before ++ '<' :: '\x7b' :: (t ++ '\x7d' :: '>' :: after)).drop before.length =
      '<' :: '\x7b' :: (t ++ '\x7d' :: '>' :: after) := List.drop_left
  have argument : ('<' :: '\x7b' :: (t ++ '\x7d' :: '>' :: after)).take (t.length + 4 - 1) =
      '<' :: '\x7b' :: (t ++ ['\x7d']) := by
    have split : '<' :: '\x7b' :: (t ++ '\x7d' :: '>' :: after) =
        '<' :: '\x7b' :: (t ++ ['\x7d']) ++ '>' :: after := by simp
    rw [split]
    exact List.take_left' (by simp)
  have stripped : Text.strip ('\x7b' :: (t ++ ['\x7d'])) = '\x7b' :: (t ++ ['\x7d']) :=
    (Text.trimmed_between (by decide) (by decide) _).strip_eq.1
  have span : spanAt? ('\x7b' :: (t ++ ['\x7d'])) 0 = some ⟨0, 0 + t.length + 1, t⟩ :=
    spanAt?_fits (closed.fits .curly) [] []
  rw [typeArgumentBody, pastBlanks_visible before (by decide), behind]
  refine (if_neg (by simp)).trans ?_
  rw [typeArgumentsLength_literal closed]
  dsimp only
  rw [argument, List.drop_one, List.tail_cons, stripped, span]
  rfl

/-- As the type argument of the macro the text is a declaration of a type. -/
theorem exists_propsDeclarations_typeArgument (apart : ∀ prop ∈ props, prop.Apart) :
    ∃ stop, propsDeclarations
        ("defineProps<".toList ++ (PropsKind.type.literal props ++ ">()".toList)) =
      [⟨.type, 0, stop, PropsKind.type.body props⟩] := by
  have closed := closed_body props .type
  -- Of the body only that it is closed matters for where the arguments end.
  generalize same : PropsKind.type.body props = t at closed
  let front : Text := "defineProps".toList ++ '<' :: '\x7b' :: (t ++ ['\x7d', '>'])
  have width : front.length = "defineProps".toList.length + (t.length + 4) := by
    simp [front]
    omega
  have split : "defineProps<".toList ++ (PropsKind.type.literal props ++ ">()".toList) =
      "defineProps".toList ++ '<' :: (PropsKind.type.literal props ++ ">()".toList) := by simp
  have literal : '<' :: (PropsKind.type.literal props ++ ">()".toList) =
      '<' :: '\x7b' :: (t ++ '\x7d' :: '>' :: "()".toList) := by
    simp [PropsKind.literal, same, PropsKind.bracket, Bracket.opener, Bracket.closer]
  have whole : "defineProps".toList ++ '<' :: '\x7b' :: (t ++ '\x7d' :: '>' :: "()".toList) =
      front ++ '(' :: ([] ++ [')']) := by simp [front]
  have arguments := spanAt?_fits ((@closed_nil []).fits .round) front []
  refine ⟨front.length + 1 + 1, ?_⟩
  rw [split]
  refine propsDeclarations_defineProps (by decide) (fun word listed => ?_) fun hit finds => ?_
  · have behind : Lacks word ['(', ')'] :=
      lacks_cons listed (by decide) (lacks_cons listed (by decide) (lacks_nil listed))
    exact lacks_seam listed (by decide) (lacks_literal listed apart .type) behind
  · have typed := typeArgumentBody_literal closed "defineProps".toList "()".toList
    have paren : (front ++ '(' :: ([] ++ [')']))[front.length]? = some '(' := by simp
    rw [macroDeclaration?, finds.stop, finds.start, Nat.zero_add, literal, typed, whole, ← width]
    dsimp only
    rw [pastBlanks_visible front (by decide), paren, if_neg (by simp)]
    refine (congrArg (Option.bind · _) arguments).trans ?_
    rfl

/-- Each form is one declaration of its kind. -/
theorem exists_propsDeclarations (apart : ∀ prop ∈ props, prop.Apart) (form : PropsForm) :
    ∃ stop, propsDeclarations (form.text props) =
      [⟨form.kind, 0, stop, form.kind.body props⟩] := by
  cases form with
  | optionArray => exact exists_propsDeclarations_option apart nofun
  | optionObject => exact exists_propsDeclarations_option apart nofun
  | argumentArray => exact exists_propsDeclarations_argument apart nofun
  | argumentObject => exact exists_propsDeclarations_argument apart nofun
  | typeArgument => exact exists_propsDeclarations_typeArgument apart

theorem eraseDups_eq_self {texts : List Text} (distinct : texts.Nodup) :
    texts.eraseDups = texts := by
  induction texts with
  | nil => rfl
  | cons first others ih =>
    obtain ⟨absent, distinct⟩ := List.nodup_cons.mp distinct
    have kept : others.filter (fun t => !t == first) = others := by
      rw [List.filter_eq_self]
      intro t member
      have other : t ≠ first := by
        rintro rfl
        exact absent member
      simpa using other
    rw [List.eraseDups_cons, kept, ih distinct]

/-- **All forms of declaring props agree**: from each the same names are read, in their order. -/
theorem declaredProps_text (distinct : (props.map (·.name)).Nodup)
    (apart : ∀ prop ∈ props, prop.Apart) (form : PropsForm) :
    declaredProps (form.text props) = .ok (props.map (·.name)) := by
  obtain ⟨stop, found⟩ := exists_propsDeclarations apart form
  rw [declaredProps, found, List.mapM_cons, names_body]
  have flat : [props.map (·.name)].flatten.eraseDups = props.map (·.name) := by
    rw [List.flatten_singleton, eraseDups_eq_self distinct]
  exact congrArg Except.ok flat

/-- A type with two members, one of which is a function. -/
def rowsType : Text :=
  '\x7b' :: (" id: Key; pick: ".toList ++ (['(', ')'] ++ " => void ".toList) ++ ['\x7d']) ++
    ['[', ']']

theorem closed_rowsType : Closed typeSigns rowsType := by
  have first : Closed [] " id: Key; pick: ".toList := closed_of_all (by decide)
  have empty : Closed [] ['(', ')'] := (@closed_nil []).group .round
  have last : Closed [] " => void ".toList := closed_of_all (by decide)
  have members := first.append (empty.append last (apart_of_not_mem (by decide) _))
    (apart_of_not_mem (by decide) _)
  exact (members.group .curly).append ((@closed_nil []).group .square)
    (apart_cons (by decide) (by decide) _ _)

/-- Props of which one name begins with the word that stands before the other. -/
def rowProps : List WrittenProp := [
  { name := "readonlyRows"
    type := rowsType
    isReadonly := false
    isOptional := true
    identifier := proper_of_all (by decide) (by decide)
    trimmed :=
      Text.trimmed_of_ends rfl (List.append_assoc _ ['['] [']']).symm (by decide) (by decide)
    plain := List.all_iff_forall_prop.mp (by decide)
    closed := closed_rowsType },
  { name := "label"
    type := "string"
    isReadonly := true
    isOptional := false
    identifier := proper_of_all (by decide) (by decide)
    trimmed := trimmed_of_identifier (proper_of_all (by decide) (by decide))
    plain := List.all_iff_forall_prop.mp (by decide)
    closed := closed_of_all (by decide) }]

theorem declaredProps_text_rows :
    PropsForm.typeArgument.text rowProps = ("defineProps<\x7b readonlyRows?: " ++
        "\x7b id: Key; pick: () => void \x7d[]; readonly label: string \x7d>()").toList ∧
      ∀ form : PropsForm, declaredProps (form.text rowProps) =
        .ok ["readonlyRows".toList, "label".toList] := by
  have letters : ∀ word ∈ propsWords, 'p' ∈ word ∧ 'r' ∈ word := by decide
  have rows : rowProps[0].Apart := fun word listed =>
    ⟨lacks_of_not_mem (letters word listed).1 (by decide),
      lacks_of_not_mem (letters word listed).2 (by decide)⟩
  have label : rowProps[1].Apart := fun word listed =>
    ⟨lacks_of_not_mem (letters word listed).1 (by decide),
      lacks_of_not_mem (letters word listed).1 (by decide)⟩
  refine ⟨by decide +kernel, fun form => declaredProps_text (by decide) ?_ form⟩
  exact List.forall_mem_cons.mpr ⟨rows, List.forall_mem_singleton.mpr label⟩

end SfcLint.Script
