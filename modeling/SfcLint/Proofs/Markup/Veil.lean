/-
# Steps of the tokenizer over masked text

At a sign that is not masked, the tokenizer takes a step of the same kind and length whether the
signs behind it are masked or not. What it finds is the same up to the masked signs, except that
names and values of attributes are compared elsewhere, for they are changed on the way.
-/

import SfcLint.Proofs.Markup.Blind
import SfcLint.Proofs.Markup.Reference
import SfcLint.Proofs.Markup.Step

namespace SfcLint

open Markup (mask restored unmasked unmasked_cons unmasked_drop unmasked_take)

theorem Text.offsetOf?_unmasked {c : Char} (plain : Pattern.Plain c) (t : Text) :
    offsetOf? [c] (unmasked t) = offsetOf? [c] t := by
  induction t with
  | nil => rfl
  | cons d t ih =>
    have same : ([c].isPrefixOf (restored d :: unmasked t)) = [c].isPrefixOf (d :: t) := by
      simp only [List.isPrefixOf, Bool.and_true]
      rw [restored]
      split
      next sign => rw [sign, beq_false_of_ne plain.1, beq_false_of_ne plain.2]
      next => rfl
    rw [unmasked_cons, offsetOf?, offsetOf?, same, ih]

namespace Markup

open Pattern

theorem plain_angle : Plain '>' := by decide

/-- A token without its names, and with the masked signs of its texts restored. -/
def TokenContent.shape : TokenContent → TokenContent
  | startTag _ _ raw => startTag [] [] (unmasked raw)
  | selfClosing _ raw => selfClosing [] (unmasked raw)
  | endTag _ => endTag []
  | text t => text (unmasked t)
  | comment t => comment (unmasked t)

/-- The shape of what a step reads, and its length. -/
def Step.shape (step : Step) : Option TokenContent × Nat :=
  (step.content.map TokenContent.shape, step.length)

/-- The shape of the step that is taken, if one is and it does not fail. -/
def outcome (result : Except TokenFailure (Option Step)) :
    Option (Option (Option TokenContent × Nat)) :=
  result.toOption.map (·.map Step.shape)

@[simp]
theorem outcome_pure (step : Step) : outcome (pure (some step)) = some (some step.shape) := rfl

variable (t : Text)

theorem throughAngle?_unmasked : throughAngle? (unmasked t) = throughAngle? t := by
  rw [throughAngle?, throughAngle?, unmasked_drop, Text.offsetOf?_unmasked plain_angle]

theorem plainEndTag_unmasked :
    plainEndTag.leading? (unmasked ('<' :: t)) =
      (plainEndTag.leading? ('<' :: t)).map Hit.unmasked :=
  @leading?_sign_unmasked ['/'] _ (by decide) (by decide) (by decide) t

theorem tagName_unmasked : tagName.leading? (unmasked t) = (tagName.leading? t).map Hit.unmasked :=
  leading?_unmasked (by decide) t

/-- The name in an end tag with nothing else holds no sign, so it is the same word. -/
theorem group_plainEndTag {hit : Hit} (found : plainEndTag.leading? ('<' :: t) = some hit) :
    hit.unmasked.group "name" = hit.group "name" := by
  have split : ∃ rest, plainEndTag = seq (literal ['<', '/']) rest ∧ rest.signless = true :=
    ⟨_, rfl, by decide⟩
  obtain ⟨rest, split, signless⟩ := split
  rw [split] at found
  have same := unmasked_group_of_leading? signless found "name"
  rw [Hit.group, Hit.group?_unmasked]
  rw [Hit.group] at same
  cases named : hit.group? "name" with
  | none => rw [Hit.group, named]; rfl
  | some name =>
    rw [named] at same
    rw [Hit.group, named]
    exact same

theorem endTagStep?_unmasked (element : Option Text) :
    (endTagStep? element (unmasked ('<' :: t))).map Step.shape =
      (endTagStep? element ('<' :: t)).map Step.shape := by
  rw [endTagStep?, endTagStep?, throughAngle?_unmasked, plainEndTag_unmasked, unmasked_drop,
    tagName_unmasked, Option.map_map, Option.map_map]
  congr 1
  funext length
  cases found : plainEndTag.leading? ('<' :: t) with
  | some hit =>
    cases element with
    | none => rfl
    | some name =>
      simp only [Function.comp_apply, Option.map_some, group_plainEndTag t found]
      split
      · rfl
      · simp only [Step.shape, Option.map_some, TokenContent.shape, unmasked_take,
          unmasked_unmasked]
  | none =>
    cases element with
    | some name =>
      simp only [Function.comp_apply, Option.map_none, Step.shape, Option.map_some,
        TokenContent.shape, unmasked_take, unmasked_unmasked]
    | none =>
      cases tagName.leading? (('<' :: t).drop 2) with
      | some hit => rfl
      | none =>
        simp only [Function.comp_apply, Option.map_none]
        split
        · rfl
        · simp only [Step.shape, Option.map_some, TokenContent.shape, unmasked_take,
            unmasked_drop, unmasked_unmasked]

theorem commentStep?_unmasked :
    (commentStep? (unmasked t)).map Step.shape = (commentStep? t).map Step.shape := by
  have blind : (all ["--", blanks, ">"]).blind = true := by decide
  have same := first?_unmasked blind (t.drop 4)
  rw [commentStep?, commentStep?, unmasked_drop, same, Option.map_map, Option.map_map,
    Option.map_map]
  congr 1
  funext hit
  simp only [Function.comp_apply, Step.shape, Option.map_some, TokenContent.shape, unmasked_take,
    unmasked_unmasked, Hit.unmasked]

/-- The kind of a marked section holds no sign, so it is the same word. -/
theorem sectionName_unmasked {t : Text} {hit : Hit} (found : sectionName.leading? t = some hit) :
    ∃ hit', sectionName.leading? (unmasked t) = some hit' ∧ hit'.text = hit.text ∧
      hit'.rest.isEmpty = hit.rest.isEmpty := by
  have blind : sectionName.blind = true := by decide
  have signless : sectionName.signless = true := by decide
  refine ⟨hit.unmasked, ?_, unmasked_text_of_hitAt? signless found, List.isEmpty_map⟩
  rw [leading?_unmasked blind, found]
  rfl

theorem sectionEnd_unmasked {closing : Pattern} (blind : closing.blind = true) (inner : Text) :
    ((closing.first? (unmasked inner)).map
        fun hit => (⟨none, hit.stop + 3, none⟩ : Step)) =
      (closing.first? inner).map fun hit => ⟨none, hit.stop + 3, none⟩ := by
  rw [first?_unmasked blind, Option.map_map]
  rfl

theorem markedSectionStep?_unmasked :
    (markedSectionStep? (unmasked t)).toOption = (markedSectionStep? t).toOption := by
  have full : (all ["]", blanks, "]", blanks, ">"]).blind = true := by decide
  have short : (all ["]", blanks, ">"]).blind = true := by decide
  have blind : sectionName.blind = true := by decide
  rw [markedSectionStep?, markedSectionStep?, unmasked_drop]
  dsimp only
  rw [sectionEnd_unmasked full, sectionEnd_unmasked short]
  have empty : (unmasked (t.drop 3)).isEmpty = (t.drop 3).isEmpty := List.isEmpty_map
  rw [empty]
  split
  · rfl
  · cases found : sectionName.leading? (t.drop 3) with
    | none =>
      rw [leading?_unmasked blind, found]
      rfl
    | some hit =>
      obtain ⟨hit', found', text, rest⟩ := sectionName_unmasked found
      rw [found']
      dsimp only
      rw [text, rest]

theorem startsWith_unmasked {front : Text} (plain : ∀ c ∈ front, Plain c) (t : Text) :
    Text.startsWith (unmasked t) front = Text.startsWith t front := by
  induction front generalizing t with
  | nil => simp [Text.startsWith]
  | cons f front ih =>
    rw [List.forall_mem_cons] at plain
    cases t with
    | nil => rfl
    | cons c t =>
      have same : (f == restored c) = (f == c) := by
        rw [restored]
        split
        next sign => rw [sign, beq_false_of_ne plain.1.1, beq_false_of_ne plain.1.2]
        next => rfl
      have rest := ih plain.2 t
      rw [Text.startsWith, Text.startsWith] at rest ⊢
      rw [unmasked_cons, List.isPrefixOf_cons_cons, List.isPrefixOf_cons_cons, same, rest]

theorem startsWith_sign_unmasked {front : Text} (plain : ∀ c ∈ front, Plain c) (t : Text) :
    Text.startsWith (unmasked ('<' :: t)) ('<' :: front) =
      Text.startsWith ('<' :: t) ('<' :: front) := by
  have rest := startsWith_unmasked plain t
  rw [Text.startsWith, Text.startsWith] at rest ⊢
  have sign : restored '<' = '<' := rfl
  rw [unmasked_cons, sign, List.isPrefixOf_cons_cons, List.isPrefixOf_cons_cons, rest]

/-- The word that opens a document type is found at a sign that is not masked or at none. -/
theorem doctype_unmasked :
    ((caseless "<!doctype").leading? (unmasked ('<' :: t))).isSome =
      ((caseless "<!doctype").leading? ('<' :: t)).isSome := by
  have split : ∃ test rest, caseless "<!doctype" = seq (one test) rest ∧ rest.blind = true :=
    ⟨_, _, rfl, by decide⟩
  obtain ⟨test, rest, split, blind⟩ := split
  have same : (seq (one test) rest).ways (Cursor.within ('<' :: t) 0).unmasked =
      ((seq (one test) rest).ways (Cursor.within ('<' :: t) 0)).map Cursor.unmasked := by
    have first : (one test).ways (Cursor.within ('<' :: t) 0).unmasked =
        ((one test).ways (Cursor.within ('<' :: t) 0)).map Cursor.unmasked := by
      have sign : restored '<' = '<' := rfl
      by_cases passes : test '<'
      · simp [ways, Cursor.unmasked, Cursor.within, sign, passes]
      · simp [ways, Cursor.unmasked, Cursor.within, sign, passes]
    exact ways_seq_unmasked first blind
  rw [split, leading?_eq, leading?_eq, within_unmasked, hitAt?_unmasked_of_ways _ same,
    Option.isSome_map]

theorem declarationStep?_unmasked :
    outcome (declarationStep? (unmasked ('<' :: t))) = outcome (declarationStep? ('<' :: t)) := by
  have comment := @startsWith_sign_unmasked ['!', '-', '-'] (by simp [Plain, mask]) t
  have marked := @startsWith_sign_unmasked ['!', '['] (by simp [Plain, mask]) t
  have commentSign : ("<!--" : Text) = ['<', '!', '-', '-'] := rfl
  have markedSign : ("<![" : Text) = ['<', '!', '['] := rfl
  rw [declarationStep?, declarationStep?, commentSign, markedSign, comment, marked]
  split
  · exact congrArg some (commentStep?_unmasked _)
  · split
    · rw [outcome, outcome, markedSectionStep?_unmasked]
    · dsimp only
      rw [throughAngle?_unmasked, doctype_unmasked, outcome, outcome]
      simp only [Except.toOption, Option.map_some, Option.map_map]
      congr 2
      funext length
      simp only [Function.comp_apply]
      split
      · rfl
      · simp only [Step.shape, Option.map_some, TokenContent.shape, unmasked_take, unmasked_drop,
          unmasked_unmasked]

/-! ## Start tags -/

theorem startTagExtent_unmasked :
    startTagExtent.leading? (unmasked ('<' :: t)) =
      (startTagExtent.leading? ('<' :: t)).map Hit.unmasked :=
  @leading?_sign_unmasked [] _ (by decide) (by decide) (by decide) t

/-- Behind what a start tag holds, a character that does not end the tag tells whether the tag goes
on. -/
theorem startTagLength?_of_other {t : Text} {hit : Hit}
    (extent : startTagExtent.leading? t = some hit) {c : Char} {rest : Text}
    (behind : hit.rest = c :: rest) (closes : c ≠ '>')
    (slashed : ¬ (c = '/' ∧ rest.head? = some '>')) :
    startTagLength? t =
      if c == '/' || c == '=' || Text.isLetter c then none else some hit.stop := by
  rw [startTagLength?, extent, Option.bind_some, behind]
  split
  next same => exact absurd (List.cons.inj same).1 closes
  next same =>
    obtain ⟨isSlash, more⟩ := List.cons.inj same
    exact absurd ⟨isSlash, more ▸ rfl⟩ slashed
  next same => contradiction
  next same =>
    obtain ⟨rfl, -⟩ := List.cons.inj same
    rfl

theorem startTagLength?_unmasked :
    startTagLength? (unmasked ('<' :: t)) = startTagLength? ('<' :: t) := by
  have angle : Plain '>' := by decide
  have slash : Plain '/' := by decide
  have equals : Plain '=' := by decide
  have letters : (Text.isLetter '<' == Text.isLetter mask) = true := by decide
  have extent' := startTagExtent_unmasked t
  cases extent : startTagExtent.leading? ('<' :: t) with
  | none => rw [startTagLength?, startTagLength?, extent', extent, Option.map_none]
  | some hit =>
    rw [extent, Option.map_some] at extent'
    -- What ends a tag are characters that are never masked.
    cases behind : hit.rest with
    | nil =>
      rw [startTagLength?, startTagLength?, extent', extent, Option.bind_some, Option.bind_some,
        Hit.unmasked, behind]
      rfl
    | cons c rest =>
      have behind' : hit.unmasked.rest = restored c :: unmasked rest := congrArg unmasked behind
      by_cases closes : c = '>'
      · subst closes
        rw [startTagLength?, startTagLength?, extent', extent, Option.bind_some, Option.bind_some,
          behind, behind']
        rfl
      by_cases slashed : c = '/' ∧ rest.head? = some '>'
      · obtain ⟨rfl, next⟩ := slashed
        obtain ⟨more, rfl⟩ := List.head?_eq_some_iff.mp next
        rw [startTagLength?, startTagLength?, extent', extent, Option.bind_some, Option.bind_some,
          behind, behind']
        rfl
      have slashed' : ¬ (restored c = '/' ∧ (unmasked rest).head? = some '>') := by
        rintro ⟨isSlash, next⟩
        refine slashed ⟨(restored_eq_iff slash).mp isSlash, ?_⟩
        cases rest with
        | nil => contradiction
        | cons d more => exact congrArg some ((restored_eq_iff angle).mp (Option.some.inj next))
      have isSlash : (restored c == '/') = (c == '/') :=
        Bool.eq_iff_iff.mpr (by simpa using restored_eq_iff slash)
      have isEquals : (restored c == '=') = (c == '=') :=
        Bool.eq_iff_iff.mpr (by simpa using restored_eq_iff equals)
      rw [startTagLength?_of_other extent behind closes slashed,
        startTagLength?_of_other extent' behind' (mt (restored_eq_iff angle).mp closes) slashed',
        test_restored letters, isSlash, isEquals, Hit.unmasked_stop]

theorem hides_unmasked (t : Text) : Hides (unmasked t) t := by
  induction t with
  | nil => exact .nil
  | cons c t ih =>
    rw [unmasked_cons, restored]
    split
    next sign =>
      rw [sign]
      exact .hidden ih
    next => exact .same c ih

/-- Whether the references of a text can be replaced does not depend on the mask. -/
theorem decoded_unmasked :
    (decoded (unmasked t)).toOption.map unmasked = (decoded t).toOption.map unmasked := by
  have same := (hides_unmasked t).unescape_eq
  rw [decoded, decoded]
  cases masked : unescape t <;> cases plain : unescape (unmasked t) <;>
    simp_all [Except.map, Except.mapError, Except.toOption]

theorem decoded_isSome_unmasked :
    (decoded (unmasked t)).toOption.isSome = (decoded t).toOption.isSome := by
  have same := congrArg Option.isSome (decoded_unmasked t)
  rwa [Option.isSome_map, Option.isSome_map] at same

theorem match?_unmasked_of_ways {p : Pattern} (cursor : Cursor)
    (same : p.ways cursor.unmasked = (p.ways cursor).map Cursor.unmasked) :
    p.match? cursor.unmasked some = (p.match? cursor some).map Cursor.unmasked := by
  rw [match?_eq, match?_eq, same]
  cases p.ways cursor <;> simp

theorem captured?_unmasked (cursor : Cursor) (name : String) :
    cursor.unmasked.captured? name = (cursor.captured? name).map unmasked := by
  rw [Cursor.captured?, Cursor.unmasked, Capture.find?_unmasked, Cursor.captured?]
  cases cursor.captures.find? (·.name == name) <;> rfl

/-- The value of an attribute can be read with the mask if it can be read without. -/
theorem mapM_decoded_isSome_unmasked (value : Option Text) :
    ((value.map unmasked).mapM decoded).toOption.isSome = (value.mapM decoded).toOption.isSome := by
  cases value with
  | none => rfl
  | some t =>
    have same := decoded_isSome_unmasked t
    simp only [Option.map_some, Option.mapM_some]
    cases masked : decoded t <;> cases plain : decoded (unmasked t) <;>
      simp_all [Functor.map, Except.map, Except.toOption]

/-- The same attribute is found with the mask. -/
theorem attributeItem_unmasked (cursor : Cursor) :
    attributeItem.match? ⟨cursor.offset, cursor.unmasked.before, cursor.unmasked.rest, []⟩ some =
      (attributeItem.match? ⟨cursor.offset, cursor.before, cursor.rest, []⟩ some).map
        Cursor.unmasked :=
  match?_unmasked_of_ways ⟨cursor.offset, cursor.before, cursor.rest, []⟩
    (ways_unmasked (by decide) _)

/-- The attributes of a tag end at the same place. -/
theorem attributesFrom_unmasked (stop fuel : Nat) (cursor : Cursor) :
    (attributesFrom stop fuel cursor.unmasked).toOption.map (·.2.offset) =
      (attributesFrom stop fuel cursor).toOption.map (·.2.offset) := by
  induction fuel generalizing cursor with
  | zero => rfl
  | succ fuel ih =>
    have place : cursor.unmasked.offset = cursor.offset := rfl
    rw [attributesFrom, attributesFrom, place]
    split
    · rw [attributeItem_unmasked]
      cases attributeItem.match? ⟨cursor.offset, cursor.before, cursor.rest, []⟩ some with
      | none => rfl
      | some next =>
        have value := mapM_decoded_isSome_unmasked (next.captured? "value")
        have later := ih next
        simp only [Option.map_some, captured?_unmasked]
        cases masked : (next.captured? "value").mapM decoded <;>
          cases plain : ((next.captured? "value").map unmasked).mapM decoded <;>
          cases behind : attributesFrom stop fuel next <;>
          cases behind' : attributesFrom stop fuel next.unmasked <;>
          simp_all [bind, Except.bind, pure, Except.pure, Except.toOption]
    · rfl

theorem stripStart_unmasked : Text.stripStart (unmasked t) = unmasked (Text.stripStart t) := by
  have blank : (Text.isBlank '<' == Text.isBlank mask) = true := by decide
  rw [Text.stripStart, Text.stripStart, unmasked_eq, List.dropWhile_map]
  congr 2
  funext c
  exact test_restored blank c

theorem dropEndWhile_unmasked {test : Char → Bool} (same : (test '<' == test mask) = true) :
    Text.dropEndWhile test (unmasked t) = unmasked (Text.dropEndWhile test t) := by
  induction t with
  | nil => rfl
  | cons c t ih =>
    rw [Text.dropEndWhile, Text.dropEndWhile] at ih ⊢
    rw [unmasked_cons, List.foldr_cons, List.foldr_cons, ih, test_restored same]
    have empty (u : Text) : (unmasked u).isEmpty = u.isEmpty := List.isEmpty_map
    rw [empty]
    split <;> rfl

theorem strip_unmasked : Text.strip (unmasked t) = unmasked (Text.strip t) := by
  have blank : (Text.isBlank '<' == Text.isBlank mask) = true := by decide
  rw [Text.strip, Text.stripEnd, stripStart_unmasked, dropEndWhile_unmasked _ blank]
  rfl

theorem unmasked_eq_iff {u : Text} (plain : ∀ c ∈ u, Plain c) : unmasked t = u ↔ t = u := by
  induction u generalizing t with
  | nil => exact List.map_eq_nil_iff
  | cons d u ih =>
    rw [List.forall_mem_cons] at plain
    cases t with
    | nil => simp
    | cons c t =>
      rw [unmasked_cons, List.cons.injEq, List.cons.injEq, restored_eq_iff plain.1,
        ih t plain.2]

/-- The name in a start tag is read from a sign that is not masked. -/
theorem tagStart_unmasked :
    (all ["<", capture "tag" tagName, attributeGap]).match? (.atStart (unmasked ('<' :: t))) some =
      ((all ["<", capture "tag" tagName, attributeGap]).match? (.atStart ('<' :: t)) some).map
        Cursor.unmasked := by
  have blind : (all [capture "tag" tagName, attributeGap]).blind = true := by decide
  exact match?_unmasked_of_ways (.atStart ('<' :: t))
    (@ways_sign_unmasked [] _ (by simp) (by simp) blind (.atStart ('<' :: t)) t rfl)

theorem startTagStep?_unmasked :
    outcome (startTagStep? (unmasked ('<' :: t))) = outcome (startTagStep? ('<' :: t)) := by
  rw [startTagStep?, startTagStep?, startTagLength?_unmasked, tagStart_unmasked]
  cases startTagLength? ('<' :: t) with
  | none => rfl
  | some length =>
    dsimp only
    cases (all ["<", capture "tag" tagName, attributeGap]).match? (.atStart ('<' :: t)) some with
    | none => rfl
    | some cursor =>
      have attributes := attributesFrom_unmasked length length cursor
      dsimp only [Option.map_some]
      cases plain : attributesFrom length length cursor with
      | error failure =>
        cases masked : attributesFrom length length cursor.unmasked with
        | error failure => rfl
        | ok result => simp [plain, masked, Except.toOption] at attributes
      | ok result =>
        cases masked : attributesFrom length length cursor.unmasked with
        | error failure => simp [plain, masked, Except.toOption] at attributes
        | ok result' =>
          obtain ⟨_, last⟩ := result
          obtain ⟨_, last'⟩ := result'
          simp only [plain, masked, Except.toOption, Option.map_some,
            Option.some.injEq] at attributes
          simp only [bind, Except.bind, attributes, unmasked_take, unmasked_drop, strip_unmasked]
          -- What is left of the tag behind its attributes says which kind it is of.
          generalize Text.strip ((('<' :: t).take length).drop last.offset) = ending
          by_cases closed : ending = ['/', '>']
          · subst closed
            have stays : unmasked ['/', '>'] = ['/', '>'] := rfl
            simp [stays, Step.shape, TokenContent.shape]
          by_cases opens : ending = ['>']
          · subst opens
            have stays : unmasked ['>'] = ['>'] := rfl
            simp [stays, Step.shape, TokenContent.shape]
          have closed' := mt (unmasked_eq_iff ending (by simp [Plain, mask])).mp closed
          have opens' := mt (unmasked_eq_iff ending (by simp [Plain, mask])).mp opens
          split
          next same => exact absurd same closed'
          next same => exact absurd same opens'
          next => simp [Step.shape, TokenContent.shape]

/-- What opens a tag, a comment or a declaration is the same with and without the mask. -/
theorem angleStep?_unmasked :
    outcome (angleStep? none (unmasked ('<' :: t))) = outcome (angleStep? none ('<' :: t)) := by
  have letter : (Text.isLetter '<' == Text.isLetter mask) = true := by decide
  cases t with
  | nil => rfl
  | cons c t =>
    have sign : restored '<' = '<' := rfl
    by_cases slash : c = '/'
    · subst slash
      exact congrArg some (endTagStep?_unmasked ('/' :: t) none)
    by_cases bang : c = '!'
    · subst bang
      exact declarationStep?_unmasked ('!' :: t)
    by_cases query : c = '?'
    · subst query
      have same := throughAngle?_unmasked ('<' :: '?' :: t)
      rw [unmasked_cons, unmasked_cons, sign] at same ⊢
      have plain : restored '?' = '?' := rfl
      rw [plain] at same ⊢
      rw [angleStep?, angleStep?, same]
    have tag := startTagStep?_unmasked (c :: t)
    have same := test_restored letter c
    have slash' : restored c ≠ '/' := mt (restored_eq_iff (by decide)).mp slash
    have bang' : restored c ≠ '!' := mt (restored_eq_iff (by decide)).mp bang
    have query' : restored c ≠ '?' := mt (restored_eq_iff (by decide)).mp query
    rw [unmasked_cons, unmasked_cons, sign] at tag ⊢
    rw [angleStep?_cons _ slash bang query, angleStep?_cons _ slash' bang' query', same]
    split
    · exact tag
    · rfl

end Markup

end SfcLint
