/-
# Tags without masked signs

A tag in which no sign is masked is the same tag, whatever is masked behind it. A pattern may look
further than the tag, but what it sets aside for the tag lies inside it.
-/

import SfcLint.Proofs.Markup.Veil
import SfcLint.Proofs.Text.Except

namespace SfcLint

open Markup (unmasked)

namespace Pattern

variable {p : Pattern} {u v : Text} {length : Nat} {cursor cursor' next next' : Cursor}

theorem mem_ways_of_match? (found : p.match? cursor some = some next) : next ∈ p.ways cursor := by
  rw [match?_eq] at found
  obtain ⟨way, member, same⟩ := List.exists_of_findSome?_eq_some found
  obtain rfl := Option.some.inj same
  exact member

theorem Reaches.stands {taken : Text} (reaches : Reaches cursor taken next)
    (stands : cursor.rest = u.drop cursor.offset) : next.rest = u.drop next.offset := by
  rw [reaches.offset, ← List.drop_drop, ← stands, reaches.rest, List.drop_left]

/-- What is set aside on the way stands in the text before the place that is reached. -/
theorem part_eq_slice (stands : cursor.rest = u.drop cursor.offset) (empty : cursor.captures = [])
    (member : next ∈ p.ways cursor) {part : Capture} (captured : part ∈ next.captures) :
    part.text = (u.drop part.start).take part.text.length ∧
      part.start + part.text.length ≤ next.offset := by
  have origin := captures_of_mem_ways p.takes_anything member captured
  rw [empty] at origin
  obtain ⟨front, back, first, last, before, within, behind, start, -⟩ :=
    origin.resolve_left List.not_mem_nil
  refine ⟨?_, ?_⟩
  · rw [start, ← before.stands stands, within.rest, List.take_left]
  · rw [start, ← within.offset, behind.offset]
    exact Nat.le_add_right _ _

theorem captures_eq_of_unmasked_eq (untouched : v.take length = u.take length)
    {parts parts' : List Capture} (same : parts'.map Capture.unmasked = parts.map Capture.unmasked)
    (inside : ∀ part ∈ parts, part.text = (u.drop part.start).take part.text.length ∧
      part.start + part.text.length ≤ length)
    (inside' : ∀ part ∈ parts', part.text = (v.drop part.start).take part.text.length ∧
      part.start + part.text.length ≤ length) : parts' = parts := by
  have slice (t : Text) (start size : Nat) (within : start + size ≤ length) :
      (t.drop start).take size = ((t.take length).drop start).take size := by
    rw [List.drop_take, List.take_take, Nat.min_eq_left (by omega)]
  induction parts generalizing parts' with
  | nil => exact List.map_eq_nil_iff.mp same
  | cons part parts ih =>
    cases parts' with
    | nil => simp at same
    | cons part' parts' =>
      rw [List.forall_mem_cons] at inside inside'
      obtain ⟨here, later⟩ := List.cons.inj same
      obtain ⟨⟨text, within⟩, rest⟩ := inside
      obtain ⟨⟨text', within'⟩, rest'⟩ := inside'
      rw [ih later rest rest']
      obtain ⟨name, start, t⟩ := part
      obtain ⟨name', start', t'⟩ := part'
      simp only [Capture.unmasked, Capture.mk.injEq] at here
      obtain ⟨rfl, rfl, shown⟩ := here
      have size : t'.length = t.length := by
        rw [← Markup.length_unmasked t', shown, Markup.length_unmasked]
      dsimp only at text text' within within'
      rw [slice _ _ _ within] at text
      rw [slice _ _ _ within', size, untouched, ← text] at text'
      rw [text']

/-- What is set aside before the end of a part in which nothing is masked is the same. -/
theorem captures_untouched (untouched : v.take length = u.take length)
    (stands : cursor.rest = u.drop cursor.offset) (stands' : cursor'.rest = v.drop cursor'.offset)
    (empty : cursor.captures = []) (empty' : cursor'.captures = [])
    (member : next ∈ p.ways cursor) (member' : next' ∈ p.ways cursor')
    (alike : next'.unmasked = next.unmasked) (within : next.offset ≤ length) :
    next'.captures = next.captures := by
  obtain ⟨offset, -, -, captures⟩ := Cursor.mk.inj alike
  refine captures_eq_of_unmasked_eq untouched captures ?_ ?_
  · intro part captured
    obtain ⟨text, bound⟩ := part_eq_slice stands empty member captured
    exact ⟨text, by omega⟩
  · intro part captured
    obtain ⟨text, bound⟩ := part_eq_slice stands' empty' member' captured
    exact ⟨text, by omega⟩

end Pattern

namespace Markup

open Pattern

variable {u v : Text} {length : Nat}

theorem attributesFrom_le {stop fuel : Nat} {cursor last : Cursor} {attributes : List Attribute}
    (read : attributesFrom stop fuel cursor = .ok (attributes, last)) :
    cursor.offset ≤ last.offset := by
  induction fuel generalizing cursor attributes with
  | zero =>
    obtain ⟨-, rfl⟩ := Prod.mk.inj (Except.ok.inj read)
    exact Nat.le_refl _
  | succ fuel ih =>
    rw [attributesFrom] at read
    split at read
    · split at read
      · obtain ⟨-, rfl⟩ := Prod.mk.inj (Except.ok.inj read)
        exact Nat.le_refl _
      next next found =>
        simp only [Except.bind_eq_ok_iff] at read
        obtain ⟨value, -, ⟨more, final⟩, later, read⟩ := read
        obtain ⟨-, rfl⟩ := Prod.mk.inj (Except.pure_eq_ok_iff.mp read)
        obtain ⟨taken, reaches⟩ := exists_reaches_of_mem_ways (mem_ways_of_match? found)
        have onward : next.offset = cursor.offset + taken.length := reaches.offset
        have rest := ih later
        omega
    · obtain ⟨-, rfl⟩ := Prod.mk.inj (Except.ok.inj read)
      exact Nat.le_refl _

/-- The attribute that ends before the end of a part in which nothing is masked is the same. -/
theorem attributeItem_untouched (untouched : v.take length = u.take length)
    {cursor cursor' next : Cursor} (stands : cursor.rest = u.drop cursor.offset)
    (stands' : cursor'.rest = v.drop cursor'.offset) (alike : cursor'.unmasked = cursor.unmasked)
    (found : attributeItem.match? { cursor with captures := [] } some = some next)
    (bound : next.offset ≤ length) :
    ∃ next', attributeItem.match? { cursor' with captures := [] } some = some next' ∧
      next'.unmasked = next.unmasked ∧ next'.captures = next.captures ∧
      next.rest = u.drop next.offset ∧ next'.rest = v.drop next'.offset := by
  have offset : cursor'.offset = cursor.offset := (Cursor.mk.inj alike).1
  have item := attributeItem_unmasked cursor'
  rw [alike, offset, attributeItem_unmasked, found, ← offset, Option.map_some, eq_comm,
    Option.map_eq_some_iff] at item
  obtain ⟨next', found', same⟩ := item
  have member := mem_ways_of_match? found
  have member' := mem_ways_of_match? found'
  obtain ⟨_, reaches⟩ := exists_reaches_of_mem_ways member
  obtain ⟨_, reaches'⟩ := exists_reaches_of_mem_ways member'
  have here : ({ cursor with captures := [] } : Cursor).rest = u.drop cursor.offset := stands
  have here' : ({ cursor' with captures := [] } : Cursor).rest = v.drop cursor'.offset := stands'
  exact ⟨next', found', same,
    captures_untouched untouched here here' rfl rfl member member' same bound,
    reaches.stands stands, reaches'.stands stands'⟩

/-- The attributes that end before the end of a part in which nothing is masked are the same. -/
theorem attributesFrom_untouched (untouched : v.take length = u.take length) {stop fuel : Nat}
    {cursor cursor' last : Cursor} {attributes : List Attribute}
    (stands : cursor.rest = u.drop cursor.offset) (stands' : cursor'.rest = v.drop cursor'.offset)
    (alike : cursor'.unmasked = cursor.unmasked)
    (read : attributesFrom stop fuel cursor = .ok (attributes, last))
    (within : last.offset ≤ length) :
    ∃ last', attributesFrom stop fuel cursor' = .ok (attributes, last') ∧
      last'.offset = last.offset := by
  induction fuel generalizing cursor cursor' attributes with
  | zero =>
    obtain ⟨rfl, rfl⟩ := Prod.mk.inj (Except.ok.inj read)
    exact ⟨cursor', rfl, (Cursor.mk.inj alike).1⟩
  | succ fuel ih =>
    have offset : cursor'.offset = cursor.offset := (Cursor.mk.inj alike).1
    rw [attributesFrom] at read ⊢
    rw [offset]
    split at read
    next open? =>
      rw [if_pos open?]
      split at read
      next missing =>
        have item := attributeItem_unmasked cursor'
        rw [alike, offset, attributeItem_unmasked, missing, Option.map_none, eq_comm,
          Option.map_eq_none_iff] at item
        obtain ⟨rfl, rfl⟩ := Prod.mk.inj (Except.ok.inj read)
        rw [item]
        exact ⟨cursor', rfl, offset⟩
      next next found =>
        -- The attribute ends before those behind it end, so it lies in the part that is the same.
        simp only [Except.bind_eq_ok_iff] at read
        obtain ⟨value, decodes, ⟨more, final⟩, later, read⟩ := read
        obtain ⟨rfl, rfl⟩ := Prod.mk.inj (Except.pure_eq_ok_iff.mp read)
        have bound : next.offset ≤ length := Nat.le_trans (attributesFrom_le later) within
        obtain ⟨next', found', same, parts, here, here'⟩ :=
          attributeItem_untouched untouched stands stands' alike found bound
        obtain ⟨final', later', ends⟩ := ih here here' same later
        have group (name : String) : next'.captured? name = next.captured? name := by
          rw [Cursor.captured?, Cursor.captured?, parts]
        refine ⟨final', ?_, ends⟩
        rw [← offset, found']
        simp only [group, decodes, later', bind, Except.bind, pure, Except.pure]
    next closed =>
      obtain ⟨rfl, rfl⟩ := Prod.mk.inj (Except.ok.inj read)
      rw [if_neg closed]
      exact ⟨cursor', rfl, offset⟩

/-- The name of a start tag is the same where nothing is masked up to its end. -/
theorem tagStart_untouched {ut vt : Text} (alike : unmasked vt = unmasked ut)
    (untouched : ('<' :: vt).take length = ('<' :: ut).take length) {cursor : Cursor}
    (found : (all ["<", capture "tag" tagName, attributeGap]).match? (.atStart ('<' :: ut)) some =
      some cursor) (bound : cursor.offset ≤ length) :
    ∃ cursor', (all ["<", capture "tag" tagName, attributeGap]).match? (.atStart ('<' :: vt)) some =
        some cursor' ∧
      cursor'.unmasked = cursor.unmasked ∧ cursor'.captures = cursor.captures ∧
      cursor.rest = ('<' :: ut).drop cursor.offset ∧
      cursor'.rest = ('<' :: vt).drop cursor'.offset := by
  have whole : unmasked ('<' :: vt) = unmasked ('<' :: ut) := by
    rw [unmasked_cons, unmasked_cons, alike]
  have names := tagStart_unmasked vt
  rw [whole, tagStart_unmasked, found, Option.map_some, eq_comm, Option.map_eq_some_iff] at names
  obtain ⟨cursor', found', same⟩ := names
  have member := mem_ways_of_match? found
  have member' := mem_ways_of_match? found'
  obtain ⟨_, reaches⟩ := exists_reaches_of_mem_ways member
  obtain ⟨_, reaches'⟩ := exists_reaches_of_mem_ways member'
  have start (t : Text) : (Cursor.atStart t).rest = t.drop (Cursor.atStart t).offset := rfl
  exact ⟨cursor', found', same,
    captures_untouched untouched (start _) (start _) rfl rfl member member' same bound,
    reaches.stands (start _), reaches'.stands (start _)⟩

/-- Something of a tag is left behind its attributes, or else it is text. -/
theorem startTagStep?_eq_ok {t : Text} {step : Step} (read : startTagStep? t = .ok (some step))
    (tag : ∀ shown, step.content ≠ some (.text shown)) :
    ∃ (cursor last : Cursor) (attributes : List Attribute),
      startTagLength? t = some step.length ∧
      (all ["<", capture "tag" tagName, attributeGap]).match? (.atStart t) some = some cursor ∧
      attributesFrom step.length step.length cursor = .ok (attributes, last) ∧
      last.offset ≤ step.length := by
  rw [startTagStep?] at read
  split at read
  · simp at read
  next length extent =>
    split at read
    · simp at read
    next cursor found =>
      obtain ⟨⟨attributes, last⟩, items, read⟩ := Except.bind_eq_ok_iff.mp read
      dsimp only at read
      have size : step.length = length := by
        split at read
        · rw [← Option.some.inj (Except.pure_eq_ok_iff.mp read)]
        · rw [← Option.some.inj (Except.pure_eq_ok_iff.mp read)]
        · rw [← Option.some.inj (Except.pure_eq_ok_iff.mp read)]
      subst size
      refine ⟨cursor, last, attributes, extent, found, items, ?_⟩
      by_contra beyond
      have nothing : (t.take step.length).drop last.offset = [] := by
        rw [List.drop_eq_nil_iff, List.length_take]
        omega
      rw [nothing] at read
      exact tag _ (congrArg Step.content (Option.some.inj (Except.pure_eq_ok_iff.mp read))).symm

/-- A start tag in which nothing is masked is the same tag. -/
theorem startTagStep?_untouched {ut vt : Text} {step : Step} (alike : unmasked vt = unmasked ut)
    (untouched : ('<' :: vt).take step.length = ('<' :: ut).take step.length)
    (tag : ∀ shown, step.content ≠ some (.text shown))
    (read : startTagStep? ('<' :: ut) = .ok (some step)) :
    startTagStep? ('<' :: vt) = .ok (some step) := by
  obtain ⟨cursor, last, attributes, extent, found, items, within⟩ := startTagStep?_eq_ok read tag
  have extent' : startTagLength? ('<' :: vt) = some step.length := by
    rw [← startTagLength?_unmasked, unmasked_cons, alike, ← unmasked_cons,
      startTagLength?_unmasked, extent]
  have bound : cursor.offset ≤ step.length := Nat.le_trans (attributesFrom_le items) within
  obtain ⟨cursor', found', same, parts, stands, stands'⟩ :=
    tagStart_untouched alike untouched found bound
  obtain ⟨last', items', ends⟩ :=
    attributesFrom_untouched untouched stands stands' same items within
  have group : cursor'.captured? "tag" = cursor.captured? "tag" := by
    rw [Cursor.captured?, Cursor.captured?, parts]
  rw [startTagStep?, extent, found] at read
  rw [startTagStep?, extent', found']
  dsimp only at read ⊢
  rw [items] at read
  rw [items', group, untouched]
  simp only [bind, Except.bind, ends]
  exact read

theorem tagName_takes : tagName.Takes (· ≠ '>') := by
  refine ⟨?_, ?_⟩
  · rintro _ passes rfl
    exact absurd passes (by decide)
  · rintro _ passes rfl
    exact absurd passes (by decide)

/-- The name in an end tag ends before the end of the tag. -/
theorem tagName_within {t : Text} {length : Nat} {hit : Hit} (angle : throughAngle? t = some length)
    (found : tagName.leading? (t.drop 2) = some hit) :
    hit.text = ((t.take length).drop 2).take hit.text.length := by
  rw [throughAngle?, Option.map_eq_some_iff] at angle
  obtain ⟨n, angle, rfl⟩ := angle
  obtain ⟨more, stands⟩ := Text.offsetOf?_eq_some angle
  obtain ⟨-, -, split, -⟩ := leading?_eq_some found
  obtain ⟨next, member, rfl⟩ := hitAt?_eq_some found
  obtain ⟨taken, plain, reaches⟩ := exists_taken_of_mem_ways tagName_takes member
  have text : (Hit.between (.atStart (t.drop 2)) next).text = taken := reaches.take_eq
  have short : taken.length ≤ n := by
    by_cases passed : taken.length ≤ n
    · exact passed
    · rw [text] at split
      rw [split, List.drop_append_of_le_length (by omega)] at stands
      have inside : '>' ∈ taken := by
        cases behind : taken.drop n with
        | nil =>
          rw [List.drop_eq_nil_iff] at behind
          omega
        | cons c rest =>
          rw [behind] at stands
          obtain ⟨rfl, -⟩ := List.cons.inj stands
          exact List.mem_of_mem_drop (behind ▸ List.mem_cons_self)
      exact absurd rfl (plain '>' inside)
  rw [text] at split ⊢
  rw [List.drop_take, split, List.take_take, Nat.min_eq_left (by omega), List.take_left]

theorem tagName_text_eq {u v : Text} {length : Nat} {hit hit' : Hit}
    (angle : throughAngle? u = some length) (angle' : throughAngle? v = some length)
    (untouched : v.take length = u.take length)
    (found : tagName.leading? (u.drop 2) = some hit)
    (found' : tagName.leading? (v.drop 2) = some hit') (same : hit'.unmasked = hit.unmasked) :
    hit'.text = hit.text := by
  have texts : unmasked hit'.text = unmasked hit.text := congrArg Hit.text same
  have size : hit'.text.length = hit.text.length := by
    rw [← length_unmasked hit'.text, texts, length_unmasked]
  rw [tagName_within angle' found', untouched, size, ← tagName_within angle found]

/-- An end tag in which nothing is masked is the same tag. -/
theorem endTagStep?_untouched {ut vt : Text} {step : Step} (alike : unmasked vt = unmasked ut)
    (untouched : ('<' :: vt).take step.length = ('<' :: ut).take step.length)
    (read : endTagStep? none ('<' :: ut) = some step) :
    endTagStep? none ('<' :: vt) = some step := by
  have whole : unmasked ('<' :: vt) = unmasked ('<' :: ut) := by
    rw [unmasked_cons, unmasked_cons, alike]
  have through : throughAngle? ('<' :: vt) = throughAngle? ('<' :: ut) := by
    rw [← throughAngle?_unmasked, whole, throughAngle?_unmasked]
  have plain := plainEndTag_unmasked vt
  have name := tagName_unmasked (('<' :: vt).drop 2)
  rw [whole, plainEndTag_unmasked] at plain
  rw [← unmasked_drop, whole, unmasked_drop, tagName_unmasked] at name
  rw [endTagStep?, Option.map_eq_some_iff] at read
  obtain ⟨length, angle, rfl⟩ := read
  rw [endTagStep?, through, angle, Option.map_some]
  congr 1
  -- Both texts have a plain end tag or neither has, and then its name is the same word.
  cases found : plainEndTag.leading? ('<' :: ut) with
  | some hit =>
    rw [found, Option.map_some, eq_comm, Option.map_eq_some_iff] at plain
    obtain ⟨hit', found', same⟩ := plain
    have group : hit'.group "name" = hit.group "name" := by
      rw [← group_plainEndTag vt found', same, group_plainEndTag ut found]
    rw [found']
    simp only [group]
  | none =>
    rw [found, Option.map_none, eq_comm, Option.map_eq_none_iff] at plain
    rw [plain]
    rw [found] at untouched
    cases named : tagName.leading? (('<' :: ut).drop 2) with
    | some hit =>
      rw [named, Option.map_some, eq_comm, Option.map_eq_some_iff] at name
      obtain ⟨hit', named', same⟩ := name
      rw [named] at untouched
      rw [named']
      have text : hit'.text = hit.text := by
        exact tagName_text_eq angle (through.trans angle) untouched named named' same
      simp only [text]
    | none =>
      rw [named, Option.map_none, eq_comm, Option.map_eq_none_iff] at name
      rw [named] at untouched
      rw [name]
      dsimp only at untouched ⊢
      split at untouched
      next three => rw [if_pos three, if_pos three]
      next longer =>
        have shorter : ('<' :: vt).take (length - 1) = ('<' :: ut).take (length - 1) := by
          have same := congrArg (List.take (length - 1)) untouched
          rwa [List.take_take, List.take_take, Nat.min_eq_left (Nat.sub_le _ _)] at same
        rw [if_neg longer, if_neg longer, shorter]

/-! ## Tags -/

/-- The token is a tag. -/
def TokenContent.isTag : TokenContent → Bool
  | startTag _ _ _ | selfClosing _ _ | endTag _ => true
  | text _ | comment _ => false

theorem not_isTag_of_declarationStep? {t : Text} {step : Step}
    (read : declarationStep? t = .ok (some step)) {content : TokenContent}
    (token : step.content = some content) : content.isTag = false := by
  cases declarationStep?_eq_ok read with
  | comment _ read =>
    obtain ⟨hit, -, rfl⟩ := Option.map_eq_some_iff.mp read
    rw [← Option.some.inj token]
    rfl
  | markedSection _ read =>
    obtain ⟨-, hit, -, rfl⟩ := markedSectionStep?_eq_ok read
    contradiction
  | passed => contradiction
  | other =>
    rw [← Option.some.inj token]
    rfl

/-- A tag in which nothing is masked is the same tag. -/
theorem angleStep?_untouched {ut vt : Text} {step : Step} (alike : unmasked vt = unmasked ut)
    (untouched : ('<' :: vt).take step.length = ('<' :: ut).take step.length)
    (read : angleStep? none ('<' :: ut) = .ok (some step)) {content : TokenContent}
    (token : step.content = some content) (tag : content.isTag = true) :
    angleStep? none ('<' :: vt) = .ok (some step) := by
  cases ut with
  | nil =>
    have text := Option.some.inj (Except.ok.inj read)
    rw [← text] at token
    rw [← Option.some.inj token] at tag
    contradiction
  | cons c ut =>
    obtain ⟨d, vt, rfl⟩ : ∃ d more, vt = d :: more := by
      cases vt with
      | nil => simp at alike
      | cons d vt => exact ⟨d, vt, rfl⟩
    -- The character behind the sign decides what is read, and none of those that do is a mask.
    obtain ⟨first, rest⟩ := List.cons.inj alike
    by_cases slash : c = '/'
    · subst slash
      obtain rfl := (restored_eq_iff (by decide)).mp first
      have same := endTagStep?_untouched alike untouched (Except.ok.inj read)
      exact congrArg Except.ok same
    by_cases bang : c = '!'
    · subst bang
      have none := not_isTag_of_declarationStep? read token
      rw [tag] at none
      contradiction
    by_cases query : c = '?'
    · subst query
      have read := Except.ok.inj read
      rw [Option.map_eq_some_iff] at read
      obtain ⟨length, -, rfl⟩ := read
      contradiction
    rw [angleStep?_cons _ slash bang query] at read
    split at read
    next letter =>
      have plain : Plain c := by
        refine ⟨?_, ?_⟩
        · rintro rfl
          exact absurd letter (by decide)
        · rintro rfl
          exact absurd letter (by decide)
      have shown : restored c = c := if_neg plain.2
      obtain rfl : d = c := (restored_eq_iff plain).mp (first.trans shown)
      rw [angleStep?_cons _ slash bang query, if_pos letter]
      refine startTagStep?_untouched alike untouched ?_ read
      intro text same
      rw [token] at same
      rw [Option.some.inj same] at tag
      contradiction
    next =>
      have text := Option.some.inj (Except.ok.inj read)
      rw [← text] at token
      rw [← Option.some.inj token] at tag
      contradiction

theorem step?_of_angleStep? {step : Step} (starts : u.head? = some '<')
    (read : angleStep? none u = .ok (some step)) : step? none u = .ok (some step) := by
  rw [step?, if_pos starts, read]
  rfl

/-- A tag is not read from what never ends. -/
theorem angleStep?_of_step? {step : Step} (starts : u.head? = some '<')
    (found : step? none u = .ok (some step)) {content : TokenContent}
    (token : step.content = some content) (tag : content.isTag = true) :
    angleStep? none u = .ok (some step) := by
  cases reading_of_step? found with
  | angle _ read => exact read
  | broken =>
    rw [← Option.some.inj token] at tag
    contradiction
  | run other => exact absurd starts other

end Markup

end SfcLint
