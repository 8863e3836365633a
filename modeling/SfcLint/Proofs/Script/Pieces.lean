/-
# The pieces of a text

A piece is a stretch between separators without the blanks around it. So a text is its pieces with
nothing but blanks and separators around and between them, and each piece knows where it stands.
No group of brackets is cut, for a stretch holds it as a whole and no bracket is a blank. And a
piece has no separator of its own: cut out of its text it is read as it was within it, so that it
is the one piece of itself.
-/

import SfcLint.Proofs.Script.Cutting
import SfcLint.Proofs.Script.Stretches
import SfcLint.Proofs.Text.Blank

namespace SfcLint.Script

open Text (Trimmed isBlank strip blankWidth)

variable {separator t gap : Text} {gapWidth depth offset : Nat} {pieces : List Piece}
  {piece : Piece}

/-! ## Pieces and what is between them -/

/-- A row of blanks and separators. -/
inductive Between (separator : Text) : Text → Prop
  | nil : Between separator []
  | blank {c : Char} {t : Text} : isBlank c = true → Between separator t →
      Between separator (c :: t)
  | separator {t : Text} : Between separator t → Between separator (separator ++ t)

theorem Between.append {back : Text} (front : Between separator gap)
    (behind : Between separator back) : Between separator (gap ++ back) := by
  induction front with
  | nil => exact behind
  | blank blank _ ih => exact .blank blank ih
  | separator _ ih =>
    rw [List.append_assoc]
    exact .separator ih

theorem Between.of_blanks (blank : ∀ c ∈ gap, isBlank c = true) : Between separator gap := by
  induction gap with
  | nil => exact .nil
  | cons c gap ih =>
    rw [List.forall_mem_cons] at blank
    exact .blank blank.1 (ih blank.2)

/-- A text that starts at an offset is made of pieces, each of which stands where it says, and of
blanks and separators around and between them. -/
inductive Tiles (separator : Text) : Nat → Text → List Piece → Prop
  | rest {offset : Nat} {gap : Text} : Between separator gap → Tiles separator offset gap []
  | piece {offset : Nat} {gap text t : Text} {pieces : List Piece} : Between separator gap →
      Tiles separator (offset + gap.length + text.length) t pieces →
        Tiles separator offset (gap ++ (text ++ t)) (⟨offset + gap.length, text⟩ :: pieces)

theorem Tiles.widen (front : Between separator gap)
    (tiles : Tiles separator (offset + gap.length) t pieces) :
    Tiles separator offset (gap ++ t) pieces := by
  cases tiles with
  | rest between => exact .rest (front.append between)
  | @piece _ gap' text t _ between later =>
    rw [Nat.add_assoc offset, ← List.length_append] at later ⊢
    rw [← List.append_assoc]
    exact .piece (front.append between) later

/-- A piece stands at its offset. -/
theorem Tiles.prefix_drop (tiles : Tiles separator offset t pieces) (member : piece ∈ pieces) :
    offset ≤ piece.offset ∧ piece.text <+: t.drop (piece.offset - offset) := by
  -- What is before a later piece is taken off in two steps: the first piece with its gap, the rest.
  induction tiles with
  | rest => contradiction
  | @piece offset gap text t pieces _ _ ih =>
    rcases List.mem_cons.mp member with rfl | later
    · refine ⟨Nat.le_add_right _ _, ?_⟩
      rw [Nat.add_sub_cancel_left, List.drop_left]
      exact List.prefix_append _ _
    · obtain ⟨behind, stands⟩ := ih later
      refine ⟨by omega, ?_⟩
      have width : piece.offset - offset =
          (gap ++ text).length + (piece.offset - (offset + gap.length + text.length)) := by
        rw [List.length_append]
        omega
      rwa [width, ← List.append_assoc, ← List.drop_drop, List.drop_left]

/-- A piece ends before the later ones start. -/
theorem Tiles.pairwise (tiles : Tiles separator offset t pieces) :
    pieces.Pairwise fun piece later => piece.offset + piece.text.length ≤ later.offset := by
  induction tiles with
  | rest => exact .nil
  | piece _ behind ih =>
    refine .cons ?_ ih
    intro later member
    exact (behind.prefix_drop member).1

/-! ## Stripping the stretches -/

theorem piecesFrom_cons (gapWidth offset : Nat) (raw : Text) (later : List Text) :
    piecesFrom gapWidth offset (raw :: later) =
      if strip raw = [] then piecesFrom gapWidth (offset + raw.length + gapWidth) later
      else ⟨offset + blankWidth raw, strip raw⟩ ::
        piecesFrom gapWidth (offset + raw.length + gapWidth) later := by
  rw [piecesFrom]
  split
  next none => rw [if_pos none]
  next some => rw [if_neg fun none => some none]

/-- The pieces are the stripped stretches that are not blank, each where its stretch stands. -/
theorem mem_piecesFrom_iff {raws : List Text} :
    piece ∈ piecesFrom gapWidth offset raws ↔
      ∃ done raw later, raws = done ++ raw :: later ∧ strip raw ≠ [] ∧
        piece = ⟨offset + Text.joinWidth gapWidth done + blankWidth raw, strip raw⟩ := by
  induction raws generalizing offset with
  | nil => simp [piecesFrom]
  | cons first rest ih =>
    have here : piece ∈ piecesFrom gapWidth offset (first :: rest) ↔
        strip first ≠ [] ∧ piece = ⟨offset + blankWidth first, strip first⟩ ∨
          piece ∈ piecesFrom gapWidth (offset + first.length + gapWidth) rest := by
      rw [piecesFrom_cons]
      split <;> simp_all
    have moved (done : List Text) : offset + Text.joinWidth gapWidth (first :: done) =
        offset + first.length + gapWidth + Text.joinWidth gapWidth done := by
      rw [Text.joinWidth_cons]
      omega
    rw [here, ih]
    constructor
    · rintro (⟨some, rfl⟩ | ⟨done, raw, later, rfl, some, rfl⟩)
      · exact ⟨[], first, rest, rfl, some, rfl⟩
      · exact ⟨first :: done, raw, later, rfl, some, by rw [moved]⟩
    · rintro ⟨done, raw, later, split, some, rfl⟩
      cases done with
      | nil =>
        obtain ⟨rfl, -⟩ := List.cons.inj split
        exact .inl ⟨some, rfl⟩
      | cons _ done =>
        obtain ⟨rfl, rfl⟩ := List.cons.inj split
        exact .inr ⟨done, raw, later, rfl, some, by rw [moved]⟩

/-- The joined texts are their stripped forms with blanks and separators around them. -/
theorem tiles_piecesFrom (separator raw : Text) (later : List Text) (offset : Nat) :
    Tiles separator offset (Text.join separator (raw :: later))
      (piecesFrom separator.length offset (raw :: later)) := by
  -- The first text is stripped, whatever there is behind it.
  have first (raw : Text) {offset : Nat} {t : Text} {pieces : List Piece}
      (tiles : Tiles separator (offset + raw.length) t pieces) :
      Tiles separator offset (raw ++ t)
        (if strip raw = [] then pieces else ⟨offset + blankWidth raw, strip raw⟩ :: pieces) := by
    obtain ⟨front, back, blankFront, blankBack, split, width⟩ := Text.exists_blanks_strip raw
    have length := congrArg List.length split
    rw [List.length_append, List.length_append] at length
    rw [length] at tiles
    split
    next none =>
      rw [split, none, List.nil_append]
      refine .widen ((Between.of_blanks blankFront).append (.of_blanks blankBack)) ?_
      rwa [none, List.length_nil, Nat.zero_add, ← List.length_append] at tiles
    next some =>
      have behind : Tiles separator (offset + front.length + (strip raw).length) (back ++ t)
          pieces :=
        .widen (.of_blanks blankBack) (by rwa [Nat.add_assoc, Nat.add_assoc])
      rw [← width]
      nth_rewrite 1 [split]
      rw [List.append_assoc, List.append_assoc]
      exact .piece (.of_blanks blankFront) behind
  induction later generalizing raw offset with
  | nil =>
    have alone : Text.join separator [raw] = raw ++ [] := rfl
    rw [piecesFrom_cons, alone]
    exact first raw (.rest .nil)
  | cons next later ih =>
    have behind : Between separator (separator ++ []) := .separator .nil
    rw [List.append_nil] at behind
    rw [Text.join_cons_cons, piecesFrom_cons]
    exact first raw (.widen behind (ih next _))

theorem tiles_splitSpans (some : separator ≠ []) (t : Text) :
    Tiles separator 0 t (splitSpans t separator) := by
  obtain ⟨first, later, split⟩ := exists_first separator 0 t
  have tiles := tiles_piecesFrom separator first later 0
  rwa [← split, join_stretchesFrom some] at tiles

theorem mem_splitSpans_iff :
    piece ∈ splitSpans t separator ↔
      ∃ done raw later, stretches separator t = done ++ raw :: later ∧ strip raw ≠ [] ∧
        piece = ⟨Text.joinWidth separator.length done + blankWidth raw, strip raw⟩ := by
  rw [splitSpans, mem_piecesFrom_iff]
  simp only [Nat.zero_add]

theorem trimmed_of_mem_splitSpans (member : piece ∈ splitSpans t separator) :
    Trimmed piece.text := by
  obtain ⟨done, raw, later, -, some, rfl⟩ := mem_splitSpans_iff.mp member
  exact Text.trimmed_strip some

/-! ## Groups in one piece -/

theorem not_isBlank_bracket (kind : Bracket) :
    isBlank kind.opener = false ∧ isBlank kind.closer = false := by
  cases kind <;> decide

/-- A group that starts where the splitter comes to lies in one piece. -/
theorem exists_piece_of_encloses (some : separator ≠ []) {place stop : Nat}
    (meets : Meets separator t place depth) (encloses : Encloses t place stop) :
    ∃ piece ∈ splitSpans t separator,
      piece.offset ≤ place ∧ stop < piece.offset + piece.text.length := by
  obtain ⟨done, current, split, width⟩ := meets.exists_split some
  obtain ⟨ordered, within, kind, opens, closes⟩ := encloses.brackets
  rw [stretchesFrom_encloses encloses, ← prepend_append] at split
  -- The stretch holds what was read before the group, the group and what is read behind it.
  obtain ⟨behind, later, split⟩ : ∃ behind later, stretches separator t =
      done ++ (current ++ t.slice place (stop + 1) ++ behind) :: later := by
    obtain ⟨behind, later, rest⟩ := exists_first separator depth (t.drop (stop + 1))
    rw [rest] at split
    exact ⟨behind, later, split⟩
  generalize whole : current ++ t.slice place (stop + 1) ++ behind = raw at split
  have stands (i : Nat) (inside : i < stop + 1 - place) :
      raw[current.length + i]? = t[place + i]? := by
    have length : (t.slice place (stop + 1)).length = stop + 1 - place := by
      rw [Text.slice, List.length_take, List.length_drop]
      omega
    rw [← whole, List.append_assoc, List.getElem?_append_right (Nat.le_add_right _ _),
      Nat.add_sub_cancel_left, List.getElem?_append_left (by omega), Text.slice,
      List.getElem?_take_of_lt inside, List.getElem?_drop]
  have opener := stands 0 (by omega)
  have closer := stands (stop - place) (by omega)
  rw [Nat.add_zero, Nat.add_zero, opens] at opener
  rw [Nat.add_sub_cancel' (Nat.le_of_lt ordered), closes] at closer
  obtain ⟨starts, inside⟩ := Text.within_strip_of_visible opener (not_isBlank_bracket kind).1
  obtain ⟨-, ends⟩ := Text.within_strip_of_visible closer (not_isBlank_bracket kind).2
  refine ⟨_, mem_splitSpans_iff.mpr ⟨done, raw, later, split, ?_, rfl⟩, ?_, ?_⟩
  · rw [← List.length_pos_iff]
    omega
  · dsimp only
    omega
  · dsimp only
    omega

/-- **Splitting loses nothing and cuts no group.** A text is its pieces, in order and each where it
says it stands, with nothing but blanks and separators around and between them. And from an opening
bracket that the splitter comes to up to the one that closes it all characters stand in one
piece. -/
theorem splitSpans_sound (separates : separator ≠ []) (t : Text) :
    (∀ piece ∈ splitSpans t separator, Trimmed piece.text ∧
      piece.text = t.slice piece.offset (piece.offset + piece.text.length)) ∧
    ((splitSpans t separator).Pairwise fun piece later =>
      piece.offset < later.offset ∧ piece.offset + piece.text.length ≤ later.offset) ∧
    Tiles separator 0 t (splitSpans t separator) ∧
    ∀ (place depth stop : Nat) (kind : Bracket), Meets separator t place depth →
      t[place]? = some kind.opener → matching? t place = .ok (some stop) →
        ∃ piece ∈ splitSpans t separator,
          piece.offset ≤ place ∧ stop < piece.offset + piece.text.length := by
  have tiles := tiles_splitSpans separates t
  refine ⟨?_, ?_, tiles, ?_⟩
  · intro piece member
    obtain ⟨-, stands⟩ := tiles.prefix_drop member
    refine ⟨trimmed_of_mem_splitSpans member, ?_⟩
    rw [Text.slice, Nat.add_sub_cancel_left]
    exact List.prefix_iff_eq_take.mp stands
  · refine tiles.pairwise.imp_of_mem fun {piece later} member _ apart => ?_
    have long := List.length_pos_iff.mpr (trimmed_of_mem_splitSpans member).nonempty
    exact ⟨by omega, apart⟩
  · intro place depth stop kind meets opens found
    rw [matching?_opener opens, Except.ok.injEq, map_stop_spanAt?_eq_some_iff] at found
    exact exists_piece_of_encloses separates meets found

/-- A call and a name. -/
def callAndName : Text := "f(a, ')'), g"

/-- The group of a call is not cut at the comma in it. -/
theorem splitSpans_sound_call :
    [','] ≠ [] ∧ Meets [','] callAndName 1 0 ∧ callAndName[1]? = some Bracket.round.opener ∧
      matching? callAndName 1 = .ok (some 8) ∧
        ∃ piece ∈ splitSpans callAndName [','],
          piece.offset ≤ 1 ∧ 8 < piece.offset + piece.text.length := by
  have meets : Meets [','] callAndName 1 0 :=
    .read .start (by decide) fun here => absurd here.here (by decide)
  have opens : callAndName[1]? = some Bracket.round.opener := by decide
  have found : matching? callAndName 1 = .ok (some 8) := by cbv
  exact ⟨by decide, meets, opens, found,
    (splitSpans_sound (by decide) callAndName).2.2.2 1 0 8 .round meets opens found⟩

/-! ## Splitting a piece -/

/-- A stretch that is not empty starts with what is read at once. -/
theorem exists_read {raw : Text} {later : List Text} (some : separator ≠ [])
    (split : stretchesFrom separator true 0 depth t = raw :: later) (nonempty : raw ≠ []) :
    t ≠ [] ∧ ¬ Separates separator depth t ∧
      ∃ rest, raw = t.take (readLength t) ++ rest ∧
        stretchesFrom separator true 0 (depthAfter depth t) (t.drop (readLength t)) =
          rest :: later := by
  have inside : ¬ Separates separator depth t := by
    intro here
    rw [stretchesFrom_separates some here] at split
    exact nonempty (List.cons.inj split).1.symm
  have nonemptyText : t ≠ [] := by
    rintro rfl
    exact nonempty (List.cons.inj split).1.symm
  refine ⟨nonemptyText, inside, ?_⟩
  rw [stretchesFrom_read nonemptyText inside] at split
  obtain ⟨rest, others, behind⟩ :=
    exists_first separator (depthAfter depth t) (t.drop (readLength t))
  rw [behind] at split ⊢
  obtain ⟨rfl, rfl⟩ := List.cons.inj split
  exact ⟨rest, rfl, rfl⟩

/-- Every stretch but the first is read on from depth zero. -/
theorem exists_first_of_mem_tail {raw : Text} (some : separator ≠ [])
    (member : raw ∈ (stretchesFrom separator true 0 depth t).tail) :
    ∃ t later, stretchesFrom separator true 0 0 t = raw :: later := by
  induction depth, t using reading_induction some with
  | ends => contradiction
  | read depth t nonempty inside ih =>
    refine ih ?_
    obtain ⟨first, later, behind⟩ :=
      exists_first separator (depthAfter depth t) (t.drop (readLength t))
    rw [stretchesFrom_read nonempty inside, behind] at member
    rw [behind]
    exact member
  | separates depth t here ih =>
    -- The stretch behind the separator is the first of what is left, and the depth is zero there.
    obtain ⟨first, later, behind⟩ := exists_first separator depth (t.drop separator.length)
    rw [stretchesFrom_separates some here, List.tail_cons, behind] at member
    rw [behind] at ih
    rcases List.mem_cons.mp member with rfl | member
    · obtain rfl := here.outermost
      exact ⟨_, later, behind⟩
    · exact ih member

theorem exists_first_of_mem {raw : Text} (some : separator ≠ [])
    (member : raw ∈ stretches separator t) :
    ∃ t later, stretchesFrom separator true 0 0 t = raw :: later := by
  obtain ⟨first, later, split⟩ := exists_first separator 0 t
  rw [stretches, split] at member
  rcases List.mem_cons.mp member with rfl | member
  · exact ⟨t, later, split⟩
  · have behind : raw ∈ (stretchesFrom separator true 0 0 t).tail := by
      rw [split]
      exact member
    exact exists_first_of_mem_tail some behind

/-- No blank begins a literal. -/
theorem literalLength_blank {c : Char} (blank : isBlank c = true) (t : Text) :
    literalLength (c :: t) = 0 := by
  refine Nat.eq_zero_of_not_pos fun starts => ?_
  have visible : isBlank c = false := by
    rcases eq_of_literal starts with rfl | rfl | rfl | rfl <;> rfl
  simp [blank] at visible

/-- A blank is read alone, and the depth stays. -/
theorem read_blank (depth : Nat) {c : Char} (blank : isBlank c = true) (t : Text) :
    readLength (c :: t) = 1 ∧ depthAfter depth (c :: t) = depth := by
  have plain : (Lexeme.mark c).isBracket = false := by
    rw [Lexeme.isBracket, Bool.or_eq_false_iff]
    constructor
    · cases opens : Bracket.opened? c with
      | none => rfl
      | some kind =>
        obtain rfl := Bracket.opened?_eq_some_iff.mp opens
        simp [not_isBlank_bracket] at blank
    · cases closes : Bracket.closed? c with
      | none => rfl
      | some kind =>
        obtain rfl := Bracket.closed?_eq_some_iff.mp closes
        simp [not_isBlank_bracket] at blank
  refine ⟨?_, depthAfter_of_plain plain t⟩
  rw [readLength, literalLength_blank blank]
  rfl

/-- Blanks at the start of a stretch do not change how the rest of it is read. -/
theorem exists_first_of_blanks {front raw : Text} {later : List Text} (some : separator ≠ [])
    (blank : ∀ c ∈ front, isBlank c = true)
    (split : stretchesFrom separator true 0 depth t = (front ++ raw) :: later) :
    ∃ t, stretchesFrom separator true 0 depth t = raw :: later := by
  -- Blanks are read one at a time, so the text that is left gives the stretch without them.
  induction front generalizing t with
  | nil => exact ⟨t, split⟩
  | cons c front ih =>
    rw [List.forall_mem_cons] at blank
    obtain ⟨nonempty, -, rest, same, behind⟩ := exists_read some split (by simp)
    obtain ⟨d, t, rfl⟩ := List.exists_cons_of_ne_nil nonempty
    obtain ⟨n, length⟩ : ∃ n, readLength (d :: t) = n + 1 :=
      ⟨_, (Nat.sub_add_cancel (readLength_pos _)).symm⟩
    rw [length, List.take_succ_cons, List.cons_append, List.cons_append] at same
    obtain ⟨rfl, sameRest⟩ := List.cons.inj same
    obtain ⟨alone, level⟩ := read_blank depth blank.1 t
    obtain rfl : n = 0 := by omega
    rw [List.take_zero, List.nil_append] at sameRest
    rw [level, length, List.drop_succ_cons, List.drop_zero, ← sameRest] at behind
    exact ih blank.2 behind

/-- Of a text that is cut off the same is read at once, as far as it is left, unless a slash is left
of a comment; and no separator comes about. -/
theorem read_front (separator : Text) (depth : Nat) {front back : Text} (some : front ≠ [])
    (uncut : front = ['/'] → readLength (front ++ back) = 1) :
    readLength front = min front.length (readLength (front ++ back)) ∧
      depthAfter depth front = depthAfter depth (front ++ back) ∧
        (Separates separator depth front → Separates separator depth (front ++ back)) := by
  have long := List.length_pos_iff.mpr some
  have cut : literalLength front = min front.length (literalLength (front ++ back)) := by
    by_cases slash : front = ['/']
    · have alone := uncut slash
      subst slash
      have notOne := literalLength_slash back
      have plain : literalLength (['/'] ++ back) = 0 := by
        rw [readLength, List.singleton_append] at alone
        rw [List.singleton_append]
        omega
      rw [plain, literalLength_front_of_plain plain, Nat.min_zero]
    · exact literalLength_front slash back
  obtain ⟨c, front, rfl⟩ := List.exists_cons_of_ne_nil some
  refine ⟨?_, rfl, ?_⟩
  · rw [readLength, readLength]
    omega
  · rintro ⟨outermost, code, noBracket, here⟩
    exact ⟨outermost, by omega, noBracket, here.trans (List.prefix_append _ _)⟩

/-- A slash at the end of a stretch, or before blanks at its end, begins no comment. -/
theorem readLength_slash {back rest : Text} (after : Text) (blank : ∀ c ∈ back, isBlank c = true)
    (same : '/' :: back =
      ('/' :: (back ++ after)).take (readLength ('/' :: (back ++ after))) ++ rest) :
    readLength ('/' :: (back ++ after)) = 1 := by
  cases back with
  | nil =>
    have length := congrArg List.length same
    have taken := readLength_pos ('/' :: ([] ++ after))
    rw [List.length_append, List.length_take, Nat.min_eq_left (readLength_le (by simp)),
      List.length_singleton] at length
    omega
  | cons c back =>
    have visible : c ≠ '/' ∧ c ≠ '*' := by
      constructor <;> (rintro rfl; exact absurd (blank _ List.mem_cons_self) (by decide))
    have plain : ¬ 0 < literalLength ('/' :: (c :: back ++ after)) := by
      rw [literalLength_pos_iff]
      simp [startsLiteral, visible]
    rw [readLength]
    omega

/-- A stretch whose trailing blanks are cut off is read as it was, to its end. -/
theorem stretchesFrom_front {front back : Text} {later : List Text} (some : separator ≠ [])
    (blank : ∀ c ∈ back, isBlank c = true)
    (split : stretchesFrom separator true 0 depth t = (front ++ back) :: later) :
    stretchesFrom separator true 0 depth front = [front] := by
  induction size : front.length using Nat.strongRecOn generalizing depth t front with
  | ind n ih =>
  subst size
  by_cases empty : front = []
  · rw [empty]
    rfl
  obtain ⟨after, whole⟩ := prefix_of_stretchesFrom some split
  rw [List.append_assoc] at whole
  subst whole
  obtain ⟨-, inside, rest, same, behind⟩ :=
    exists_read some split (by simpa using fun none => absurd none empty)
  have uncut : front = ['/'] → readLength (front ++ (back ++ after)) = 1 := by
    rintro rfl
    exact readLength_slash after blank same
  obtain ⟨read, level, ends⟩ := read_front separator depth empty uncut
  rw [stretchesFrom_read empty fun here => inside (ends here)]
  rcases Nat.le_total (readLength (front ++ (back ++ after))) front.length with within | beyond
  · -- What is read at once is left whole, and then the rest is read as it was.
    rw [Nat.min_eq_right within] at read
    rw [← read] at within same behind
    rw [List.take_append_of_le_length within] at same
    rw [← level, List.drop_append_of_le_length within] at behind
    have left : front.drop (readLength front) ++ back = rest := by
      nth_rewrite 1 [← List.take_append_drop (readLength front) front] at same
      rw [List.append_assoc] at same
      exact List.append_cancel_left same
    rw [← left] at behind
    have taken := readLength_pos front
    rw [ih _ (by rw [List.length_drop]; omega) behind rfl]
    exact congrArg (· :: []) (List.take_append_drop _ _)
  · -- A literal goes on up to the cut, and all that is left belongs to it.
    rw [read, Nat.min_eq_left beyond, List.take_length, List.drop_length]
    exact congrArg (· :: []) (List.append_nil front)

/-- **A piece that is split again is one piece**, whatever stood around it. -/
theorem splitSpans_piece {piece : Text} (separates : separator ≠ [])
    (member : piece ∈ split t separator) : splitSpans piece separator = [⟨0, piece⟩] := by
  obtain ⟨span, found, rfl⟩ := List.mem_map.mp member
  obtain ⟨noBlanks, width⟩ := (trimmed_of_mem_splitSpans found).strip_eq
  obtain ⟨done, raw, later, stretched, some, rfl⟩ := mem_splitSpans_iff.mp found
  obtain ⟨front, back, blankFront, blankBack, around, -⟩ := Text.exists_blanks_strip raw
  have listed : raw ∈ stretches separator t := by
    rw [stretched]
    exact List.mem_append_right _ List.mem_cons_self
  -- The stretch of the piece is read on from depth zero; then its blanks are cut off at both ends.
  obtain ⟨u, others, first⟩ := exists_first_of_mem separates listed
  rw [around] at first
  obtain ⟨u, starts⟩ := exists_first_of_blanks separates blankFront first
  have whole := stretchesFrom_front separates blankBack starts
  rw [splitSpans, stretches, whole, piecesFrom_cons, noBlanks, width, if_neg some]
  rfl

/-- A closing bracket too many, and a string that is not closed. -/
def unbalancedText : Text := "), 'a, b  "

/-- The comma in the string that is not closed separates nothing, with or without the blanks. -/
theorem splitSpans_piece_unbalanced :
    [','] ≠ [] ∧ "'a, b".toList ∈ split unbalancedText [','] ∧
      splitSpans "'a, b".toList [','] = [⟨0, "'a, b".toList⟩] := by
  have pieces : split unbalancedText [','] = [")".toList, "'a, b".toList] := by cbv
  have member : "'a, b".toList ∈ split unbalancedText [','] := by
    rw [pieces]
    exact List.mem_cons_of_mem _ List.mem_cons_self
  exact ⟨by decide, member, splitSpans_piece (by decide) member⟩

end SfcLint.Script
