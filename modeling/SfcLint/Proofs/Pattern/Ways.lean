/-
# The ways to match a pattern

The matcher tries the ways in which a pattern can match in an order of preference and gives up a
way when what follows does not accept it. Here the ways are listed in that order. The matcher
finds the first of them that the continuation accepts, so a question about a match becomes a
question about a list.
-/

import SfcLint.Pattern.Search

namespace SfcLint.Pattern

/-- The places that are reached over zero, one, two and more characters that pass the test. -/
def runWays (test : Char → Bool) (captures : List Capture) :
    Nat → Option Char → Text → List Cursor
  | offset, before, [] => [⟨offset, before, [], captures⟩]
  | offset, before, c :: rest =>
      ⟨offset, before, c :: rest, captures⟩ ::
        if test c then runWays test captures (offset + 1) (some c) rest else []

/-- The places that rounds of `body` lead to, those after more rounds first. -/
def roundWays (body : Cursor → List Cursor) : Text → Cursor → List Cursor
  | [], cursor => [cursor]
  | _ :: bound, cursor =>
      (body cursor).flatMap (fun next =>
        if cursor.offset < next.offset then roundWays body bound next else []) ++ [cursor]

/-- The cursor with what has been passed since an earlier one set aside under a name. -/
def setAside (name : String) (cursor next : Cursor) : Cursor :=
  { next with
    captures :=
      ⟨name, cursor.offset, cursor.rest.take (next.offset - cursor.offset)⟩ :: next.captures }

/-- The cursors that the ways to match a pattern lead to, the preferred way first. -/
def ways : Pattern → Cursor → List Cursor
  | empty, cursor => [cursor]
  | one test, cursor =>
      match cursor.rest with
      | c :: rest =>
          if test c then [⟨cursor.offset + 1, some c, rest, cursor.captures⟩] else []
      | [] => []
  | literal t, cursor => (afterText t cursor).toList
  | seq first second, cursor => (first.ways cursor).flatMap second.ways
  | alt first second, cursor => first.ways cursor ++ second.ways cursor
  | run true test, cursor =>
      (runWays test cursor.captures cursor.offset cursor.before cursor.rest).reverse
  | run false test, cursor =>
      runWays test cursor.captures cursor.offset cursor.before cursor.rest
  | star body, cursor => roundWays body.ways cursor.rest cursor
  | capture name body, cursor => (body.ways cursor).map (setAside name cursor)
  | again name, cursor =>
      match cursor.captured? name with
      | some t => (afterText t cursor).toList
      | none => []
  | behind wanted test, cursor => if cursor.before.any test == wanted then [cursor] else []
  | ahead wanted body, cursor =>
      if (!(body.ways cursor).isEmpty) == wanted then [cursor] else []
  | edge, cursor => if atEdge cursor then [cursor] else []
  | start, cursor => if cursor.before.isNone then [cursor] else []
  | stop, cursor =>
      match cursor.rest with
      | [] => [cursor]
      | ['\n'] => [cursor]
      | _ => []

theorem ways_seq (first second : Pattern) (cursor : Cursor) :
    (seq first second).ways cursor = (first.ways cursor).flatMap second.ways := rfl

/-! ## The matcher finds the first way that is accepted -/

private theorem findSome?_flatMap_ways (f : Cursor → List Cursor) (k : Continuation)
    (cursors : List Cursor) :
    (cursors.flatMap f).findSome? k = cursors.findSome? fun next => (f next).findSome? k := by
  induction cursors with
  | nil => rfl
  | cons cursor cursors ih =>
    rw [List.flatMap_cons, List.findSome?_append, ih, List.findSome?_cons]
    cases (f cursor).findSome? k <;> rfl

private theorem findSome?_toList_cursor (found : Option Cursor) (k : Continuation) :
    found.toList.findSome? k = found.bind k := by
  cases found <;> simp

theorem runEager_eq (test : Char → Bool) (k : Continuation) (captures : List Capture)
    (offset : Nat) (before : Option Char) (t : Text) :
    runEager test k captures offset before t =
      (runWays test captures offset before t).reverse.findSome? k := by
  induction t generalizing offset before with
  | nil => simp [runEager, runWays]
  | cons c t ih =>
    by_cases passes : test c
    · simp only [runEager, runWays, passes, if_true, ih, List.reverse_cons,
        List.findSome?_append, List.findSome?_singleton]
      cases (runWays test captures (offset + 1) (some c) t).reverse.findSome? k <;> rfl
    · simp [runEager, runWays, passes]

theorem runReluctant_eq (test : Char → Bool) (k : Continuation) (captures : List Capture)
    (offset : Nat) (before : Option Char) (t : Text) :
    runReluctant test k captures offset before t =
      (runWays test captures offset before t).findSome? k := by
  induction t generalizing offset before with
  | nil => simp [runReluctant, runWays]
  | cons c t ih =>
    simp only [runReluctant, runWays, List.findSome?_cons]
    by_cases passes : test c
    · simp only [passes, if_true, ih]
      cases k ⟨offset, before, c :: t, captures⟩ <;> rfl
    · simp only [passes, Bool.false_eq_true, if_false, List.findSome?_nil]
      cases k ⟨offset, before, c :: t, captures⟩ <;> rfl

theorem rounds_eq {body : Cursor → Continuation → Option Cursor} {list : Cursor → List Cursor}
    (same : ∀ (cursor : Cursor) (k : Continuation), body cursor k = (list cursor).findSome? k)
    (k : Continuation) (bound : Text) (cursor : Cursor) :
    rounds body k bound cursor = (roundWays list bound cursor).findSome? k := by
  induction bound generalizing cursor with
  | nil => simp [rounds, roundWays]
  | cons c bound ih =>
    have inner : (body cursor fun next =>
        if cursor.offset < next.offset then rounds body k bound next else none) =
          ((list cursor).flatMap fun next =>
            if cursor.offset < next.offset then roundWays list bound next else []).findSome? k := by
      rw [same, findSome?_flatMap_ways]
      congr 1
      funext next
      by_cases onward : cursor.offset < next.offset <;> simp [onward, ih]
    rw [rounds, roundWays, List.findSome?_append, inner]
    cases ((list cursor).flatMap fun next =>
      if cursor.offset < next.offset then roundWays list bound next else []).findSome? k <;> simp

/-- The matcher finds the first way that the continuation accepts. -/
theorem match?_eq (p : Pattern) (cursor : Cursor) (k : Continuation) :
    p.match? cursor k = (p.ways cursor).findSome? k := by
  induction p generalizing cursor k with
  | empty => simp [match?, ways]
  | one test =>
    obtain ⟨offset, before, rest, captures⟩ := cursor
    cases rest with
    | nil => rfl
    | cons c rest => by_cases passes : test c <;> simp [match?, ways, passes]
  | literal t => simp [match?, ways, findSome?_toList_cursor]
  -- The matcher hands the second part to the first one as what is to follow.
  | seq first second ihFirst ihSecond =>
    rw [match?, ways, ihFirst, findSome?_flatMap_ways]
    simp only [ihSecond]
  | alt first second ihFirst ihSecond =>
    rw [match?, ways, List.findSome?_append, ihFirst, ihSecond]
    cases (first.ways cursor).findSome? k <;> rfl
  | run eager test =>
    cases eager
    · exact runReluctant_eq ..
    · exact runEager_eq ..
  | star body ih => exact rounds_eq ih ..
  | capture name body ih =>
    rw [match?, ways, ih, List.findSome?_map]
    rfl
  | again name =>
    cases found : cursor.captured? name <;>
      simp [match?, ways, found, findSome?_toList_cursor]
  | behind wanted test =>
    rw [match?, ways]
    split <;> simp
  | ahead wanted body ih =>
    -- Looking ahead asks only whether there is any way.
    have found : (body.match? cursor some).isSome = !(body.ways cursor).isEmpty := by
      rw [ih]
      cases body.ways cursor <;> simp
    rw [match?, ways, found]
    generalize ((!(body.ways cursor).isEmpty) == wanted) = holds
    cases holds <;> simp
  | edge =>
    rw [match?, ways]
    split <;> simp
  | start =>
    rw [match?, ways]
    split <;> simp
  | stop =>
    obtain ⟨offset, before, rest, captures⟩ := cursor
    match rest with
    | [] => simp [match?, ways]
    | [c] => by_cases isBreak : c = '\n' <;> simp [match?, ways, isBreak]
    | _ :: _ :: _ => simp [match?, ways]

/-- A pattern matches at a cursor as its first way says. -/
theorem hitAt?_eq (p : Pattern) (cursor : Cursor) :
    p.hitAt? cursor = (p.ways cursor).head?.map (Hit.between cursor) := by
  rw [hitAt?, match?_eq]
  cases p.ways cursor <;> simp

/-! ## Ways lead onward -/

/-- The second cursor is the first one after the given text has been passed. -/
structure Reaches (cursor : Cursor) (taken : Text) (next : Cursor) : Prop where
  rest : cursor.rest = taken ++ next.rest
  offset : next.offset = cursor.offset + taken.length
  before : next.before = taken.getLast?.or cursor.before
  captures : cursor.captures <:+ next.captures

namespace Reaches

variable {cursor middle next : Cursor} {first second : Text}

theorem refl (cursor : Cursor) : Reaches cursor [] cursor :=
  ⟨rfl, rfl, rfl, List.suffix_rfl⟩

theorem trans (reaches : Reaches cursor first middle) (onward : Reaches middle second next) :
    Reaches cursor (first ++ second) next where
  rest := by rw [reaches.rest, onward.rest, List.append_assoc]
  offset := by rw [onward.offset, reaches.offset, List.length_append, Nat.add_assoc]
  before := by
    rw [onward.before, reaches.before, List.getLast?_append]
    cases second.getLast? <;> rfl
  captures := reaches.captures.trans onward.captures

theorem take_eq (reaches : Reaches cursor first next) :
    cursor.rest.take (next.offset - cursor.offset) = first := by
  rw [reaches.offset, reaches.rest, Nat.add_sub_cancel_left, List.take_left]

end Reaches

theorem exists_reaches_of_mem_runWays {test : Char → Bool} {captures : List Capture}
    {offset : Nat} {before : Option Char} {t : Text} {next : Cursor}
    (member : next ∈ runWays test captures offset before t) :
    ∃ taken, (∀ c ∈ taken, test c = true) ∧ Reaches ⟨offset, before, t, captures⟩ taken next ∧
      next.captures = captures := by
  induction t generalizing offset before with
  | nil =>
    obtain rfl := List.mem_singleton.mp member
    exact ⟨[], by simp, .refl _, rfl⟩
  | cons c t ih =>
    rw [runWays, List.mem_cons] at member
    rcases member with rfl | member
    · exact ⟨[], by simp, .refl _, rfl⟩
    · split at member
      next passes =>
        obtain ⟨taken, all, reaches, same⟩ := ih member
        refine ⟨c :: taken, by simpa [passes] using all, ?_, same⟩
        have step : Reaches ⟨offset, before, c :: t, captures⟩ [c]
            ⟨offset + 1, some c, t, captures⟩ := ⟨rfl, rfl, rfl, List.suffix_rfl⟩
        exact step.trans reaches
      next => contradiction

theorem exists_taken_of_mem_roundWays {Q : Char → Prop} {body : Cursor → List Cursor}
    (onward : ∀ cursor next, next ∈ body cursor →
      ∃ taken, (∀ c ∈ taken, Q c) ∧ Reaches cursor taken next)
    {bound : Text} {cursor next : Cursor} (member : next ∈ roundWays body bound cursor) :
    ∃ taken, (∀ c ∈ taken, Q c) ∧ Reaches cursor taken next := by
  induction bound generalizing cursor with
  | nil =>
    obtain rfl := List.mem_singleton.mp member
    exact ⟨[], by simp, .refl _⟩
  | cons _ bound ih =>
    rw [roundWays, List.mem_append, List.mem_flatMap, List.mem_singleton] at member
    rcases member with ⟨middle, inBody, member⟩ | rfl
    · split at member
      · obtain ⟨first, all, reaches⟩ := onward _ _ inBody
        obtain ⟨second, all', later⟩ := ih member
        exact ⟨_, List.forall_mem_append.mpr ⟨all, all'⟩, reaches.trans later⟩
      · contradiction
    · exact ⟨[], by simp, .refl _⟩

theorem dropFront?_eq_some_iff {front t rest : Text} :
    Text.dropFront? front t = some rest ↔ t = front ++ rest := by
  induction front generalizing t with
  | nil => simp [Text.dropFront?, eq_comm]
  | cons f front ih =>
    cases t with
    | nil => simp [Text.dropFront?]
    | cons c t =>
      by_cases same : f = c
      · subst same
        simp [Text.dropFront?, ih]
      · simp [Text.dropFront?, same, Ne.symm same]

theorem afterText_eq_some_iff {t : Text} {cursor next : Cursor} :
    afterText t cursor = some next ↔
      Reaches cursor t next ∧ next.captures = cursor.captures := by
  rw [afterText]
  constructor
  · intro found
    split at found
    · contradiction
    next rest split =>
      obtain rfl := Option.some.inj found
      exact ⟨⟨dropFront?_eq_some_iff.mp split, rfl, rfl, List.suffix_rfl⟩, rfl⟩
  · rintro ⟨reaches, same⟩
    rw [dropFront?_eq_some_iff.mpr reaches.rest]
    obtain ⟨offset, before, rest, captures⟩ := next
    simp only [Option.some.injEq, Cursor.mk.injEq, true_and]
    exact ⟨reaches.offset.symm, reaches.before.symm, same.symm⟩

/-- Every character that the pattern can pass has the property. -/
def Takes (Q : Char → Prop) : Pattern → Prop
  | one test => ∀ c, test c = true → Q c
  | literal t => ∀ c ∈ t, Q c
  | seq first second => first.Takes Q ∧ second.Takes Q
  | alt first second => first.Takes Q ∧ second.Takes Q
  | run _ test => ∀ c, test c = true → Q c
  | star body => body.Takes Q
  | capture _ body => body.Takes Q
  | again _ => ∀ c, Q c
  | _ => True

/-- The pattern has no parts. -/
def isLeaf : Pattern → Bool
  | seq _ _ | alt _ _ | star _ | capture _ _ => false
  | _ => true

theorem mem_runWays_of_run {eager : Bool} {test : Char → Bool} {cursor next : Cursor}
    (member : next ∈ (run eager test).ways cursor) :
    next ∈ runWays test cursor.captures cursor.offset cursor.before cursor.rest := by
  cases eager with
  | true => exact List.mem_reverse.mp member
  | false => exact member

/-- A pattern without parts passes characters that it can pass, and sets nothing aside. -/
theorem exists_taken_of_isLeaf {Q : Char → Prop} {p : Pattern} (leaf : p.isLeaf = true)
    (takes : p.Takes Q) {cursor next : Cursor} (member : next ∈ p.ways cursor) :
    ∃ taken, (∀ c ∈ taken, Q c) ∧ Reaches cursor taken next ∧
      next.captures = cursor.captures := by
  cases p with
  | seq _ _ | alt _ _ | star _ | capture _ _ => contradiction
  | empty =>
    obtain rfl := List.mem_singleton.mp member
    exact ⟨[], by simp, .refl _, rfl⟩
  | one test =>
    obtain ⟨offset, before, rest, captures⟩ := cursor
    cases rest with
    | nil => simp [ways] at member
    | cons c rest =>
      simp only [ways, List.mem_ite_nil_right, List.mem_singleton] at member
      obtain ⟨passes, rfl⟩ := member
      exact ⟨[c], by simpa using takes c passes, ⟨rfl, rfl, rfl, List.suffix_rfl⟩, rfl⟩
  | literal t =>
    rw [ways, Option.mem_toList, afterText_eq_some_iff] at member
    exact ⟨t, takes, member⟩
  | run eager test =>
    obtain ⟨taken, all, reaches⟩ := exists_reaches_of_mem_runWays (mem_runWays_of_run member)
    exact ⟨taken, fun c inTaken => takes c (all c inTaken), reaches⟩
  | again name =>
    rw [ways] at member
    split at member
    next t found =>
      rw [Option.mem_toList, afterText_eq_some_iff] at member
      exact ⟨t, fun c _ => takes c, member⟩
    next => contradiction
  -- These only look, and stay at their place.
  | behind _ _ | ahead _ _ | edge | start =>
    rw [ways, List.mem_ite_nil_right, List.mem_singleton] at member
    obtain ⟨-, rfl⟩ := member
    exact ⟨[], by simp, .refl _, rfl⟩
  | stop =>
    have same : next = cursor := by
      rw [ways] at member
      split at member
      · exact List.mem_singleton.mp member
      · exact List.mem_singleton.mp member
      · contradiction
    exact ⟨[], by simp, same ▸ .refl _, same ▸ rfl⟩

/-- Every way passes a part of the text, of characters that the pattern can pass, and keeps what
has been set aside before. -/
theorem exists_taken_of_mem_ways {Q : Char → Prop} {p : Pattern} (takes : p.Takes Q)
    {cursor next : Cursor} (member : next ∈ p.ways cursor) :
    ∃ taken, (∀ c ∈ taken, Q c) ∧ Reaches cursor taken next := by
  induction p generalizing cursor next with
  | seq first second ihFirst ihSecond =>
    rw [ways, List.mem_flatMap] at member
    obtain ⟨middle, inFirst, inSecond⟩ := member
    obtain ⟨_, all, reaches⟩ := ihFirst takes.1 inFirst
    obtain ⟨_, all', onward⟩ := ihSecond takes.2 inSecond
    exact ⟨_, List.forall_mem_append.mpr ⟨all, all'⟩, reaches.trans onward⟩
  | alt first second ihFirst ihSecond =>
    rw [ways, List.mem_append] at member
    exact member.elim (ihFirst takes.1) (ihSecond takes.2)
  | star body ih => exact exists_taken_of_mem_roundWays (fun _ _ => ih takes) member
  | capture name body ih =>
    rw [ways, List.mem_map] at member
    obtain ⟨inner, inBody, rfl⟩ := member
    obtain ⟨taken, all, reaches⟩ := ih takes inBody
    exact ⟨taken, all, reaches.rest, reaches.offset, reaches.before,
      reaches.captures.trans (List.suffix_cons _ _)⟩
  | _ =>
    obtain ⟨taken, all, reaches, -⟩ := exists_taken_of_isLeaf rfl takes member
    exact ⟨taken, all, reaches⟩

theorem takes_anything (p : Pattern) : p.Takes fun _ => True := by
  induction p <;> simp_all [Takes]

/-- A pattern without parts sets nothing aside. -/
theorem captures_of_isLeaf {p : Pattern} (leaf : p.isLeaf = true) {cursor next : Cursor}
    (member : next ∈ p.ways cursor) : next.captures = cursor.captures := by
  obtain ⟨-, -, -, same⟩ := exists_taken_of_isLeaf leaf p.takes_anything member
  exact same

/-- Every way passes a part of the text and keeps what has been set aside before. -/
theorem exists_reaches_of_mem_ways {p : Pattern} {cursor next : Cursor}
    (member : next ∈ p.ways cursor) : ∃ taken, Reaches cursor taken next := by
  obtain ⟨taken, -, reaches⟩ := exists_taken_of_mem_ways p.takes_anything member
  exact ⟨taken, reaches⟩

/-- The part is passed on the way from one cursor to another, and its characters have the
property. -/
def OnTheWay (Q : Char → Prop) (cursor next : Cursor) (part : Capture) : Prop :=
  ∃ front back first last, Reaches cursor front first ∧ Reaches first part.text last ∧
    Reaches last back next ∧ part.start = first.offset ∧ ∀ c ∈ part.text, Q c

theorem OnTheWay.prepend {Q : Char → Prop} {cursor middle next : Cursor} {part : Capture}
    {taken : Text} (reaches : Reaches cursor taken middle) (later : OnTheWay Q middle next part) :
    OnTheWay Q cursor next part := by
  obtain ⟨front, back, first, last, before, within, behind, rest⟩ := later
  exact ⟨_, back, first, last, reaches.trans before, within, behind, rest⟩

theorem OnTheWay.append {Q : Char → Prop} {cursor middle next : Cursor} {part : Capture}
    {taken : Text} (earlier : OnTheWay Q cursor middle part) (reaches : Reaches middle taken next) :
    OnTheWay Q cursor next part := by
  obtain ⟨front, back, first, last, before, within, behind, rest⟩ := earlier
  exact ⟨front, _, first, last, before, within, behind.trans reaches, rest⟩

theorem captures_of_mem_roundWays {Q : Char → Prop} {part : Capture}
    {body : Cursor → List Cursor}
    (onward : ∀ cursor next, next ∈ body cursor → ∃ taken, Reaches cursor taken next)
    (inner : ∀ cursor next, next ∈ body cursor → part ∈ next.captures →
      part ∈ cursor.captures ∨ OnTheWay Q cursor next part)
    {bound : Text} {cursor next : Cursor} (member : next ∈ roundWays body bound cursor)
    (captured : part ∈ next.captures) :
    part ∈ cursor.captures ∨ OnTheWay Q cursor next part := by
  induction bound generalizing cursor with
  | nil =>
    obtain rfl := List.mem_singleton.mp member
    exact .inl captured
  | cons _ bound ih =>
    rw [roundWays, List.mem_append, List.mem_flatMap, List.mem_singleton] at member
    rcases member with ⟨middle, inBody, member⟩ | rfl
    · split at member
      · obtain ⟨taken, reaches⟩ := onward _ _ inBody
        have rounds (cursor next : Cursor) (inner : next ∈ body cursor) :
            ∃ taken, (∀ c ∈ taken, True) ∧ Reaches cursor taken next := by
          obtain ⟨taken, reaches⟩ := onward _ _ inner
          exact ⟨taken, fun _ _ => trivial, reaches⟩
        obtain ⟨more, -, later⟩ := exists_taken_of_mem_roundWays rounds member
        rcases ih member with here | behind
        · exact (inner _ _ inBody here).imp_right (·.append later)
        · exact .inr (behind.prepend reaches)
      · contradiction
    · exact .inl captured

/-- What a pattern sets aside it passes, and has characters that the pattern can pass. -/
theorem captures_of_mem_ways {Q : Char → Prop} {p : Pattern} (takes : p.Takes Q)
    {cursor next : Cursor} (member : next ∈ p.ways cursor) {part : Capture}
    (captured : part ∈ next.captures) :
    part ∈ cursor.captures ∨ OnTheWay Q cursor next part := by
  induction p generalizing cursor next with
  | seq first second ihFirst ihSecond =>
    rw [ways, List.mem_flatMap] at member
    obtain ⟨middle, inFirst, inSecond⟩ := member
    obtain ⟨taken, reaches⟩ := exists_reaches_of_mem_ways inFirst
    obtain ⟨more, later⟩ := exists_reaches_of_mem_ways inSecond
    -- The second part sets it aside, or it was set aside when the first one was left.
    rcases ihSecond takes.2 inSecond captured with here | behind
    · exact (ihFirst takes.1 inFirst here).imp_right (·.append later)
    · exact .inr (behind.prepend reaches)
  | alt first second ihFirst ihSecond =>
    rw [ways, List.mem_append] at member
    exact member.elim (fun inFirst => ihFirst takes.1 inFirst captured)
      (fun inSecond => ihSecond takes.2 inSecond captured)
  | star body ih =>
    exact captures_of_mem_roundWays (fun _ _ => exists_reaches_of_mem_ways) (fun _ _ => ih takes)
      member captured
  | capture name body ih =>
    rw [ways, List.mem_map] at member
    obtain ⟨inner, inBody, rfl⟩ := member
    have after : Reaches inner [] (setAside name cursor inner) :=
      ⟨rfl, rfl, rfl, List.suffix_cons _ _⟩
    rcases List.mem_cons.mp captured with rfl | captured
    · have bodyTakes : body.Takes Q := takes
      obtain ⟨taken, all, reaches⟩ := exists_taken_of_mem_ways bodyTakes inBody
      have text := reaches.take_eq
      refine .inr ⟨[], [], cursor, inner, .refl cursor, ?_, after, rfl, ?_⟩
      · rw [text]
        exact reaches
      · rw [text]
        exact all
    · exact (ih takes inBody captured).imp_right (·.append after)
  | _ =>
    rw [captures_of_isLeaf rfl member] at captured
    exact .inl captured

end SfcLint.Pattern
