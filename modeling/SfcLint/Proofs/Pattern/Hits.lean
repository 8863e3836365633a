/-
# Where a pattern is found

A hit is a place of the text and the first way of the pattern from there. The search from the left
finds the first place with a way, and the row of all hits holds only such places, so whatever is
known of the ways of a pattern is known of its hits.
-/

import SfcLint.Proofs.Pattern.Ways

namespace SfcLint

/-- The place in a text after its first `n` characters, with nothing set aside. -/
def Cursor.within (t : Text) (n : Nat) : Cursor := ⟨n, (t.take n).getLast?, t.drop n, []⟩

@[simp]
theorem Cursor.within_offset (t : Text) (n : Nat) : (Cursor.within t n).offset = n := rfl

@[simp]
theorem Cursor.within_rest (t : Text) (n : Nat) : (Cursor.within t n).rest = t.drop n := rfl

@[simp]
theorem Cursor.within_captures (t : Text) (n : Nat) : (Cursor.within t n).captures = [] := rfl

namespace Pattern

variable {p : Pattern} {t : Text} {hit : Hit}

theorem hitAt?_eq_some {cursor : Cursor} (found : p.hitAt? cursor = some hit) :
    ∃ next ∈ p.ways cursor, hit = Hit.between cursor next := by
  rw [hitAt?_eq, Option.map_eq_some_iff] at found
  obtain ⟨next, first, rfl⟩ := found
  exact ⟨next, List.mem_of_head? first, rfl⟩

theorem hitAt?_eq_none_iff {cursor : Cursor} : p.hitAt? cursor = none ↔ p.ways cursor = [] := by
  rw [hitAt?_eq, Option.map_eq_none_iff, List.head?_eq_none_iff]

/-- What a hit at a place tells about the text. -/
theorem hitAt?_within {n : Nat} (inside : n ≤ t.length)
    (found : p.hitAt? (.within t n) = some hit) :
    hit.start = n ∧ hit.stop = n + hit.text.length ∧ t.drop n = hit.text ++ hit.rest ∧
      hit.stop ≤ t.length ∧ hit.rest = t.drop hit.stop := by
  obtain ⟨next, member, rfl⟩ := hitAt?_eq_some found
  obtain ⟨taken, reaches⟩ := exists_reaches_of_mem_ways member
  have text : (Hit.between (.within t n) next).text = taken := reaches.take_eq
  have stop : (Hit.between (.within t n) next).stop = n + taken.length := reaches.offset
  have split : t.drop n = taken ++ next.rest := reaches.rest
  have length := congrArg List.length split
  rw [List.length_drop, List.length_append] at length
  refine ⟨rfl, ?_, ?_, ?_, ?_⟩
  · rw [stop, text]
  · rw [text]
    exact split
  · rw [stop]
    omega
  · rw [stop, ← List.drop_drop, split, List.drop_left]
    rfl

theorem leading?_eq (p : Pattern) (t : Text) : p.leading? t = p.hitAt? (.within t 0) := rfl

theorem leading?_eq_some (found : p.leading? t = some hit) :
    hit.start = 0 ∧ hit.stop = hit.text.length ∧ t = hit.text ++ hit.rest ∧
      hit.stop ≤ t.length := by
  obtain ⟨start, stop, split, within, -⟩ := hitAt?_within (Nat.zero_le _) found
  exact ⟨start, by simpa using stop, by simpa using split, within⟩

private theorem within_append_cons (front : Text) (c : Char) (t : Text) :
    Cursor.within (front ++ c :: t) front.length = ⟨front.length, front.getLast?, c :: t, []⟩ := by
  simp [Cursor.within]

private theorem append_cons_eq (front : Text) (c : Char) (t : Text) :
    front ++ c :: t = (front ++ [c]) ++ t := by
  simp

theorem firstFrom?_eq_some (front : Text)
    (found : p.firstFrom? front.length front.getLast? t = some hit) :
    ∃ n, front.length ≤ n ∧ n ≤ (front ++ t).length ∧
      p.hitAt? (.within (front ++ t) n) = some hit ∧
        ∀ m, front.length ≤ m → m < n → p.hitAt? (.within (front ++ t) m) = none := by
  -- Induction on what is ahead: a character that is passed joins the front.
  induction t generalizing front with
  | nil =>
    refine ⟨front.length, Nat.le_refl _, by simp, ?_, by omega⟩
    simpa [Cursor.within, firstFrom?] using found
  | cons c t ih =>
    rw [firstFrom?, ← within_append_cons] at found
    split at found
    next _ here =>
      obtain rfl := Option.some.inj found
      exact ⟨front.length, Nat.le_refl _, by simp, here, by omega⟩
    next none =>
      have length : (front ++ [c]).length = front.length + 1 := by simp
      have last : (front ++ [c]).getLast? = some c := by simp
      rw [← length, ← last] at found
      obtain ⟨n, after, within, here, before⟩ := ih (front ++ [c]) found
      rw [← append_cons_eq] at within here before
      rw [length] at after before
      refine ⟨n, by omega, within, here, ?_⟩
      intro m atLeast less
      rcases Nat.eq_or_lt_of_le atLeast with rfl | later
      · exact none
      · exact before m later less

/-- The search from the left finds the first place from which there is a way. -/
theorem first?_eq_some (found : p.first? t = some hit) :
    ∃ n ≤ t.length, p.hitAt? (.within t n) = some hit ∧
      ∀ m < n, p.hitAt? (.within t m) = none := by
  obtain ⟨n, -, within, here, before⟩ := firstFrom?_eq_some [] found
  exact ⟨n, within, here, fun m less => before m (Nat.zero_le _) less⟩

theorem firstFrom?_eq_none (front : Text)
    (missing : p.firstFrom? front.length front.getLast? t = none) {n : Nat}
    (atLeast : front.length ≤ n) (inside : n ≤ (front ++ t).length) :
    p.hitAt? (.within (front ++ t) n) = none := by
  induction t generalizing front with
  | nil =>
    obtain rfl : n = front.length := by
      rw [List.append_nil] at inside
      omega
    simpa [Cursor.within, firstFrom?] using missing
  | cons c t ih =>
    rw [firstFrom?, ← within_append_cons] at missing
    split at missing
    · contradiction
    next none =>
      have length : (front ++ [c]).length = front.length + 1 := by simp
      have last : (front ++ [c]).getLast? = some c := by simp
      rcases Nat.eq_or_lt_of_le atLeast with rfl | later
      · exact none
      · rw [← length, ← last] at missing
        rw [append_cons_eq] at inside ⊢
        exact ih (front ++ [c]) missing (by rw [length]; exact later) inside

/-- The search from the left fails only if there is no way from any place. -/
theorem first?_eq_none (missing : p.first? t = none) {n : Nat} (inside : n ≤ t.length) :
    p.hitAt? (.within t n) = none :=
  firstFrom?_eq_none [] missing (Nat.zero_le n) inside

theorem exists_of_mem_allFrom (front : Text) {passing : Nat}
    (member : hit ∈ p.allFrom passing front.length front.getLast? t) :
    ∃ n, front.length ≤ n ∧ n < (front ++ t).length ∧
      p.hitAt? (.within (front ++ t) n) = some hit := by
  induction t generalizing front passing with
  | nil => simp [allFrom] at member
  | cons c t ih =>
    have length : (front ++ [c]).length = front.length + 1 := by simp
    have last : (front ++ [c]).getLast? = some c := by simp
    have later {passing : Nat}
        (member : hit ∈ p.allFrom passing (front.length + 1) (some c) t) :
        ∃ n, front.length ≤ n ∧ n < (front ++ c :: t).length ∧
          p.hitAt? (.within (front ++ c :: t) n) = some hit := by
      rw [← length, ← last] at member
      obtain ⟨n, after, within, here⟩ := ih (front ++ [c]) member
      rw [← append_cons_eq] at within here
      exact ⟨n, by omega, within, here⟩
    cases passing with
    | succ passing => exact later member
    | zero =>
      rw [allFrom, ← within_append_cons] at member
      split at member
      next _ here =>
        rcases List.mem_cons.mp member with rfl | member
        · exact ⟨front.length, Nat.le_refl _, by simp, here⟩
        · exact later member
      next => exact later member

/-- Every one of the hits is a hit at its place. -/
theorem hitAt?_of_mem_hits (member : hit ∈ p.hits t) :
    hit.start < t.length ∧ p.hitAt? (.within t hit.start) = some hit := by
  obtain ⟨n, -, within, here⟩ := exists_of_mem_allFrom [] member
  obtain ⟨start, -⟩ := hitAt?_within (Nat.le_of_lt within) here
  rw [start]
  exact ⟨within, here⟩

/-! ## Hits that stand apart -/

theorem le_start_of_mem_allFrom (front : Text) {passing : Nat}
    (member : hit ∈ p.allFrom passing front.length front.getLast? t) :
    front.length ≤ hit.start := by
  obtain ⟨n, atLeast, within, here⟩ := exists_of_mem_allFrom front member
  have start := (hitAt?_within (Nat.le_of_lt within) here).1
  omega

theorem pairwise_allFrom (front : Text) (passing : Nat) :
    (p.allFrom passing front.length front.getLast? t).Pairwise fun a b => a.start < b.start := by
  induction t generalizing front passing with
  | nil => simp [allFrom]
  | cons c t ih =>
    have length : (front ++ [c]).length = front.length + 1 := by simp
    have last : (front ++ [c]).getLast? = some c := by simp
    have later (passing : Nat) := ih (front ++ [c]) passing
    rw [length, last] at later
    cases passing with
    | succ passing => exact later passing
    | zero =>
      rw [allFrom, ← within_append_cons]
      split
      next found here =>
        -- The later hits start behind the character at which the first one does.
        have start : found.start = front.length :=
          (hitAt?_within (by simp) here).1
        refine List.pairwise_cons.mpr ⟨?_, later _⟩
        intro other member
        rw [← length, ← last] at member
        have behind := le_start_of_mem_allFrom (front ++ [c]) member
        omega
      next => exact later 0

/-- The hits start one behind the other. -/
theorem pairwise_hits (p : Pattern) (t : Text) :
    (p.hits t).Pairwise fun a b => a.start < b.start :=
  pairwise_allFrom [] 0

theorem mem_allFrom_of_apart (front : Text) {passing n : Nat}
    (atLeast : front.length + passing ≤ n) (inside : n < (front ++ t).length)
    (here : p.hitAt? (.within (front ++ t) n) = some hit)
    (apart : ∀ m < n, ∀ other, p.hitAt? (.within (front ++ t) m) = some other → other.stop ≤ n) :
    hit ∈ p.allFrom passing front.length front.getLast? t := by
  -- Induction on what is still to be searched: a hit before the place leaves it to the search.
  induction t generalizing front passing with
  | nil =>
    rw [List.append_nil] at inside
    omega
  | cons c t ih =>
    have length : (front ++ [c]).length = front.length + 1 := by simp
    have last : (front ++ [c]).getLast? = some c := by simp
    have later {passing : Nat} (atLeast : front.length + 1 + passing ≤ n) :
        hit ∈ p.allFrom passing (front.length + 1) (some c) t := by
      rw [append_cons_eq] at inside here apart
      rw [← length] at atLeast
      have found := ih (front ++ [c]) atLeast inside here apart
      rwa [length, last] at found
    cases passing with
    | succ passing => exact later (by omega)
    | zero =>
      rw [allFrom, ← within_append_cons]
      rcases Nat.eq_or_lt_of_le atLeast with same | before
      · obtain rfl : front.length = n := same
        rw [here]
        exact List.mem_cons_self
      · split
        next other found =>
          have passed := apart front.length before other found
          exact List.mem_cons_of_mem _ (later (by omega))
        next => exact later (by omega)

/-- A hit that no earlier one reaches into is among the hits. -/
theorem mem_hits_of_apart {n : Nat} (inside : n < t.length)
    (here : p.hitAt? (.within t n) = some hit)
    (apart : ∀ m < n, ∀ other, p.hitAt? (.within t m) = some other → other.stop ≤ n) :
    hit ∈ p.hits t :=
  mem_allFrom_of_apart [] (Nat.zero_le n) inside here apart

/-! ## Patterns that do not look behind -/

/-- The pattern neither asks what stands before it nor goes back to what has been set aside. -/
def forward : Pattern → Bool
  | empty | one _ | literal _ | run _ _ => true
  | seq first second | alt first second => first.forward && second.forward
  | _ => false

theorem map_rest_flatMap {f : Cursor → List Cursor}
    (same : ∀ first second : Cursor, first.rest = second.rest →
      (f first).map (·.rest) = (f second).map (·.rest))
    {firsts seconds : List Cursor} (rests : firsts.map (·.rest) = seconds.map (·.rest)) :
    (firsts.flatMap f).map (·.rest) = (seconds.flatMap f).map (·.rest) := by
  induction firsts generalizing seconds with
  | nil =>
    rw [List.map_nil, eq_comm, List.map_eq_nil_iff] at rests
    rw [rests]
  | cons first firsts ih =>
    cases seconds with
    | nil => simp at rests
    | cons second seconds =>
      obtain ⟨here, later⟩ := List.cons.inj rests
      rw [List.flatMap_cons, List.flatMap_cons, List.map_append, List.map_append,
        same first second here, ih later]

theorem map_rest_runWays (test : Char → Bool) (captures captures' : List Capture)
    (offset offset' : Nat) (before before' : Option Char) (t : Text) :
    (runWays test captures offset before t).map (·.rest) =
      (runWays test captures' offset' before' t).map (·.rest) := by
  induction t generalizing offset offset' before before' with
  | nil => rfl
  | cons c t ih =>
    rw [runWays, runWays, List.map_cons, List.map_cons]
    split
    · rw [ih _ (offset' + 1) _ (some c)]
    · rfl

/-- Where such a pattern leads to depends on what follows only. -/
theorem map_rest_ways (forward : p.forward = true) {first second : Cursor}
    (same : first.rest = second.rest) :
    (p.ways first).map (·.rest) = (p.ways second).map (·.rest) := by
  obtain ⟨offset, before, rest, captures⟩ := first
  obtain ⟨offset', before', _, captures'⟩ := second
  -- The induction needs all of the two places but their rest to vary.
  obtain rfl : rest = _ := same
  induction p generalizing offset before rest captures offset' before' captures' with
  | empty => rfl
  | one test =>
    cases rest with
    | nil => rfl
    | cons c rest =>
      simp only [ways]
      split <;> rfl
  | literal t =>
    simp only [ways, afterText]
    cases Text.dropFront? t rest <;> rfl
  | run eager test =>
    have runs := map_rest_runWays test captures captures' offset offset' before before' rest
    cases eager
    · exact runs
    · simp only [ways, List.map_reverse, runs]
  | seq one two ihOne ihTwo =>
    rw [Pattern.forward, Bool.and_eq_true] at forward
    rw [ways_seq, ways_seq]
    refine map_rest_flatMap ?_ (ihOne forward.1 offset before rest captures
      offset' before' captures')
    rintro ⟨_, _, rest, _⟩ ⟨_, _, _, _⟩ (rfl : rest = _)
    exact ihTwo forward.2 _ _ _ _ _ _ _
  | alt one two ihOne ihTwo =>
    rw [Pattern.forward, Bool.and_eq_true] at forward
    rw [ways, ways, List.map_append, List.map_append,
      ihOne forward.1 offset before rest captures offset' before' captures',
      ihTwo forward.2 offset before rest captures offset' before' captures']
  | _ => contradiction

/-- Such a pattern is found at a place exactly when it leads what follows. -/
theorem hitAt?_isSome_of_forward (forward : p.forward = true) (cursor : Cursor) :
    (p.hitAt? cursor).isSome = (p.leading? cursor.rest).isSome := by
  have same : cursor.rest = (Cursor.within cursor.rest 0).rest := rfl
  have rests := congrArg List.length (map_rest_ways forward same)
  rw [List.length_map, List.length_map] at rests
  rw [leading?_eq, hitAt?_eq, hitAt?_eq, Option.isSome_map, Option.isSome_map]
  cases front : p.ways cursor <;>
    cases back : p.ways (.within cursor.rest 0) <;> simp_all

/-! ## What is set aside -/

/-- The names under which a pattern sets something aside. -/
def names : Pattern → List String
  | seq first second => first.names ++ second.names
  | alt first second => first.names ++ second.names
  | star body => body.names
  | capture name body => name :: body.names
  | _ => []

theorem captured?_setAside_of_ne {name other : String} (different : name ≠ other)
    (cursor next : Cursor) :
    (setAside name cursor next).captured? other = next.captured? other := by
  simp [setAside, Cursor.captured?, different]

theorem captured?_setAside (name : String) (cursor next : Cursor) :
    (setAside name cursor next).captured? name =
      some (cursor.rest.take (next.offset - cursor.offset)) := by
  simp [setAside, Cursor.captured?]

theorem captured?_of_mem_roundWays {body : Cursor → List Cursor} {name : String}
    (same : ∀ cursor next, next ∈ body cursor → next.captured? name = cursor.captured? name)
    {bound : Text} {cursor next : Cursor} (member : next ∈ roundWays body bound cursor) :
    next.captured? name = cursor.captured? name := by
  induction bound generalizing cursor with
  | nil =>
    obtain rfl := List.mem_singleton.mp member
    rfl
  | cons _ bound ih =>
    rw [roundWays, List.mem_append, List.mem_flatMap, List.mem_singleton] at member
    rcases member with ⟨middle, inBody, member⟩ | rfl
    · split at member
      · rw [ih member, same _ _ inBody]
      · contradiction
    · rfl

/-- A pattern leaves alone what is set aside under names that are not its own. -/
theorem captured?_of_mem_ways {name : String} {cursor next : Cursor} (foreign : name ∉ p.names)
    (member : next ∈ p.ways cursor) : next.captured? name = cursor.captured? name := by
  induction p generalizing cursor next with
  | seq first second ihFirst ihSecond =>
    rw [names, List.mem_append, not_or] at foreign
    rw [ways, List.mem_flatMap] at member
    obtain ⟨middle, inFirst, inSecond⟩ := member
    rw [ihSecond foreign.2 inSecond, ihFirst foreign.1 inFirst]
  | alt first second ihFirst ihSecond =>
    rw [names, List.mem_append, not_or] at foreign
    rw [ways, List.mem_append] at member
    exact member.elim (ihFirst foreign.1) (ihSecond foreign.2)
  | star body ih => exact captured?_of_mem_roundWays (fun _ _ => ih foreign) member
  | capture own body ih =>
    rw [names, List.mem_cons, not_or] at foreign
    rw [ways, List.mem_map] at member
    obtain ⟨inner, inBody, rfl⟩ := member
    rw [captured?_setAside_of_ne (Ne.symm foreign.1), ih foreign.2 inBody]
  | _ => rw [Cursor.captured?, captures_of_isLeaf rfl member, Cursor.captured?]

end Pattern

end SfcLint
