/-
# The preferred way over a known text

Where the text ahead is known, the way that a pattern prefers can be computed without a cursor:
from the character before a place and the text from there on follows the place that it leads to
and what is set aside. Each kind of pattern has a rule for what it picks, and one for when it has
no way at all.
-/

import SfcLint.Proofs.Pattern.Hits
import SfcLint.Proofs.Pattern.Spelling

namespace SfcLint

/-- What a pattern can see from a place: the character before it and the text ahead. -/
structure View where
  before : Option Char
  ahead : Text

/-- What is seen at a cursor. -/
def Cursor.view (cursor : Cursor) : View := ⟨cursor.before, cursor.rest⟩

namespace Pattern

/-- From the first view the way that the pattern prefers leads to the second one and sets the given
parts aside. -/
def Picks (p : Pattern) (view onward : View) (aside : List Aside) : Prop :=
  ∀ cursor : Cursor, cursor.view = view →
    ∃ next, (p.ways cursor).head? = some next ∧ next.view = onward ∧
      asides next = aside ++ asides cursor

/-- From the view the pattern has no way. -/
def Refuses (p : Pattern) (view : View) : Prop :=
  ∀ cursor : Cursor, cursor.view = view → p.ways cursor = []

variable {p first second body : Pattern} {view middle onward : View}
  {before last : Option Char} {taken rest : Text} {aside later : List Aside} {test : Char → Bool}
  {wanted : Bool}

/-- A character that passes a test which some signs fail is none of them. -/
theorem outside_of_test {signs : String} {c : Char} (passes : test c = true)
    (others : signs.toList.any test = false) : outside signs c = true := by
  rw [outside, Bool.not_eq_true', Bool.eq_false_iff]
  intro listed
  exact List.any_eq_false.mp others c (List.contains_iff_mem.mp listed) passes

theorem head?_flatMap_of_head? {f : Cursor → List Cursor} {cursors : List Cursor}
    {middle next : Cursor} (head : cursors.head? = some middle)
    (inner : (f middle).head? = some next) : (cursors.flatMap f).head? = some next := by
  obtain ⟨others, rfl⟩ := List.head?_eq_some_iff.mp head
  rw [List.flatMap_cons, List.head?_append, inner]
  rfl

/-! ## What a pattern picks -/

theorem picks_empty (view : View) : Picks empty view view [] :=
  fun cursor here => ⟨cursor, rfl, here, rfl⟩

theorem picks_one {c : Char} (passes : test c = true) :
    Picks (one test) ⟨before, c :: rest⟩ ⟨some c, rest⟩ [] := by
  rintro ⟨offset, _, _, captures⟩ ⟨⟩
  exact ⟨⟨offset + 1, some c, rest, captures⟩, by simp [ways, passes], rfl, rfl⟩

theorem picks_literal (t : Text) :
    Picks (literal t) ⟨before, t ++ rest⟩ ⟨t.getLast?.or before, rest⟩ [] := by
  rintro ⟨offset, _, _, captures⟩ ⟨⟩
  refine ⟨⟨offset + t.length, _, _, captures⟩, ?_, rfl, rfl⟩
  rw [ways, Option.head?_toList]
  exact afterText_eq_some_iff.mpr ⟨⟨rfl, rfl, rfl, List.suffix_rfl⟩, rfl⟩

theorem picks_seq (front : Picks first view middle aside)
    (back : Picks second middle onward later) :
    Picks (seq first second) view onward (later ++ aside) := by
  intro cursor here
  obtain ⟨between, head, there, early⟩ := front cursor here
  obtain ⟨next, head', ends, late⟩ := back between there
  refine ⟨next, head?_flatMap_of_head? head head', ends, ?_⟩
  rw [late, early, List.append_assoc]

theorem picks_alt_left (front : Picks first view onward aside) :
    Picks (alt first second) view onward aside := by
  intro cursor here
  obtain ⟨next, head, leads⟩ := front cursor here
  exact ⟨next, by rw [ways, List.head?_append, head]; rfl, leads⟩

theorem picks_alt_right (none : Refuses first view) (back : Picks second view onward aside) :
    Picks (alt first second) view onward aside := by
  intro cursor here
  obtain ⟨next, head, leads⟩ := back cursor here
  exact ⟨next, by rw [ways, none cursor here, List.nil_append, head], leads⟩

theorem picks_optional (front : Picks p view onward aside) :
    Picks (optional p) view onward aside := picks_alt_left front

theorem picks_optional_of_refuses (none : Refuses p view) : Picks (optional p) view view [] :=
  picks_alt_right none (picks_empty view)

/-- What a pattern passes is known from what is ahead before and after it. -/
theorem take_eq_of_mem_ways {cursor next : Cursor} (member : next ∈ p.ways cursor)
    (ahead : cursor.rest = taken ++ next.rest) :
    next.offset = cursor.offset + taken.length ∧
      cursor.rest.take (next.offset - cursor.offset) = taken := by
  obtain ⟨passed, reaches⟩ := exists_reaches_of_mem_ways member
  obtain rfl : passed = taken := List.append_cancel_right (reaches.rest.symm.trans ahead)
  exact ⟨reaches.offset, reaches.take_eq⟩

theorem picks_capture {name : String}
    (inner : Picks body ⟨before, taken ++ rest⟩ ⟨last, rest⟩ aside) :
    Picks (capture name body) ⟨before, taken ++ rest⟩ ⟨last, rest⟩
      ((name, taken) :: aside) := by
  rintro cursor here
  obtain ⟨next, head, there, early⟩ := inner cursor here
  -- What is set aside is cut out by the offsets, and these differ by the length of what is passed.
  have ahead : cursor.rest = taken ++ next.rest :=
    (congrArg View.ahead here).trans (congrArg (taken ++ ·) (congrArg View.ahead there).symm)
  refine ⟨setAside name cursor next, by rw [ways, List.head?_map, head]; rfl, there, ?_⟩
  rw [asides, setAside, List.map_cons, (take_eq_of_mem_ways (List.mem_of_head? head) ahead).2,
    List.cons_append, ← early]
  rfl

theorem picks_behind (holds : before.any test = wanted) :
    Picks (behind wanted test) ⟨before, rest⟩ ⟨before, rest⟩ [] := by
  rintro cursor ⟨⟩
  exact ⟨cursor, by rw [ways, if_pos (by simpa using holds)]; rfl, rfl, rfl⟩

theorem picks_start : Picks start ⟨none, rest⟩ ⟨none, rest⟩ [] := by
  rintro ⟨offset, _, _, captures⟩ ⟨⟩
  exact ⟨_, rfl, rfl, rfl⟩

theorem picks_stop : Picks stop ⟨before, []⟩ ⟨before, []⟩ [] := by
  rintro ⟨offset, _, _, captures⟩ ⟨⟩
  exact ⟨_, rfl, rfl, rfl⟩

theorem picks_ahead (inner : Picks body view onward aside) :
    Picks (ahead true body) view view [] := by
  intro cursor here
  obtain ⟨next, head, -⟩ := inner cursor here
  obtain ⟨others, split⟩ := List.head?_eq_some_iff.mp head
  refine ⟨cursor, ?_, here, rfl⟩
  rw [ways, split]
  rfl

theorem picks_edge (holds : (before.any Text.isWordChar != rest.head?.any Text.isWordChar) = true) :
    Picks edge ⟨before, rest⟩ ⟨before, rest⟩ [] := by
  rintro cursor ⟨⟩
  exact ⟨cursor, by rw [ways, atEdge, if_pos holds]; rfl, rfl, rfl⟩

theorem runWays_of_stops (stops : ∀ c ∈ rest.head?, test c = false) (captures : List Capture)
    (offset : Nat) (before : Option Char) :
    runWays test captures offset before rest = [⟨offset, before, rest, captures⟩] := by
  cases rest with
  | nil => rfl
  | cons c rest => simp [runWays, stops c rfl]

/-- A run comes to what is behind characters that pass by all the places between them. -/
theorem exists_runWays_append (passes : ∀ c ∈ taken, test c = true) (captures : List Capture)
    (offset : Nat) (before : Option Char) (rest : Text) :
    ∃ shorter, runWays test captures offset before (taken ++ rest) = shorter ++
        runWays test captures (offset + taken.length) (taken.getLast?.or before) rest ∧
      ∀ early ∈ shorter, ∃ front back, back ≠ [] ∧ taken = front ++ back ∧
        early.view = ⟨front.getLast?.or before, back ++ rest⟩ := by
  induction taken generalizing offset before with
  | nil => exact ⟨[], rfl, by simp⟩
  | cons c taken ih =>
    rw [List.forall_mem_cons] at passes
    obtain ⟨shorter, split, early⟩ := ih passes.2 (offset + 1) (some c)
    refine ⟨⟨offset, before, c :: taken ++ rest, captures⟩ :: shorter, ?_, ?_⟩
    · rw [List.cons_append, runWays, if_pos passes.1, split, List.getLast?_cons, Option.some_or,
        Option.or_some, List.length_cons, Nat.add_assoc offset, Nat.add_comm 1]
      rfl
    · rintro sooner (_ | ⟨_, member⟩)
      · exact ⟨[], c :: taken, List.cons_ne_nil c taken, rfl, rfl⟩
      · obtain ⟨front, back, held, rfl, here⟩ := early sooner member
        refine ⟨c :: front, back, held, rfl, here.trans ?_⟩
        rw [List.getLast?_cons, Option.some_or, Option.or_some]

/-- A run of characters goes on as long as they pass the test. -/
theorem picks_many (taken : Text) (passes : ∀ c ∈ taken, test c = true)
    (stops : ∀ c ∈ rest.head?, test c = false) :
    Picks (many test) ⟨before, taken ++ rest⟩ ⟨taken.getLast?.or before, rest⟩ [] := by
  rintro ⟨offset, before, _, captures⟩ ⟨⟩
  refine ⟨⟨offset + taken.length, taken.getLast?.or before, rest, captures⟩, ?_, rfl, rfl⟩
  obtain ⟨shorter, split, -⟩ := exists_runWays_append passes captures offset before rest
  rw [many, ways, List.head?_reverse]
  refine (congrArg List.getLast? split).trans ?_
  rw [runWays_of_stops stops, List.getLast?_concat]

/-- Where no character passes the test, none is passed. -/
theorem picks_many_nil (stops : ∀ c ∈ rest.head?, test c = false) :
    Picks (many test) ⟨before, rest⟩ ⟨before, rest⟩ [] := picks_many [] (by simp) stops

/-- Where no blank stands, none is passed. -/
theorem picks_no_blanks {c : Char} (visible : Text.isBlank c = false) (t : Text) :
    Picks blanks ⟨before, c :: t⟩ ⟨before, c :: t⟩ [] :=
  picks_many_nil (by rintro d ⟨⟩; exact visible)

theorem picks_some1 (some : taken ≠ []) (passes : ∀ c ∈ taken, test c = true)
    (stops : ∀ c ∈ rest.head?, test c = false) :
    Picks (some1 test) ⟨before, taken ++ rest⟩ ⟨taken.getLast?, rest⟩ [] := by
  obtain ⟨c, taken, rfl⟩ := List.exists_cons_of_ne_nil some
  rw [List.forall_mem_cons] at passes
  rw [List.getLast?_cons]
  have whole : Picks (some1 test) ⟨before, c :: taken ++ rest⟩
      ⟨taken.getLast?.or (Option.some c), rest⟩ [] :=
    picks_seq (picks_one passes.1) (picks_many taken passes.2 stops)
  rwa [Option.or_some] at whole

/-! ## Giving up a character -/

/-- Of the ways from the first view the preferred one leads to the second view, and the next one to
the third, with the given parts set aside. -/
def Offers (p : Pattern) (view far near : View) (aside : List Aside) : Prop :=
  ∀ cursor : Cursor, cursor.view = view →
    ∃ longer next others, p.ways cursor = longer :: next :: others ∧ longer.view = far ∧
      next.view = near ∧ asides next = aside ++ asides cursor

/-- A run of characters can leave its last one to what follows. -/
theorem offers_many {c : Char} (passes : ∀ d ∈ taken, test d = true) (last : test c = true)
    (stops : ∀ d ∈ rest.head?, test d = false) :
    Offers (many test) ⟨before, taken ++ c :: rest⟩ ⟨some c, rest⟩
      ⟨taken.getLast?.or before, c :: rest⟩ [] := by
  rintro ⟨offset, _, _, captures⟩ ⟨⟩
  -- A run has its ways from the shortest to the longest, and only the last two of them matter.
  obtain ⟨shorter, split, -⟩ := exists_runWays_append passes captures offset _ (c :: rest)
  rw [runWays, if_pos last, runWays_of_stops stops] at split
  refine ⟨⟨offset + taken.length + 1, some c, rest, captures⟩,
    ⟨offset + taken.length, taken.getLast?.or _, c :: rest, captures⟩, shorter.reverse, ?_, rfl,
    rfl, rfl⟩
  rw [many, ways]
  exact (congrArg List.reverse split).trans (by rw [List.reverse_append]; rfl)

theorem offers_capture {name : String} {far : View}
    (inner : Offers body ⟨before, taken ++ rest⟩ far ⟨last, rest⟩ aside) :
    Offers (capture name body) ⟨before, taken ++ rest⟩ far ⟨last, rest⟩
      ((name, taken) :: aside) := by
  intro cursor here
  obtain ⟨longer, next, others, split, there, near, early⟩ := inner cursor here
  have ahead : cursor.rest = taken ++ next.rest :=
    (congrArg View.ahead here).trans (congrArg (taken ++ ·) (congrArg View.ahead near).symm)
  have member : next ∈ body.ways cursor := by
    rw [split]
    exact .tail _ (.head _)
  refine ⟨setAside name cursor longer, setAside name cursor next, others.map (setAside name cursor),
    by rw [ways, split]; rfl, there, near, ?_⟩
  rw [asides, setAside, List.map_cons, (take_eq_of_mem_ways member ahead).2, List.cons_append,
    ← early]
  rfl

/-- Where what follows has no way behind the preferred way, the next one counts. -/
theorem picks_seq_of_offers {far : View} (front : Offers first view far middle aside)
    (none : Refuses second far) (back : Picks second middle onward later) :
    Picks (seq first second) view onward (later ++ aside) := by
  intro cursor here
  obtain ⟨longer, between, others, split, there, near, early⟩ := front cursor here
  obtain ⟨next, head, ends, late⟩ := back between near
  refine ⟨next, ?_, ends, by rw [late, early, List.append_assoc]⟩
  rw [ways, split, List.flatMap_cons, none longer there, List.nil_append]
  exact head?_flatMap_of_head? rfl head

/-! ## Waiting for what follows -/

/-- The preferred ways from the first view lead to some views, and the next one after them leads to
the second view, with the given parts set aside. -/
def Delays (p : Pattern) (view : View) (sooner : View → Prop) (middle : View)
    (aside : List Aside) : Prop :=
  ∀ cursor : Cursor, cursor.view = view →
    ∃ shorter next others, p.ways cursor = shorter ++ next :: others ∧
      (∀ early ∈ shorter, sooner early.view) ∧ next.view = middle ∧
        asides next = aside ++ asides cursor

/-- What can be seen between two characters of a text: the one before, and the rest of the text with
what follows it. -/
def Midway (taken rest : Text) (view : View) : Prop :=
  ∃ front back, front ≠ [] ∧ back ≠ [] ∧ taken = front ++ back ∧
    view = ⟨front.getLast?, back ++ rest⟩

/-- As few characters as possible are tried before more of them. -/
theorem delays_few1 (some : taken ≠ []) (passes : ∀ c ∈ taken, test c = true) :
    Delays (few1 test) ⟨before, taken ++ rest⟩ (Midway taken rest) ⟨taken.getLast?, rest⟩ [] := by
  rintro ⟨offset, before, _, captures⟩ ⟨⟩
  obtain ⟨c, taken, rfl⟩ := List.exists_cons_of_ne_nil some
  rw [List.forall_mem_cons] at passes
  obtain ⟨shorter, split, early⟩ :=
    exists_runWays_append passes.2 captures (offset + 1) (Option.some c) rest
  obtain ⟨others, ends⟩ : ∃ others, runWays test captures (offset + 1 + taken.length)
      (taken.getLast?.or (Option.some c)) rest =
        ⟨offset + 1 + taken.length, taken.getLast?.or (Option.some c), rest, captures⟩ ::
          others := by
    cases rest <;> exact ⟨_, rfl⟩
  rw [ends] at split
  have step : (one test).ways ⟨offset, before, c :: (taken ++ rest), captures⟩ =
      [⟨offset + 1, Option.some c, taken ++ rest, captures⟩] := by
    simp [ways, passes.1]
  refine ⟨shorter, ⟨offset + 1 + taken.length, taken.getLast?.or (Option.some c), rest, captures⟩,
    others, ?_, ?_, ?_, rfl⟩
  · have run := congrArg (List.flatMap (run false test).ways) step
    rw [List.flatMap_singleton] at run
    exact run.trans split
  · intro sooner member
    obtain ⟨front, back, held, rfl, here⟩ := early sooner member
    refine ⟨c :: front, back, List.cons_ne_nil c front, held, rfl, here.trans ?_⟩
    rw [List.getLast?_cons, Option.or_some]
  · rw [List.getLast?_cons, Option.or_some]
    rfl

theorem delays_capture {name : String} {sooner : View → Prop}
    (inner : Delays body ⟨before, taken ++ rest⟩ sooner ⟨last, rest⟩ aside) :
    Delays (capture name body) ⟨before, taken ++ rest⟩ sooner ⟨last, rest⟩
      ((name, taken) :: aside) := by
  intro cursor here
  obtain ⟨shorter, next, others, split, early, there, parts⟩ := inner cursor here
  have ahead : cursor.rest = taken ++ next.rest :=
    (congrArg View.ahead here).trans (congrArg (taken ++ ·) (congrArg View.ahead there).symm)
  have member : next ∈ body.ways cursor := by
    rw [split]
    exact List.mem_append_right _ List.mem_cons_self
  refine ⟨shorter.map (setAside name cursor), setAside name cursor next,
    others.map (setAside name cursor), ?_, ?_, there, ?_⟩
  · rw [ways, split, List.map_append, List.map_cons]
  · intro sooner member
    obtain ⟨before, inShorter, rfl⟩ := List.mem_map.mp member
    exact early before inShorter
  · rw [asides, setAside, List.map_cons, (take_eq_of_mem_ways member ahead).2, List.cons_append,
      ← parts]
    rfl

/-- Where what follows has no way behind the ways before it, a way counts. -/
theorem picks_seq_of_delays {sooner : View → Prop}
    (front : Delays first view sooner middle aside)
    (none : ∀ early, sooner early → Refuses second early)
    (back : Picks second middle onward later) :
    Picks (seq first second) view onward (later ++ aside) := by
  intro cursor here
  obtain ⟨shorter, between, others, split, early, near, parts⟩ := front cursor here
  obtain ⟨next, head, ends, late⟩ := back between near
  refine ⟨next, ?_, ends, by rw [late, parts, List.append_assoc]⟩
  have nothing : shorter.flatMap second.ways = [] :=
    List.flatMap_eq_nil_iff.mpr fun sooner member => none _ (early sooner member) sooner rfl
  rw [ways, split, List.flatMap_append, nothing, List.nil_append]
  exact head?_flatMap_of_head? rfl head

/-! ## Rounds -/

/-- Rounds move on, so any two bounds that the text ahead keeps allow the same ones. -/
theorem roundWays_congr {list : Cursor → List Cursor}
    (onward : ∀ cursor, ∀ next ∈ list cursor, ∃ taken, Reaches cursor taken next)
    {bound bound' : Text} {cursor : Cursor} (within : cursor.rest.length ≤ bound.length)
    (within' : cursor.rest.length ≤ bound'.length) :
    roundWays list bound cursor = roundWays list bound' cursor := by
  have shorter {cursor next : Cursor} (member : next ∈ list cursor)
      (moves : cursor.offset < next.offset) : next.rest.length < cursor.rest.length := by
    obtain ⟨taken, reaches⟩ := onward cursor next member
    have lengths := congrArg List.length reaches.rest
    have places := reaches.offset
    rw [List.length_append] at lengths
    omega
  -- With nothing ahead no round moves on.
  have ends {b : Char} {bound : Text} {cursor : Cursor} (ended : cursor.rest.length ≤ 0) :
      roundWays list (b :: bound) cursor = [cursor] := by
    rw [roundWays, List.flatMap_eq_nil_iff.mpr, List.nil_append]
    intro next member
    rw [if_neg]
    intro moves
    have less := shorter member moves
    omega
  -- Induction on both bounds at once: a round that moves on leaves less ahead than either.
  induction bound generalizing bound' cursor with
  | nil =>
    cases bound' with
    | nil => rfl
    | cons b bound' => exact (ends within).symm
  | cons b bound ih =>
    cases bound' with
    | nil => exact ends within'
    | cons b' bound' =>
      rw [roundWays, roundWays, List.flatMap_def, List.flatMap_def,
        List.map_congr_left fun next member => ?_]
      split
      next moves =>
        have less := shorter member moves
        rw [List.length_cons] at within within'
        exact ih (by omega) (by omega)
      next => rfl

theorem picks_star_nil (none : Refuses body view) : Picks (star body) view view [] := by
  intro cursor here
  refine ⟨cursor, ?_, here, rfl⟩
  rw [ways]
  cases cursor.rest with
  | nil => rfl
  | cons c t => rw [roundWays, none cursor here]; rfl

theorem picks_star_cons (moves : middle.ahead.length < view.ahead.length)
    (round : Picks body view middle aside) (rounds : Picks (star body) middle onward later) :
    Picks (star body) view onward (later ++ aside) := by
  intro cursor here
  obtain ⟨between, head, there, early⟩ := round cursor here
  obtain ⟨next, head', ends, late⟩ := rounds between there
  refine ⟨next, ?_, ends, by rw [late, early, List.append_assoc]⟩
  rw [← here, ← there] at moves
  change between.rest.length < cursor.rest.length at moves
  obtain ⟨taken, reaches⟩ := exists_reaches_of_mem_ways (List.mem_of_head? head)
  have lengths := congrArg List.length reaches.rest
  have places := reaches.offset
  rw [List.length_append] at lengths
  obtain ⟨c, bound, split⟩ := List.exists_cons_of_ne_nil (List.ne_nil_of_length_pos
    (Nat.lt_of_le_of_lt (Nat.zero_le _) moves))
  rw [split, List.length_cons] at moves
  -- The remaining rounds are made with the bound of the first one, which allows them as well.
  have first : (roundWays body.ways bound between).head? = some next := by
    rw [roundWays_congr (fun _ _ => exists_reaches_of_mem_ways) (Nat.le_of_lt_succ moves)
      (Nat.le_refl _)]
    exact head'
  rw [ways, split, roundWays, List.head?_append, head?_flatMap_of_head? head]
  · rfl
  · rw [if_pos (by rw [split, List.length_cons] at lengths; omega), first]

/-! ## What a pattern refuses -/

theorem refuses_one (fails : ∀ c ∈ rest.head?, test c = false) :
    Refuses (one test) ⟨before, rest⟩ := by
  rintro ⟨offset, _, ahead, captures⟩ ⟨⟩
  cases ahead with
  | nil => rfl
  | cons c t => simp [ways, fails c rfl]

theorem not_prefix_of_other {t : Text} {c d : Char} (starts : t.head? = some c) (other : c ≠ d) :
    ¬ t <+: d :: rest := by
  rintro ⟨later, split⟩
  obtain ⟨t, rfl⟩ := List.head?_eq_some_iff.mp starts
  exact other (List.cons.inj split).1

theorem refuses_literal {t : Text} (other : ¬ t <+: rest) :
    Refuses (literal t) ⟨before, rest⟩ := by
  rintro cursor ⟨⟩
  rw [ways, Option.toList_eq_nil_iff, Option.eq_none_iff_forall_ne_some]
  intro next found
  exact other ⟨_, (afterText_eq_some_iff.mp found).1.rest.symm⟩

theorem refuses_seq (none : Refuses first view) : Refuses (seq first second) view := by
  intro cursor here
  rw [ways, none cursor here]
  rfl

/-- A row has no way where the front of it has none. -/
theorem refuses_seq_assoc {third : Pattern} (none : Refuses (seq (seq first second) third) view) :
    Refuses (seq first (seq second third)) view := by
  intro cursor here
  have nothing := none cursor here
  rwa [ways_seq, ways_seq, List.flatMap_assoc] at nothing

theorem refuses_alt (none : Refuses first view) (none' : Refuses second view) :
    Refuses (alt first second) view := by
  intro cursor here
  rw [ways, none cursor here, none' cursor here]
  rfl

theorem refuses_capture {name : String} (none : Refuses body view) :
    Refuses (capture name body) view := by
  intro cursor here
  rw [ways, none cursor here]
  rfl

/-- A look behind leaves it to what follows. -/
theorem refuses_behind_seq (none : Refuses second view) :
    Refuses (seq (behind wanted test) second) view := by
  intro cursor here
  rw [ways, ways]
  split
  · simpa using none cursor here
  · rfl

/-- Behind a character nothing starts. -/
theorem refuses_start (c : Char) : Refuses start ⟨some c, rest⟩ := by
  intro cursor here
  have before : cursor.before = some c := congrArg View.before here
  rw [ways, before]
  rfl

theorem refuses_start_seq (none : Refuses second view) : Refuses (seq start second) view := by
  intro cursor here
  rw [ways, ways]
  split
  · simpa using none cursor here
  · rfl

/-- Behind a character what follows must have a way. -/
theorem refuses_one_seq {c : Char} (none : Refuses second ⟨some c, rest⟩) :
    Refuses (seq (one test) second) ⟨before, c :: rest⟩ := by
  rintro ⟨offset, _, _, captures⟩ ⟨⟩
  rw [ways_seq, List.flatMap_eq_nil_iff]
  intro next member
  by_cases passes : test c = true
  · simp only [ways, if_pos passes, List.mem_singleton] at member
    obtain rfl := member
    exact none _ rfl
  · simp [ways, passes] at member

/-- Behind a text that stands there what follows must have a way. -/
theorem refuses_literal_seq {t : Text}
    (none : ∀ behind, rest = t ++ behind → ∀ before, Refuses second ⟨before, behind⟩) :
    Refuses (seq (literal t) second) ⟨before, rest⟩ := by
  rintro cursor ⟨⟩
  rw [ways_seq, List.flatMap_eq_nil_iff]
  intro next member
  rw [ways, Option.mem_toList] at member
  exact none next.rest (afterText_eq_some_iff.mp member).1.rest next.before next rfl

theorem refuses_alt_seq {third : Pattern} (none : Refuses (seq first third) view)
    (none' : Refuses (seq second third) view) : Refuses (seq (alt first second) third) view := by
  intro cursor here
  have left := none cursor here
  have right := none' cursor here
  rw [ways] at left right ⊢
  rw [ways, List.flatMap_append, left, right]
  rfl

/-- A pattern that may be left out leaves it to what follows, if it has no way itself. -/
theorem refuses_optional_seq (none : Refuses first view) (none' : Refuses second view) :
    Refuses (seq (optional first) second) view := by
  intro cursor here
  rw [ways, optional, ways, none cursor here, ways]
  simpa using none' cursor here

/-- Behind a run what follows must have a way at one of the places that the run comes to. -/
theorem refuses_many_seq (stops : ∀ c ∈ rest.head?, test c = false)
    (none : ∀ front back, taken = front ++ back → ∀ before, Refuses second ⟨before, back ++ rest⟩) :
    Refuses (seq (many test) second) ⟨before, taken ++ rest⟩ := by
  rintro ⟨offset, _, _, captures⟩ ⟨⟩
  rw [ways_seq, List.flatMap_eq_nil_iff]
  intro next member
  obtain ⟨passed, passes, reaches, -⟩ := exists_reaches_of_mem_runWays (List.mem_reverse.mp member)
  have ahead : taken ++ rest = passed ++ next.rest := reaches.rest
  rcases List.append_eq_append_iff.mp ahead with ⟨more, rfl, behind⟩ | ⟨back, split, behind⟩
  · -- The run passes no more than what its characters can be.
    cases more with
    | nil =>
      have here := none taken [] (List.append_nil taken).symm next.before
      rw [List.nil_append] at behind
      rw [List.nil_append, behind] at here
      exact here next rfl
    | cons c more =>
      have passed := passes c (by simp)
      rw [stops c (by rw [behind]; rfl)] at passed
      contradiction
  · have here := none passed back split next.before
    rw [← behind] at here
    exact here next rfl

/-- Where none of the words stands none of them is found. -/
theorem refuses_words {names : List String} (others : ∀ name ∈ names, ¬ name.toList <+: rest) :
    Refuses (words names) ⟨before, rest⟩ := by
  induction names with
  | nil => exact refuses_one fun _ _ => rfl
  | cons name names ih =>
    rw [List.forall_mem_cons] at others
    cases names with
    | nil => exact refuses_literal others.1
    | cons next names => exact refuses_alt (refuses_literal others.1) (ih others.2)

/-- The word that stands there is picked, if no other one stands there too. -/
theorem picks_words {names : List String} {name : String} (listed : name ∈ names)
    (others : ∀ other ∈ names, other.toList <+: name.toList ++ rest → other = name) :
    Picks (words names) ⟨before, name.toList ++ rest⟩
      ⟨name.toList.getLast?.or before, rest⟩ [] := by
  induction names with
  | nil => contradiction
  | cons first names ih =>
    rw [List.forall_mem_cons] at others
    cases names with
    | nil =>
      obtain rfl := List.mem_singleton.mp listed
      exact picks_literal name.toList
    | cons next names =>
      -- A word that stands before it in the list would be preferred to it.
      by_cases same : first = name
      · subst same
        exact picks_alt_left (picks_literal first.toList)
      · have later := (List.mem_cons.mp listed).resolve_left fun same' => same same'.symm
        exact picks_alt_right (refuses_literal fun stands => same (others.1 stands))
          (ih later others.2)

/-- A word of certain characters that stands before others stands in the part before them. -/
theorem prefix_of_letters {word front : Text} (letters : ∀ c ∈ word, test c = true)
    (stops : ∀ c ∈ rest.head?, test c = false) (stands : word <+: front ++ rest) :
    word <+: front := by
  obtain ⟨behind, split⟩ := stands
  rcases List.append_eq_append_iff.mp split with ⟨more, rfl, -⟩ | ⟨more, rfl, later⟩
  · exact List.prefix_append word more
  -- Otherwise the word would go on over the first character behind, which fails the test.
  · cases more with
    | nil => simp
    | cons c more =>
      have letter := letters c (by simp)
      rw [stops c (by rw [later]; rfl)] at letter
      contradiction

/-- Of words that differ at their ends the one is picked that stands as a whole. -/
theorem picks_whole_word {names : List String} {name : String} (listed : name ∈ names)
    (letters : ∀ other ∈ names, ∀ c ∈ other.toList, test c = true)
    (stops : ∀ c ∈ rest.head?, test c = false)
    (differ : ∀ other ∈ names, other.toList <+: name.toList → other = name) :
    Picks (words names) ⟨before, name.toList ++ rest⟩ ⟨name.toList.getLast?.or before, rest⟩ [] :=
  picks_words listed fun other listed' stands =>
    differ other listed' (prefix_of_letters (letters other listed') stops stands)

/-! ## What is found -/

/-- What is set aside last under a name. -/
def setAside? (name : String) (aside : List Aside) : Option Text :=
  (aside.find? (·.1 == name)).map (·.2)

theorem find?_asides (captures : List Capture) (name : String) :
    (captures.find? (·.name == name)).map (·.text) =
      setAside? name (captures.map fun part => (part.name, part.text)) := by
  rw [setAside?, List.find?_map, Option.map_map]
  rfl

theorem captured?_eq (cursor : Cursor) (name : String) :
    cursor.captured? name = setAside? name (asides cursor) := find?_asides _ _

/-- A hit passes a part of the text and sets parts of it aside. -/
structure Finds (hit : Hit) (offset : Nat) (taken rest : Text) (aside : List Aside) : Prop where
  start : hit.start = offset
  stop : hit.stop = offset + taken.length
  text : hit.text = taken
  rest : hit.rest = rest
  asides : hit.captures.map (fun part => (part.name, part.text)) = aside

theorem Finds.group?_eq {hit : Hit} {offset : Nat} (finds : Finds hit offset taken rest aside)
    (name : String) : hit.group? name = setAside? name aside := by
  rw [Hit.group?, find?_asides, finds.asides]

theorem exists_hitAt?_of_picks
    (picks : Picks p ⟨before, taken ++ rest⟩ ⟨last, rest⟩ aside) (offset : Nat) :
    ∃ hit, p.hitAt? ⟨offset, before, taken ++ rest, []⟩ = some hit ∧
      Finds hit offset taken rest aside := by
  obtain ⟨next, head, there, early⟩ := picks ⟨offset, before, taken ++ rest, []⟩ rfl
  have same : next.rest = rest := congrArg View.ahead there
  obtain ⟨moved, passed⟩ :=
    take_eq_of_mem_ways (List.mem_of_head? head) (congrArg (taken ++ ·) same.symm)
  refine ⟨.between ⟨offset, before, taken ++ rest, []⟩ next, by rw [hitAt?_eq, head]; rfl, ?_⟩
  exact ⟨rfl, moved, passed, same, early.trans (List.append_nil _)⟩

theorem exists_leading?_of_picks
    (picks : Picks p ⟨none, taken ++ rest⟩ ⟨last, rest⟩ aside) :
    ∃ hit, p.leading? (taken ++ rest) = some hit ∧ Finds hit 0 taken rest aside :=
  exists_hitAt?_of_picks picks 0

/-- What a pattern picks at the start is the first that it finds. -/
theorem exists_first?_of_picks (picks : Picks p ⟨none, taken ++ rest⟩ ⟨last, rest⟩ aside) :
    ∃ hit, p.first? (taken ++ rest) = some hit ∧ Finds hit 0 taken rest aside := by
  obtain ⟨hit, found, finds⟩ := exists_hitAt?_of_picks picks 0
  refine ⟨hit, ?_, finds⟩
  rw [first?]
  cases split : taken ++ rest with
  | nil =>
    rw [split] at found
    exact found
  | cons c t =>
    rw [split] at found
    rw [firstFrom?, found]

/-- The way that the matcher finds is the one that the pattern picks. -/
theorem exists_match?_of_picks {cursor : Cursor} (picks : Picks p cursor.view onward aside)
    (ahead : cursor.rest = taken ++ onward.ahead) :
    ∃ next, p.match? cursor some = some next ∧ next.view = onward ∧
      next.offset = cursor.offset + taken.length ∧ asides next = aside ++ asides cursor := by
  obtain ⟨next, head, there, early⟩ := picks cursor rfl
  have same : cursor.rest = taken ++ next.rest := by
    rw [ahead, ← there]
    rfl
  have moved := (take_eq_of_mem_ways (List.mem_of_head? head) same).1
  obtain ⟨others, split⟩ := List.head?_eq_some_iff.mp head
  exact ⟨next, by rw [match?_eq, split]; rfl, there, moved, early⟩

theorem match?_of_refuses {cursor : Cursor} (none : Refuses p cursor.view) (k : Continuation) :
    p.match? cursor k = Option.none := by
  rw [match?_eq, none cursor rfl]
  rfl

/-! ## All hits -/

/-- The characters of the latest hit are passed over. -/
theorem allFrom_passing (p : Pattern) (offset : Nat) (before : Option Char) (passed t : Text) :
    p.allFrom passed.length offset before (passed ++ t) =
      p.allFrom 0 (offset + passed.length) (passed.getLast?.or before) t := by
  induction passed generalizing offset before with
  | nil => rfl
  | cons c passed ih =>
    rw [List.cons_append, List.length_cons, allFrom, ih, List.getLast?_cons, Option.some_or,
      Option.or_some, Nat.add_assoc, Nat.add_comm 1]

theorem allFrom_of_refuses {c : Char} {t : Text} (none : Refuses p ⟨before, c :: t⟩)
    (offset : Nat) : p.allFrom 0 offset before (c :: t) = p.allFrom 0 (offset + 1) (some c) t := by
  rw [allFrom, hitAt?_eq_none_iff.mpr (none ⟨offset, before, c :: t, []⟩ rfl)]

/-- Where the pattern has no way from any place there is no hit. -/
theorem allFrom_eq_nil (none : ∀ back, back <:+ rest → ∀ before, Refuses p ⟨before, back⟩)
    (offset : Nat) (before : Option Char) : p.allFrom 0 offset before rest = [] := by
  induction rest generalizing offset before with
  | nil => rfl
  | cons c rest ih =>
    rw [allFrom_of_refuses (none _ List.suffix_rfl before)]
    exact ih (fun back ends => none back (ends.trans (List.suffix_cons c rest))) _ _

theorem exists_allFrom_of_picks (some : taken ≠ [])
    (picks : Picks p ⟨before, taken ++ rest⟩ ⟨last, rest⟩ aside) (offset : Nat) :
    ∃ hit, p.allFrom 0 offset before (taken ++ rest) =
        hit :: p.allFrom 0 (offset + taken.length) (taken.getLast?.or before) rest ∧
      Finds hit offset taken rest aside := by
  obtain ⟨hit, found, finds⟩ := exists_hitAt?_of_picks picks offset
  refine ⟨hit, ?_, finds⟩
  obtain ⟨c, taken, rfl⟩ := List.exists_cons_of_ne_nil some
  -- The search goes on behind the hit: all but the first of its characters are passed over.
  have passing : hit.stop - offset - 1 = taken.length := by
    rw [finds.stop, List.length_cons]
    omega
  rw [List.cons_append] at found ⊢
  rw [allFrom, found]
  dsimp only
  rw [passing, allFrom_passing, List.getLast?_cons, Option.some_or, Option.or_some,
    List.length_cons, Nat.add_assoc, Nat.add_comm 1]

/-- What a pattern picks at the start is all that it finds, if it has no way behind that. -/
theorem exists_hits_of_picks (some : taken ≠ [])
    (picks : Picks p ⟨none, taken ++ rest⟩ ⟨last, rest⟩ aside)
    (others : ∀ back, back <:+ rest → ∀ before, Refuses p ⟨before, back⟩) :
    ∃ hit, p.hits (taken ++ rest) = [hit] ∧ Finds hit 0 taken rest aside := by
  obtain ⟨hit, found, finds⟩ := exists_allFrom_of_picks some picks 0
  refine ⟨hit, ?_, finds⟩
  rw [hits, found, allFrom_eq_nil others]

end Pattern

end SfcLint
