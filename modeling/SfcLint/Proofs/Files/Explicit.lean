/-
# Files that are named explicitly

A pattern without wildcards that is the path of a file gives this file and no other, whatever its
suffix. A file whose path has the characters of a wildcard is not named by it: the path is read as a
wildcard first, and the file is found only where the wildcard leads to it too. The path that a
pattern writes has one part for each of its steps, so a pattern without double stars leads to this
path exactly when each of its wildcards matches the name that it is. A name whose first bracket
opens a set is no such wildcard, unless a star makes up for the characters between the brackets. So
a file whose name has a part in brackets is passed over for files whose names have one of the
characters between them.
-/

import SfcLint.Proofs.Files.Collecting
import SfcLint.Proofs.Files.Globbing

namespace SfcLint

namespace Wild

/-! ## Names with sets -/

theorem length_of_accepts {parts : List Wild} {t : Text} (plain : star ∉ parts)
    (accepted : accepts parts t = true) : t.length = parts.length := by
  induction parts generalizing t with
  | nil => simpa [accepts] using accepted
  | cons part parts ih =>
    rw [List.mem_cons, not_or] at plain
    obtain ⟨notStar, others⟩ := plain
    cases part with
    | star => contradiction
    | one set =>
      cases t with
      | nil => simp [accepts] at accepted
      | cons c t =>
        rw [accepts, Bool.and_eq_true] at accepted
        rw [List.length_cons, List.length_cons, ih others accepted.2]

/-- What follows a set is shorter than what follows its opening bracket. -/
theorem length_rest_lt {t content rest : Text} (closed : setContent? t = some (content, rest)) :
    rest.length < t.length := by
  -- However many characters the set starts with, its end lies behind them.
  have within (passed : Nat) : ((t.drop passed).dropWhile (· != ']')).length ≤ t.length :=
    ((List.dropWhile_suffix (· != ']')).trans (List.drop_suffix passed t)).length_le
  simp only [setContent?] at closed
  split at closed
  next c after split =>
    obtain ⟨-, rfl⟩ := Prod.mk.inj (Option.some.inj closed)
    have shorter : (c :: after).length ≤ t.length := by
      rw [← split]
      exact within _
    exact shorter
  next => contradiction

theorem read_cons (c : Char) (t : Text) : ∃ part skip, read 0 (c :: t) = part :: read skip t ∧
    (part = star → c = '*') ∧
    (c = '[' → (setContent? t).isSome = true → 0 < skip ∧ skip ≤ t.length) := by
  rw [read]
  by_cases isStar : c = '*'
  · refine ⟨star, 0, if_pos isStar, fun _ => isStar, ?_⟩
    rintro rfl
    contradiction
  by_cases isMark : c = '?'
  · refine ⟨one .full, 0, by rw [if_neg isStar, if_pos isMark], nofun, ?_⟩
    rintro rfl
    contradiction
  by_cases isBracket : c = '['
  · rw [if_neg isStar, if_neg isMark, if_pos isBracket]
    split
    next content rest closed =>
      have shorter := length_rest_lt closed
      exact ⟨_, _, rfl, nofun, fun _ _ => by omega⟩
    next unclosed => exact ⟨_, 0, rfl, nofun, fun _ closed => by simp [unclosed] at closed⟩
  · exact ⟨one (.single c), 0, by rw [if_neg isStar, if_neg isMark, if_neg isBracket], nofun,
      fun same => absurd same isBracket⟩

theorem length_read_le (skip : Nat) (t : Text) : (read skip t).length ≤ t.length - skip := by
  induction t generalizing skip with
  | nil => simp [read]
  | cons c t ih =>
    cases skip with
    | succ skip =>
      rw [read, List.length_cons, Nat.add_sub_add_right]
      exact ih skip
    | zero =>
      obtain ⟨part, skip, reads, -, -⟩ := read_cons c t
      have shorter := ih skip
      rw [reads, List.length_cons, List.length_cons]
      omega

theorem star_not_mem_read {t : Text} (plain : '*' ∉ t) (skip : Nat) : star ∉ read skip t := by
  induction t generalizing skip with
  | nil => simp [read]
  | cons c t ih =>
    rw [List.mem_cons, not_or] at plain
    obtain ⟨notStar, others⟩ := plain
    cases skip with
    | succ skip => exact ih others skip
    | zero =>
      obtain ⟨part, skip, reads, star, -⟩ := read_cons c t
      rw [reads]
      rw [List.mem_cons, not_or]
      exact ⟨fun same => notStar (star same.symm).symm, ih others skip⟩

/-- A set takes one character, but it is written with more of them. -/
theorem length_read_lt {front rest : Text} (first : '[' ∉ front)
    (closed : (setContent? rest).isSome = true) :
    (read 0 (front ++ '[' :: rest)).length < (front ++ '[' :: rest).length := by
  induction front with
  | nil =>
    obtain ⟨part, skip, reads, -, set⟩ := read_cons '[' rest
    obtain ⟨positive, bounded⟩ := set rfl closed
    have shorter := length_read_le skip rest
    rw [List.nil_append, reads, List.length_cons, List.length_cons]
    omega
  | cons c front ih =>
    rw [List.mem_cons, not_or] at first
    have others := first.2
    have shorter := ih others
    obtain ⟨part, skip, reads, -, -⟩ := read_cons c (front ++ '[' :: rest)
    rw [List.cons_append, reads, List.length_cons, List.length_cons]
    cases skip with
    | zero => omega
    | succ skip =>
      have further := length_read_le (skip + 1) (front ++ '[' :: rest)
      omega

end Wild

/-- The first bracket of a text opens a set. -/
def Text.OpensSet (t : Text) : Prop :=
  ∃ front rest, t = front ++ '[' :: rest ∧ '[' ∉ front ∧ (Wild.setContent? rest).isSome = true

/-- A name with a set and without a star does not match itself. -/
theorem Text.not_matchesWildcard_self {name : Text} (plain : '*' ∉ name) (opens : name.OpensSet) :
    name.matchesWildcard name = false := by
  obtain ⟨front, rest, rfl, first, closed⟩ := opens
  refine Bool.eq_false_iff.mpr fun accepted => ?_
  have same := Wild.length_of_accepts (Wild.star_not_mem_read plain 0) accepted
  have shorter := Wild.length_read_lt first closed
  omega

namespace Glob

variable {disk : Disk} {path next : Path} {place found : List Text} {steps : List Text}
  {step pattern : Text} {last : Bool}

/-! ## Steps and the names that they lead to -/

/-- A wildcard fits the names that it matches, and a plain step itself. -/
def Fits (step name : Text) : Prop :=
  if step.isWildcard = true then name.matchesWildcard step = true else name = step

theorem fits_self_iff {step : Text} :
    Fits step step ↔ (step.isWildcard = true → step.matchesWildcard step = true) := by
  rw [Fits]
  split
  next wild => simp [wild]
  next plain => simp [plain]

/-- A step that is neither a double star nor a dot leads along one name that it fits. -/
theorem exists_fits_of_mem_follow (notStars : "**".toList ≠ step) (notDot : step ≠ ['.'])
    (led : next ∈ follow disk step last path) :
    ∃ name, Fits step name ∧ next = path.child name := by
  by_cases wild : step.isWildcard = true
  · cases reached : disk.find path with
    | error fault =>
      rw [follow, if_neg (Ne.symm notStars), if_pos wild, reached] at led
      contradiction
    | ok place =>
      obtain ⟨name, -, matched, -, -, rfl⟩ :=
        (mem_follow_wildcard reached (Ne.symm notStars) wild).mp led
      exact ⟨name, by rwa [Fits, if_pos wild], rfl⟩
  · obtain ⟨-, rfl⟩ := (mem_follow_plain (by simpa using wild) notDot).mp led
    exact ⟨step, by rw [Fits, if_neg wild], rfl⟩

/-- Without double stars a pattern leads along one name for each step that is no dot. -/
theorem exists_of_mem_followAll (single : "**".toList ∉ steps)
    (member : next ∈ followAll disk steps path) :
    ∃ names, next = ⟨path.root, path.parts ++ names⟩ ∧
      List.Forall₂ Fits (steps.filter (· != ['.'])) names := by
  induction steps generalizing path with
  | nil =>
    obtain rfl := List.mem_singleton.mp member
    exact ⟨[], by simp, .nil⟩
  | cons step rest ih =>
    rw [List.mem_cons, not_or] at single
    obtain ⟨notStars, others⟩ := single
    obtain ⟨between, led, later⟩ := mem_followAll_cons.mp member
    obtain ⟨names, rfl, fitting⟩ := ih others later
    by_cases dot : step = ['.']
    · subst dot
      obtain ⟨-, rfl⟩ := mem_follow_dot.mp led
      exact ⟨names, rfl, fitting⟩
    · rw [List.filter_cons_of_pos (by simpa using dot)]
      obtain ⟨name, fits, rfl⟩ := exists_fits_of_mem_follow notStars dot led
      exact ⟨name :: names, by simp [Path.child], .cons fits fitting⟩

theorem find_cons {name : Text} {row : List Text}
    (met : disk.find ⟨path.root, path.parts ++ name :: row⟩ = .ok found) :
    ∃ place next, disk.find path = .ok place ∧ disk.step place name = .ok next ∧
      disk.find (path.child name) = .ok next := by
  rw [Disk.find_append] at met
  obtain ⟨place, reached, later⟩ := Except.bind_eq_ok_iff.mp met
  rw [List.foldlM_cons] at later
  obtain ⟨next, stepped, -⟩ := Except.bind_eq_ok_iff.mp later
  refine ⟨place, next, reached, stepped, ?_⟩
  rw [Path.child, Disk.find_append, reached]
  change [name].foldlM disk.step place = .ok next
  rw [List.foldlM_cons, stepped]
  rfl

theorem hasFolder_of_step {name : Text} (stepped : disk.step place name = .ok found) :
    disk.hasFolder place = true := by
  rw [Disk.step] at stepped
  split at stepped
  · contradiction
  next folder => simpa using folder

/-- Where steps that end in a name follow, there is a name among them, so what leads to them is a
folder. -/
theorem hasFolder_of_find_steps (more : steps ≠ []) (ends : steps.getLast? ≠ some ['.'])
    (met : disk.find ⟨path.root, path.parts ++ steps.filter (· != ['.'])⟩ = .ok found) :
    ∃ place, disk.find path = .ok place ∧ disk.hasFolder place = true := by
  have named : steps.getLast more ∈ steps.filter (· != ['.']) := by
    refine List.mem_filter.mpr ⟨List.getLast_mem more, bne_iff_ne.mpr fun dot => ?_⟩
    exact ends ((List.getLast?_eq_some_getLast more).trans (congrArg some dot))
  obtain ⟨name, row, split⟩ := List.exists_cons_of_ne_nil (List.ne_nil_of_mem named)
  rw [split] at met
  obtain ⟨place, next, reached, stepped, -⟩ := find_cons met
  exact ⟨place, reached, hasFolder_of_step stepped⟩

/-- A step that fits itself leads to the name that it is, where this is there and is a folder if
more steps follow. -/
theorem mem_follow_self {there : List Text} (notStars : "**".toList ≠ step) (notDot : step ≠ ['.'])
    (fits : Fits step step) (reached : disk.find path = .ok place)
    (stepped : disk.step place step = .ok there) (arrived : disk.find (path.child step) = .ok there)
    (opens : last = true ∨ disk.hasFolder there = true) :
    path.child step ∈ follow disk step last path := by
  by_cases wild : step.isWildcard = true
  · have notBack : step ≠ ['.', '.'] := by
      rintro rfl
      contradiction
    obtain ⟨rfl, -, has⟩ := (Disk.step_eq_ok_iff notBack).mp stepped
    obtain ⟨deeper, listed⟩ := Disk.exists_mem_places_of_has has (by simp)
    have below : [step] ∈ disk.below place :=
      Disk.mem_below_iff.mpr ⟨by simp, deeper, by simpa using listed⟩
    rw [Fits, if_pos wild] at fits
    refine (mem_follow_wildcard reached (Ne.symm notStars) wild).mpr
      ⟨step, below, fits, ?_, opens, rfl⟩
    cases isHidden step <;> simp
  · refine (mem_follow_plain (by simpa using wild) notDot).mpr ⟨?_, rfl⟩
    rw [Disk.reaches, arrived]
    rfl

/-- The steps lead to the path of their own names where it is there and they fit themselves. -/
theorem mem_followAll_self
    (single : "**".toList ∉ steps) (fitting : ∀ step ∈ steps, Fits step step)
    (ends : steps.getLast? ≠ some ['.'])
    (met : disk.find ⟨path.root, path.parts ++ steps.filter (· != ['.'])⟩ = .ok found) :
    ⟨path.root, path.parts ++ steps.filter (· != ['.'])⟩ ∈ followAll disk steps path := by
  induction steps generalizing path with
  | nil => simp [followAll]
  | cons step rest ih =>
    rw [List.mem_cons, not_or] at single
    obtain ⟨notStars, others⟩ := single
    obtain ⟨fits, fittingOthers⟩ := List.forall_mem_cons.mp fitting
    have endsOthers : rest.getLast? ≠ some ['.'] := by
      cases rest with
      | nil => simp
      | cons second rest => rwa [List.getLast?_cons_cons] at ends
    -- A dot stays where it is, and any other step leads to the name that it is.
    by_cases dot : step = ['.']
    · subst dot
      rw [List.filter_cons_of_neg (by simp)] at met ⊢
      have more : rest ≠ [] := by
        rintro rfl
        exact ends rfl
      obtain ⟨place, reached, folder⟩ := hasFolder_of_find_steps more endsOthers met
      have isFolder : disk.isFolder path = true := by
        rw [Disk.isFolder, reached]
        exact folder
      exact mem_followAll_cons.mpr
        ⟨path, mem_follow_dot.mpr ⟨isFolder, rfl⟩, ih others fittingOthers endsOthers met⟩
    · rw [List.filter_cons_of_pos (by simpa using dot)] at met ⊢
      obtain ⟨place, next, reached, stepped, arrived⟩ := find_cons met
      have whole : (⟨path.root, path.parts ++ step :: rest.filter (· != ['.'])⟩ : Path) =
          ⟨(path.child step).root, (path.child step).parts ++ rest.filter (· != ['.'])⟩ := by
        simp [Path.child]
      rw [whole] at met ⊢
      have opens : rest.isEmpty = true ∨ disk.hasFolder next = true := by
        by_cases more : rest = []
        · exact .inl (List.isEmpty_iff.mpr more)
        · obtain ⟨place', reached', folder⟩ := hasFolder_of_find_steps more endsOthers met
          rw [arrived] at reached'
          exact .inr (Except.ok.inj reached' ▸ folder)
      exact mem_followAll_cons.mpr ⟨path.child step,
        mem_follow_self notStars dot fits reached stepped arrived opens,
        ih others fittingOthers endsOthers met⟩

/-- A pattern without double stars that ends in a name leads to the path that it writes, where it is
there, exactly when all wildcards in it match themselves. -/
theorem mem_expand_self_iff (single : "**".toList ∉ Glob.steps pattern)
    (ends : (Glob.steps pattern).getLast? ≠ some ['.'])
    (there : disk.find (Path.ofText pattern) = .ok found) :
    Path.ofText pattern ∈ expand disk pattern ↔
      ∀ part ∈ (Path.ofText pattern).parts, part.isWildcard = true →
        part.matchesWildcard part = true := by
  have cut : Glob.steps pattern =
      (Glob.steps pattern).takeWhile (fun step => !Text.isWildcard step) ++ onward pattern :=
    List.takeWhile_append_dropWhile.symm
  have parts : Path.partsOf pattern =
      (start pattern).parts ++ (onward pattern).filter (· != ['.']) := by
    rw [← filter_steps, cut, List.filter_append]
    rfl
  have target : Path.ofText pattern =
      ⟨(start pattern).root, (start pattern).parts ++ (onward pattern).filter (· != ['.'])⟩ :=
    congrArg (Path.mk _) parts
  have singleOnward : "**".toList ∉ onward pattern :=
    fun listed => single (mem_steps_of_mem_onward listed)
  rw [expand_eq]
  constructor
  · intro member part listed wild
    obtain ⟨names, same, fitting⟩ := exists_of_mem_followAll singleOnward member
    rw [target] at same
    obtain rfl := List.append_cancel_left (Path.mk.inj same).2
    refine fits_self_iff.mp (List.forall₂_same.mp fitting part ?_) wild
    -- The steps before the first wildcard are none.
    change part ∈ Path.partsOf pattern at listed
    rw [parts] at listed
    rcases List.mem_append.mp listed with early | late
    · have plain := List.all_eq_true.mp List.all_takeWhile part (List.mem_filter.mp early).1
      simp [wild] at plain
    · exact late
  · intro matching
    rw [target] at there ⊢
    refine mem_followAll_self singleOnward (fun step listed => fits_self_iff.mpr fun wild => ?_) ?_
      there
    · have notDot : step ≠ ['.'] := by
        rintro rfl
        contradiction
      refine matching step ?_ wild
      change step ∈ Path.partsOf pattern
      rw [parts]
      exact List.mem_append_right _ (List.mem_filter.mpr ⟨listed, by simpa using notDot⟩)
    · intro last
      obtain ⟨before, split⟩ := List.getLast?_eq_some_iff.mp last
      rw [cut, split, ← List.append_assoc, List.getLast?_concat] at ends
      exact ends rfl

end Glob

namespace Path

variable {path : Path}

/-- From the folder that it lies in, a path is its name. -/
theorem relativeTo?_parent (path : Path) :
    path.relativeTo? path.parent = some ⟨[], path.parts.getLast?.toList⟩ := by
  have split : path.parts = path.parent.parts ++ path.parts.getLast?.toList := by
    cases last : path.parts.getLast? with
    | none => simp [parent, List.getLast?_eq_none_iff.mp last]
    | some name =>
      obtain ⟨front, split⟩ := List.getLast?_eq_some_iff.mp last
      simp [parent, split]
  rw [relativeTo?, if_pos (show path.root = path.parent.root from rfl),
    partsBelow?_eq_some_iff.mpr split]
  rfl

theorem isSkipped_relative (row : List Text) (further : List Text) :
    Path.isSkipped ⟨[], row⟩ further = row.any (skipsName further) := rfl

theorem mem_parts_of_name (held : path.name ≠ []) : path.name ∈ path.parts := by
  rw [name] at held ⊢
  cases last : path.parts.getLast? with
  | none => simp [last] at held
  | some name => exact List.mem_of_getLast? last

end Path

namespace Search

variable {disk : Disk} {extensions exclude : List Text} {pattern : Text} {path : Path}

/-- In a search that starts where a file lies, only its name is looked at. -/
theorem passesOver_parent (disk : Disk) (exclude : List Text) (path : Path) :
    passesOver disk exclude path.parent path =
      (Path.skipsName [] path.name || path.isExcluded path.parent disk.current exclude) := by
  rw [passesOver, Path.relativeTo?_parent, Option.getD_some, Path.isSkipped_relative, Path.name]
  cases path.parts.getLast? with
  | none => rfl
  | some name => simp

theorem leads_of_isFile (plain : pattern.isWildcard = false)
    (file : disk.isFile (Path.ofText pattern) = true) :
    leads disk extensions pattern = ⟨(Path.ofText pattern).parent, [Path.ofText pattern]⟩ := by
  rw [leads, plain, if_neg Bool.false_ne_true, if_pos file]

theorem leads_of_isWildcard (wild : pattern.isWildcard = true) :
    leads disk extensions pattern =
      ⟨Glob.base pattern,
        (Glob.expand disk pattern).filter (hasSuffix (extensions ++ analyzable))⟩ := by
  rw [leads, if_pos wild]

/-- A wildcard that is the path of a file gives this file where it leads to it. -/
theorem mem_run_wildcard (proper : disk.Proper) (trimmed : Text.strip pattern = pattern)
    (held : pattern ≠ []) (wild : pattern.isWildcard = true)
    (file : disk.isFile (Path.ofText pattern) = true) :
    (Path.ofText pattern).toString ∈ run ⟨[pattern], exclude, extensions⟩ disk ↔
      Path.ofText pattern ∈ Glob.expand disk pattern ∧
        hasSuffix (extensions ++ analyzable) (Path.ofText pattern) = true ∧
        passesOver disk exclude (Glob.base pattern) (Path.ofText pattern) = false := by
  rw [mem_run_of_strip_eq trimmed held, mem_filesOf_iff proper, leads_of_isWildcard wild,
    Path.ofText_toString (Path.proper_ofText pattern), List.mem_filter]
  simp [file, and_assoc]

/-- A pattern without wildcards that is the path of a file gives exactly this file, whatever its
suffix, unless its name is skipped or it is excluded. A pattern with wildcards that is the path of a
file gives this file exactly where the wildcards lead to it, its suffix is one that can be analysed,
and nothing from the first wildcard on is skipped. They lead to it exactly when each of them matches
the name that it is, so never where the name of the file has a set in brackets and no star. -/
theorem run_explicitFile (trimmed : Text.strip pattern = pattern) (held : pattern ≠ [])
    (file : disk.isFile (Path.ofText pattern) = true)
    (named : Path.skipsName [] (Path.ofText pattern).name = false)
    (kept : (Path.ofText pattern).isExcluded (Path.ofText pattern).parent disk.current exclude =
      false) :
    (pattern.isWildcard = false → run ⟨[pattern], exclude, extensions⟩ disk =
      [(Path.ofText pattern).toString]) ∧
    (pattern.isWildcard = true → disk.Proper →
      ((Path.ofText pattern).toString ∈ run ⟨[pattern], exclude, extensions⟩ disk ↔
        Path.ofText pattern ∈ Glob.expand disk pattern ∧
          hasSuffix (extensions ++ analyzable) (Path.ofText pattern) = true ∧
          passesOver disk exclude (Glob.base pattern) (Path.ofText pattern) = false)) ∧
    ("**".toList ∉ Glob.steps pattern → (Glob.steps pattern).getLast? ≠ some ['.'] →
      (Path.ofText pattern ∈ Glob.expand disk pattern ↔
        ∀ part ∈ (Path.ofText pattern).parts, part.isWildcard = true →
          part.matchesWildcard part = true)) ∧
    ("**".toList ∉ Glob.steps pattern → (Glob.steps pattern).getLast? ≠ some ['.'] →
      disk.Proper → '*' ∉ (Path.ofText pattern).name → (Path.ofText pattern).name.OpensSet →
        (Path.ofText pattern).toString ∉ run ⟨[pattern], exclude, extensions⟩ disk) := by
  obtain ⟨place, there⟩ : ∃ place, disk.find (Path.ofText pattern) = .ok place := by
    rw [Disk.isFile] at file
    split at file
    next place there => exact ⟨place, there⟩
    next => contradiction
  refine ⟨fun plain => ?_, fun wild proper => mem_run_wildcard proper trimmed held wild file,
    fun single ends => Glob.mem_expand_self_iff single ends there,
    fun single ends proper noStar opens member => ?_⟩
  · have left : passesOver disk exclude (Path.ofText pattern).parent (Path.ofText pattern) =
        false := by
      rw [passesOver_parent, named, kept]
      rfl
    have files : filesOf ⟨[pattern], exclude, extensions⟩ disk pattern =
        [(Path.ofText pattern).toString] := by
      rw [filesOf, leads_of_isFile plain file]
      simp [file, left]
    rw [run, List.map_singleton, trimmed, List.filter_cons_of_pos (by simpa using held)]
    simp only [List.filter_nil, List.flatMap_singleton, files]
    rfl
  · -- The bracket of the name makes the pattern a wildcard.
    obtain ⟨front, rest, shape, -, -⟩ := id opens
    have bracket : '[' ∈ (Path.ofText pattern).name := shape ▸ by simp
    have listed := Path.mem_parts_of_name (List.ne_nil_of_mem bracket)
    have inPattern := (Text.mem_of_mem_splitAt (Path.mem_partsOf.mp listed).1 bracket).1
    have wild : pattern.isWildcard = true := List.any_eq_true.mpr ⟨'[', inPattern, rfl⟩
    have wildName : (Path.ofText pattern).name.isWildcard = true :=
      List.any_eq_true.mpr ⟨'[', bracket, rfl⟩
    have led := ((mem_run_wildcard proper trimmed held wild file).mp member).1
    have matched := (Glob.mem_expand_self_iff single ends there).mp led _ listed wildName
    rw [Text.not_matchesWildcard_self noStar opens] at matched
    contradiction

/-- A disk with a script in a folder of products, and two files of which the name of the one is a
wildcard for the name of the other. -/
def routeDisk : Disk :=
  ⟨[["w", "dist", "main.js"], ["w", "[id].vue"], ["w", "i.vue"]].map fun place =>
    (place.map String.toList, []), [], [['w']], [['h']]⟩

/-- A script in a folder that is skipped is given where it is named, and a file with brackets in its
name is not. -/
theorem run_explicitFile_routes :
    run ⟨["dist/main.js".toList], ["*.vue".toList], standardExtensions⟩ routeDisk =
      ["dist/main.js"] ∧
    "[id].vue" ∉ run ⟨["[id].vue".toList], [], standardExtensions⟩ routeDisk := by
  constructor
  · exact (run_explicitFile (by decide) (by decide) (by decide +kernel) (by decide +kernel)
      (by decide +kernel)).1 (by decide)
  · have opens : (Path.ofText "[id].vue".toList).name.OpensSet :=
      ⟨[], "id].vue".toList, by decide, by decide, by decide⟩
    have file : routeDisk.isFile (Path.ofText "[id].vue".toList) = true := by decide +kernel
    have kept : (Path.ofText "[id].vue".toList).isExcluded
        (Path.ofText "[id].vue".toList).parent routeDisk.current [] = false := by decide +kernel
    exact (run_explicitFile (by decide) (by decide) file (by decide +kernel) kept).2.2.2
      (by decide) (by decide) (by decide +kernel) (by decide) opens

/-- A file with brackets in its name is not given where it is named: another one is. -/
theorem explicitFile_lost :
    ¬ ∀ (disk : Disk) (pattern : Text) (exclude : List Text), disk.Proper →
      Text.strip pattern = pattern → pattern ≠ [] → disk.isFile (Path.ofText pattern) = true →
        Path.skipsName [] (Path.ofText pattern).name = false →
          (Path.ofText pattern).isExcluded (Path.ofText pattern).parent disk.current exclude =
              false →
            (Path.ofText pattern).toString ∈
              run ⟨[pattern], exclude, standardExtensions⟩ disk := by
  intro always
  have found := always routeDisk "[id].vue".toList [] (by decide +kernel) (by decide) (by decide)
    (by decide +kernel) (by decide +kernel) (by decide +kernel)
  have given : run ⟨["[id].vue".toList], [], standardExtensions⟩ routeDisk = ["i.vue"] := by
    decide +kernel
  rw [given] at found
  exact absurd found (by decide +kernel)

end Search

end SfcLint
