/-
# Where the steps of a pattern lead

Each step of a pattern leads from a path to paths that go on from it: a double star along rows of
names that are not hidden, a wildcard along one name that it matches, a dot nowhere further, and a
plain step along itself. So a pattern leads to proper paths, which start where it does.
-/

import SfcLint.Files.Glob
import SfcLint.Proofs.Files.Places

namespace SfcLint.Glob

variable {disk : Disk} {step : Text} {last : Bool} {path next : Path} {place : List Text}
  {pattern : Text} {steps : List Text}

/-! ## One step -/

/-- A double star leads to the folder itself and to all that lies below it without hidden names on
the way. -/
theorem mem_follow_doubleStar (reached : disk.find path = .ok place) :
    next ∈ follow disk "**".toList last path ↔
      disk.hasFolder place = true ∧ next = path ∨
      ∃ row ∈ disk.below place, (∀ name ∈ row, isHidden name = false) ∧
        (last = true ∨ disk.hasFolder (place ++ row) = true) ∧
        next = ⟨path.root, path.parts ++ row⟩ := by
  rw [follow, if_pos rfl, reached]
  simp only [List.mem_append, List.mem_filterMap, visibleBelow, List.mem_filter, Bool.or_eq_true,
    Option.ite_none_right_eq_some, Option.some.injEq, Bool.not_eq_true', List.any_eq_false,
    Bool.not_eq_true, and_assoc]
  refine or_congr ?_ (exists_congr fun row => ?_)
  · split
    next folder => simp [folder]
    next closed => simp [closed]
  · simp only [eq_comm]

/-- Where further steps follow, a double star leads to all folders below a place that no hidden
names lead to, and to the place itself. -/
theorem mem_follow_folders (reached : disk.find path = .ok place) :
    next ∈ follow disk "**".toList false path ↔
      ∃ row, disk.hasFolder (place ++ row) = true ∧ (∀ name ∈ row, isHidden name = false) ∧
        next = ⟨path.root, path.parts ++ row⟩ := by
  rw [mem_follow_doubleStar reached]
  constructor
  · rintro (⟨folder, rfl⟩ | ⟨row, -, visible, last | folder, rfl⟩)
    · exact ⟨[], by simpa using folder, by simp, by simp⟩
    · contradiction
    · exact ⟨row, folder, visible, rfl⟩
  · rintro ⟨row, folder, visible, rfl⟩
    by_cases none : row = []
    · subst none
      exact .inl ⟨by simpa using folder, by simp⟩
    · obtain nowhere | ⟨more, listed⟩ := (Disk.hasFolder_iff.mp folder).2
      · simp [none] at nowhere
      · rw [List.append_assoc] at listed
        exact .inr ⟨row, Disk.mem_below_iff.mpr ⟨none, more, listed⟩, visible, .inr folder, rfl⟩

/-- A wildcard leads to the names in a folder that it matches, to hidden ones only if it starts with
a dot itself. -/
theorem mem_follow_wildcard (reached : disk.find path = .ok place) (other : step ≠ "**".toList)
    (wild : step.isWildcard = true) :
    next ∈ follow disk step last path ↔
      ∃ name, [name] ∈ disk.below place ∧ name.matchesWildcard step = true ∧
        (isHidden step = true ∨ isHidden name = false) ∧
        (last = true ∨ disk.hasFolder (place ++ [name]) = true) ∧ next = path.child name := by
  rw [follow, if_neg other, if_pos wild, reached]
  simp only [List.mem_filterMap, Disk.mem_names_iff, Bool.and_eq_true, Bool.or_eq_true,
    Bool.not_eq_true', Option.ite_none_right_eq_some, Option.some.injEq, and_assoc,
    eq_comm (a := next)]

theorem mem_follow_dot : next ∈ follow disk ['.'] last path ↔
    disk.isFolder path = true ∧ next = path := by
  rw [follow, if_neg (by decide), if_neg (by decide), if_pos rfl]
  split
  next folder => simp [folder]
  next closed => simp [closed]

theorem mem_follow_plain (plain : step.isWildcard = false) (other : step ≠ ['.']) :
    next ∈ follow disk step last path ↔
      disk.reaches (path.child step) = true ∧ next = path.child step := by
  have notStars : step ≠ "**".toList := by
    rintro rfl
    contradiction
  rw [follow, if_neg notStars, if_neg (by simp [plain]), if_neg other]
  split
  next there => simp [there]
  next absent => simp [absent]

/-- A step goes on from the path by names of the disk, or by itself. -/
theorem exists_of_mem_follow (member : next ∈ follow disk step last path) :
    ∃ row, next = ⟨path.root, path.parts ++ row⟩ ∧
      ((∃ place, row ∈ disk.below place) ∨ row = [] ∨ row = [step] ∧ step ≠ ['.']) := by
  by_cases stars : step = "**".toList
  · subst stars
    cases reached : disk.find path with
    | error fault => simp [follow, reached] at member
    | ok place =>
      rcases (mem_follow_doubleStar reached).mp member with ⟨-, rfl⟩ | ⟨row, below, -, -, rfl⟩
      · exact ⟨[], by simp, .inr (.inl rfl)⟩
      · exact ⟨row, rfl, .inl ⟨place, below⟩⟩
  by_cases wild : step.isWildcard = true
  · cases reached : disk.find path with
    | error fault =>
      rw [follow, if_neg stars, if_pos wild, reached] at member
      contradiction
    | ok place =>
      obtain ⟨name, below, -, -, -, rfl⟩ := (mem_follow_wildcard reached stars wild).mp member
      exact ⟨[name], rfl, .inl ⟨place, below⟩⟩
  by_cases dot : step = ['.']
  · subst dot
    obtain ⟨-, rfl⟩ := mem_follow_dot.mp member
    exact ⟨[], by simp, .inr (.inl rfl)⟩
  · obtain ⟨-, rfl⟩ := (mem_follow_plain (by simpa using wild) dot).mp member
    exact ⟨[step], rfl, .inr (.inr ⟨rfl, dot⟩)⟩

theorem proper_of_mem_follow (proper : disk.Proper) (properPath : path.Proper)
    (held : step ≠ []) (whole : '/' ∉ step) (member : next ∈ follow disk step last path) :
    next.Proper := by
  obtain ⟨row, rfl, found⟩ := exists_of_mem_follow member
  refine properPath.append fun part listed => ?_
  rcases found with ⟨place, below⟩ | rfl | ⟨rfl, other⟩
  · exact (proper.isName_of_mem_below below listed).toIsPart
  · contradiction
  · obtain rfl := List.mem_singleton.mp listed
    exact ⟨held, other, whole⟩

/-! ## All steps -/

theorem mem_followAll_cons {rest : List Text} :
    next ∈ followAll disk (step :: rest) path ↔
      ∃ between ∈ follow disk step rest.isEmpty path, next ∈ followAll disk rest between := by
  rw [followAll, List.mem_flatMap]

theorem mem_followAll_singleton :
    next ∈ followAll disk [step] path ↔ next ∈ follow disk step true path := by
  simp [followAll]

theorem proper_of_mem_followAll (proper : disk.Proper) (properPath : path.Proper)
    (cut : ∀ step ∈ steps, step ≠ [] ∧ '/' ∉ step) (member : next ∈ followAll disk steps path) :
    next.Proper := by
  induction steps generalizing path with
  | nil =>
    obtain rfl := List.mem_singleton.mp member
    exact properPath
  | cons step rest ih =>
    obtain ⟨⟨held, whole⟩, others⟩ := List.forall_mem_cons.mp cut
    obtain ⟨between, led, later⟩ := mem_followAll_cons.mp member
    exact ih (proper_of_mem_follow proper properPath held whole led) others later

/-! ## The steps of a pattern -/

theorem mem_steps (member : step ∈ Glob.steps pattern) : step ≠ [] ∧ '/' ∉ step := by
  rw [Glob.steps, List.mem_append] at member
  rcases member with cut | asked
  · obtain ⟨cut, held⟩ := List.mem_filter.mp cut
    exact ⟨by simpa using held, Text.not_mem_of_mem_splitAt cut⟩
  · split at asked
    · obtain rfl := List.mem_singleton.mp asked
      decide
    · contradiction

/-- The steps that are no dots are the parts of the path. -/
theorem filter_steps (pattern : Text) :
    (Glob.steps pattern).filter (· != ['.']) = Path.partsOf pattern := by
  have asked : List.filter (fun step : Text => step != ['.'])
      (if pattern.getLast? = some '/' then [['.']] else []) = [] := by
    split <;> rfl
  rw [Glob.steps, List.filter_append, asked, List.append_nil, List.filter_filter, Path.partsOf]
  refine List.filter_congr fun step _ => ?_
  rw [Bool.not_or, Bool.and_comm]
  rfl

/-- Where the steps before the first wildcard lead. -/
def start (pattern : Text) : Path :=
  ⟨Path.rootOf pattern,
    ((Glob.steps pattern).takeWhile fun step => !Text.isWildcard step).filter (· != ['.'])⟩

/-- The steps from the first wildcard on. -/
def onward (pattern : Text) : List Text :=
  (Glob.steps pattern).dropWhile fun step => !Text.isWildcard step

theorem expand_eq (disk : Disk) (pattern : Text) :
    expand disk pattern = followAll disk (onward pattern) (start pattern) := rfl

theorem mem_steps_of_mem_onward (member : step ∈ onward pattern) : step ∈ Glob.steps pattern :=
  (List.dropWhile_sublist _).mem member

theorem proper_start (pattern : Text) : (start pattern).Proper := by
  refine ⟨Path.rootOf_cases pattern, fun part listed => ?_⟩
  obtain ⟨taken, notDot⟩ := List.mem_filter.mp listed
  obtain ⟨held, whole⟩ := mem_steps ((List.takeWhile_sublist _).mem taken)
  exact ⟨held, by simpa using notDot, whole⟩

/-- A pattern leads to proper paths. -/
theorem proper_of_mem_expand (proper : disk.Proper) (member : next ∈ expand disk pattern) :
    next.Proper :=
  proper_of_mem_followAll proper (proper_start pattern)
    (fun _ listed => mem_steps (mem_steps_of_mem_onward listed)) member

end SfcLint.Glob
