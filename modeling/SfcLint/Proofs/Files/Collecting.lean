/-
# What a search finds

A search finds a set of files, in ascending order. It is the union of what its patterns lead to, so
neither their order nor their repetition matters. More wildcards for exclusion leave fewer files. Of
one pattern they leave what each of two rows of them leaves; of several patterns they need not, for
what is excluded depends on where a pattern starts.
-/

import SfcLint.Files.Search
import SfcLint.Proofs.Files.Globbing
import SfcLint.Proofs.Files.SortedSet

namespace SfcLint.Search

variable {search : Search} {disk : Disk} {extensions exclude : List Text} {pattern : Text}
  {path base : Path} {text : String}

/-! ## One pattern -/

theorem mem_inFolder : path ∈ inFolder disk extensions base ↔
    ∃ place, disk.find base = .ok place ∧ ∃ row ∈ disk.below place,
      (∃ extension ∈ extensions,
        (row.getLast?.getD []).matchesWildcard ('*' :: extension) = true) ∧
      path = ⟨base.root, base.parts ++ row⟩ := by
  rw [inFolder]
  split
  next fault lost => simp [lost]
  next place reached =>
    simp only [List.mem_filterMap, Option.ite_none_right_eq_some, List.any_eq_true, reached,
      Except.ok.injEq, Option.some.injEq, exists_eq_left', eq_comm (a := path)]

theorem proper_of_mem_inFolder (proper : disk.Proper) (properBase : base.Proper)
    (member : path ∈ inFolder disk extensions base) : path.Proper := by
  obtain ⟨place, -, row, below, -, rfl⟩ := mem_inFolder.mp member
  exact properBase.append fun part listed => (proper.isName_of_mem_below below listed).toIsPart

/-- A pattern leads to proper paths. -/
theorem proper_of_mem_leads (proper : disk.Proper)
    (member : path ∈ (leads disk extensions pattern).paths) : path.Proper := by
  rw [leads] at member
  split at member
  · exact Glob.proper_of_mem_expand proper (List.mem_filter.mp member).1
  · split at member
    · obtain rfl := List.mem_singleton.mp member
      exact Path.proper_ofText pattern
    · exact proper_of_mem_inFolder proper (Path.proper_ofText pattern) (List.mem_filter.mp member).1

theorem mem_filesOf : text ∈ search.filesOf disk pattern ↔
    ∃ path ∈ (leads disk search.extensions pattern).paths, disk.isFile path = true ∧
      passesOver disk search.exclude (leads disk search.extensions pattern).base path = false ∧
      path.toString = text := by
  simp [filesOf, and_assoc]

/-- On a proper disk a path that is written as a text is the one that it reads as. -/
theorem mem_filesOf_iff (proper : disk.Proper) : text ∈ search.filesOf disk pattern ↔
    (Path.ofText text.toList).toString = text ∧
      Path.ofText text.toList ∈ (leads disk search.extensions pattern).paths ∧
      disk.isFile (Path.ofText text.toList) = true ∧
      passesOver disk search.exclude (leads disk search.extensions pattern).base
        (Path.ofText text.toList) = false := by
  rw [mem_filesOf]
  constructor
  · rintro ⟨path, led, file, kept, rfl⟩
    rw [Path.ofText_toString (proper_of_mem_leads proper led)]
    exact ⟨rfl, led, file, kept⟩
  · rintro ⟨written, led, file, kept⟩
    exact ⟨_, led, file, kept, written⟩

/-! ## All patterns -/

theorem mem_run : text ∈ search.run disk ↔
    ∃ pattern ∈ search.patterns, Text.strip pattern ≠ [] ∧
      text ∈ search.filesOf disk (Text.strip pattern) := by
  simp [run, mem_sortedSet, and_assoc]

theorem mem_run_singleton : text ∈ run ⟨[pattern], exclude, extensions⟩ disk ↔
    Text.strip pattern ≠ [] ∧
      text ∈ filesOf ⟨[pattern], exclude, extensions⟩ disk (Text.strip pattern) := by
  simp [mem_run]

/-- A search with one pattern finds what the pattern gives. -/
theorem mem_run_of_strip_eq (trimmed : Text.strip pattern = pattern) (held : pattern ≠ []) :
    text ∈ run ⟨[pattern], exclude, extensions⟩ disk ↔
      text ∈ filesOf ⟨[pattern], exclude, extensions⟩ disk pattern := by
  rw [mem_run_singleton, trimmed]
  exact and_iff_right held

theorem pairwise_run (search : Search) (disk : Disk) : (search.run disk).Pairwise (· < ·) :=
  pairwise_sortedSet _

/-- What is excluded by the one or the other row of wildcards is excluded by both together. -/
theorem passesOver_append (disk : Disk) (exclude more : List Text) (base path : Path) :
    passesOver disk (exclude ++ more) base path =
      (passesOver disk exclude base path || passesOver disk more base path) := by
  rw [passesOver, passesOver, passesOver, Path.isExcluded, List.any_append, ← Path.isExcluded,
    ← Path.isExcluded]
  cases ((path.relativeTo? base).getD path).isSkipped [] <;> simp

theorem mem_filesOf_append {patterns more : List Text}
    (member : text ∈ filesOf ⟨patterns, exclude ++ more, extensions⟩ disk pattern) :
    text ∈ filesOf ⟨patterns, exclude, extensions⟩ disk pattern := by
  obtain ⟨path, led, file, kept, written⟩ := mem_filesOf.mp member
  rw [passesOver_append, Bool.or_eq_false_iff] at kept
  exact mem_filesOf.mpr ⟨path, led, file, kept.1, written⟩

/-- The files that a search finds are a set in ascending order: the union of what its patterns give,
whatever their order and repetition, and all of them existing files. With more wildcards for
exclusion there are no other files, and for one pattern there are those that are left by each of two
rows of wildcards. -/
theorem run_isSet (disk : Disk) (extensions : List Text) :
    (∀ patterns exclude, (run ⟨patterns, exclude, extensions⟩ disk).Pairwise (· < ·)) ∧
    (∀ patterns more exclude text, text ∈ run ⟨patterns ++ more, exclude, extensions⟩ disk ↔
      text ∈ run ⟨patterns, exclude, extensions⟩ disk ∨
        text ∈ run ⟨more, exclude, extensions⟩ disk) ∧
    (∀ patterns others exclude, (∀ pattern, pattern ∈ patterns ↔ pattern ∈ others) →
      run ⟨patterns, exclude, extensions⟩ disk = run ⟨others, exclude, extensions⟩ disk) ∧
    (∀ patterns exclude more, run ⟨patterns, exclude ++ more, extensions⟩ disk ⊆
      run ⟨patterns, exclude, extensions⟩ disk) ∧
    (disk.Proper → ∀ patterns exclude, ∀ text ∈ run ⟨patterns, exclude, extensions⟩ disk,
      disk.isFile (Path.ofText text.toList) = true) ∧
    (disk.Proper → ∀ pattern exclude more text,
      text ∈ run ⟨[pattern], exclude ++ more, extensions⟩ disk ↔
        text ∈ run ⟨[pattern], exclude, extensions⟩ disk ∧
          text ∈ run ⟨[pattern], more, extensions⟩ disk) := by
  refine ⟨fun patterns exclude => pairwise_run _ _, ?_, ?_, ?_, ?_, ?_⟩
  · intro patterns more exclude text
    simp only [mem_run, List.mem_append, or_and_right, exists_or]
    rfl
  · intro patterns others exclude same
    refine (pairwise_run _ _).eq_of_mem_iff (pairwise_run _ _) fun text => ?_
    simp only [mem_run, same]
    rfl
  · intro patterns exclude more text member
    obtain ⟨pattern, listed, held, member⟩ := mem_run.mp member
    exact mem_run.mpr ⟨pattern, listed, held, mem_filesOf_append member⟩
  · intro proper patterns exclude text member
    obtain ⟨pattern, -, -, member⟩ := mem_run.mp member
    exact ((mem_filesOf_iff proper).mp member).2.2.1
  · intro proper pattern exclude more text
    rw [mem_run_singleton, mem_run_singleton, mem_run_singleton, mem_filesOf_iff proper,
      mem_filesOf_iff proper, mem_filesOf_iff proper, passesOver_append, Bool.or_eq_false_iff]
    -- The pattern leads to the same paths whatever is excluded.
    tauto

/-- A disk with two components in a folder of a folder, one of them beside its test. -/
def componentDisk : Disk :=
  ⟨["b.vue", "a.vue", "a.test.vue"].map fun name =>
    (["w", "src", "ui", name].map String.toList, []), [], [['w']], [['h']]⟩

/-- Without a component and without tests there is the other component. -/
theorem run_isSet_twoExcluded :
    componentDisk.Proper ∧
    "src/ui/b.vue" ∈ run ⟨["src".toList], ["ui/a.vue".toList] ++ ["*.test.vue".toList],
      standardExtensions⟩ componentDisk := by
  have proper : componentDisk.Proper := by decide +kernel
  refine ⟨proper, ?_⟩
  have parts := (run_isSet componentDisk standardExtensions).2.2.2.2.2 proper "src".toList
    ["ui/a.vue".toList] ["*.test.vue".toList] "src/ui/b.vue"
  exact parts.mpr ⟨by decide +kernel, by decide +kernel⟩

-- Of two patterns each of two wildcards may leave a file that they do not leave together.
example :
    let left (exclude : List String) : Bool :=
      (run ⟨["src", "src/ui"].map String.toList, exclude.map String.toList, standardExtensions⟩
        componentDisk).contains "src/ui/a.vue"
    left ["ui/a.vue"] && left ["a.vue"] && !left ["ui/a.vue", "a.vue"] := by
  decide +kernel

end SfcLint.Search
