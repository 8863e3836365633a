/-
# Searches below a folder

A search that starts in a folder looks at what lies below it and not at where it lies. So below two
folders with the same files it finds the same files in the same order, as seen from the folders,
even where one of the folders is hidden or lies in a folder that is skipped. The same holds of the
pattern that asks for all components below a folder.
-/

import SfcLint.Proofs.Files.Collecting
import SfcLint.Proofs.Files.Paths
import SfcLint.Proofs.Text.Blank

namespace SfcLint

/-- A text names the folder at a place: it has no blanks around it and no characters of wildcards,
and as a path it leads there. -/
structure Disk.NamesFolder (disk : Disk) (folder : Text) (place : List Text) : Prop where
  trimmed : Text.Trimmed folder
  plain : folder.isWildcard = false
  reached : disk.find (Path.ofText folder) = .ok place
  isFolder : disk.hasFolder place = true

/-- A disk with a tree of files in a folder, and nothing else. -/
def Disk.ofTree (place : List Text) (tree : List (List Text × List UInt8)) : Disk :=
  ⟨tree.map fun (row, bytes) => (place ++ row, bytes), [place], [], []⟩

theorem Disk.hasFile_ofTree (place row : List Text) (tree : List (List Text × List UInt8)) :
    (ofTree place tree).hasFile (place ++ row) = (tree.lookup row).isSome := by
  change ((tree.map fun (row, bytes) => (place ++ row, bytes)).lookup (place ++ row)).isSome = _
  induction tree with
  | nil => rfl
  | cons file tree ih =>
    obtain ⟨way, bytes⟩ := file
    rw [List.map_cons, List.lookup_cons, List.lookup_cons]
    by_cases here : row = way
    · rw [here, beq_self_eq_true, beq_self_eq_true]
    · have apart : place ++ row ≠ place ++ way := fun same => here (List.append_cancel_left same)
      rw [beq_false_of_ne apart, beq_false_of_ne here]
      exact ih

namespace Search

variable {disk other : Disk} {extensions : List Text} {folder otherFolder : Text}
  {place otherPlace : List Text} {row : List Text} {path base : Path} {text : String}

theorem hasSuffix_below (suffixes : List Text) (base : Path) (held : row ≠ []) :
    hasSuffix suffixes ⟨base.root, base.parts ++ row⟩ = hasSuffix suffixes ⟨[], row⟩ := by
  rw [hasSuffix, hasSuffix, Path.suffix, Path.suffix, Path.name_below base held]

/-- Without wildcards for exclusion, only the way from the start of the search counts. -/
theorem passesOver_below (disk : Disk) (base : Path) (row : List Text) :
    passesOver disk [] base ⟨base.root, base.parts ++ row⟩ = false ↔
      ∀ name ∈ row, Path.skipsName [] name = false := by
  rw [passesOver, Path.relativeTo?_below, Option.getD_some, Path.isExcluded, List.any_nil,
    Bool.or_false]
  simp [Path.isSkipped, Path.segments]

theorem ne_nil_of_hasFile (isFolder : disk.hasFolder place = true)
    (file : disk.hasFile (place ++ row) = true) : row ≠ [] := by
  rintro rfl
  rw [List.append_nil, (Disk.hasFolder_iff.mp isFolder).1] at file
  contradiction

theorem mem_below_of_hasFile (isFolder : disk.hasFolder place = true)
    (file : disk.hasFile (place ++ row) = true) : row ∈ disk.below place := by
  have listed := Disk.mem_places_of_hasFile file
  exact Disk.mem_below_iff.mpr ⟨ne_nil_of_hasFile isFolder file, [], by simpa using listed⟩

/-- Below the place that a path leads to, the files are found along the path. -/
theorem isFile_of_mem_below (proper : disk.Proper) (reached : disk.find base = .ok place)
    (below : row ∈ disk.below place) :
    disk.isFile ⟨base.root, base.parts ++ row⟩ = disk.hasFile (place ++ row) :=
  Disk.isFile_below proper reached fun _ listed =>
    (proper.isName_of_mem_below below listed).notBack

theorem isWay_of_hasFile (proper : disk.Proper) (isFolder : disk.hasFolder place = true)
    (file : disk.hasFile (place ++ row) = true) : Path.IsWay row where
  nonempty := ne_nil_of_hasFile isFolder file
  parts _ listed :=
    (proper.isName_of_mem_below (mem_below_of_hasFile isFolder file) listed).toIsPart

/-- A pattern starts at a path to a folder and leads along all wanted ways to what lies below it. -/
structure LeadsBelow (disk : Disk) (extensions : List Text) (pattern : Text) (place : List Text)
    (base : Path) (wanted : List Text → Prop) : Prop where
  trimmed : Text.Trimmed pattern
  proper : base.Proper
  reached : disk.find base = .ok place
  isFolder : disk.hasFolder place = true
  starts : (leads disk extensions pattern).base = base
  mem_iff : ∀ path, path ∈ (leads disk extensions pattern).paths ↔
    ∃ row ∈ disk.below place, wanted row ∧ path = ⟨base.root, base.parts ++ row⟩

namespace LeadsBelow

variable {pattern otherPattern : Text} {otherBase : Path} {wanted : List Text → Prop}

/-- The pattern finds the files below the folder on wanted ways along which no name is skipped. -/
theorem mem_run_iff (led : LeadsBelow disk extensions pattern place base wanted)
    (proper : disk.Proper) :
    text ∈ run ⟨[pattern], [], extensions⟩ disk ↔
      ∃ row, (disk.hasFile (place ++ row) = true ∧ wanted row ∧
          ∀ name ∈ row, Path.skipsName [] name = false) ∧
        Path.toString ⟨base.root, base.parts ++ row⟩ = text := by
  rw [mem_run_of_strip_eq led.trimmed.strip_eq.1 led.trimmed.nonempty, mem_filesOf, led.starts]
  constructor
  · rintro ⟨path, member, file, kept, rfl⟩
    obtain ⟨row, below, want, rfl⟩ := (led.mem_iff path).mp member
    rw [isFile_of_mem_below proper led.reached below] at file
    exact ⟨row, ⟨file, want, (passesOver_below disk base row).mp kept⟩, rfl⟩
  · rintro ⟨row, ⟨file, want, seen⟩, rfl⟩
    -- Where there is a file, the way to it is one of the ways below the folder.
    have below := mem_below_of_hasFile led.isFolder file
    have member := (led.mem_iff _).mpr ⟨row, below, want, rfl⟩
    refine ⟨_, member, ?_, (passesOver_below disk base row).mpr seen, rfl⟩
    rw [isFile_of_mem_below proper led.reached below]
    exact file

theorem listsBelow (led : LeadsBelow disk extensions pattern place base wanted)
    (proper : disk.Proper) :
    Path.ListsBelow base
      (fun row => disk.hasFile (place ++ row) = true ∧ wanted row ∧
        ∀ name ∈ row, Path.skipsName [] name = false)
      (run ⟨[pattern], [], extensions⟩ disk) where
  proper := led.proper
  isWay _ found := isWay_of_hasFile proper led.isFolder found.1
  rising := pairwise_run _ _
  mem_iff _ := led.mem_run_iff proper

/-- What two patterns find along the same ways is the same, as seen from the folders. Nothing in it
depends on the names that lead to the folders. -/
theorem sameFrom (led : LeadsBelow disk extensions pattern place base wanted)
    (otherLed : LeadsBelow other extensions otherPattern otherPlace otherBase wanted)
    (proper : disk.Proper) (otherProper : other.Proper)
    (same : ∀ row, disk.hasFile (place ++ row) = other.hasFile (otherPlace ++ row))
    (starts : (Path.ofText folder).parts = base.parts)
    (otherStarts : (Path.ofText otherFolder).parts = otherBase.parts) :
    Path.SameFrom folder otherFolder (run ⟨[pattern], [], extensions⟩ disk)
      (run ⟨[otherPattern], [], extensions⟩ other) := by
  -- The files of the one folder are those of the other, so both rows are taken along one set of ways.
  have lists := led.listsBelow proper
  simp only [same] at lists
  exact lists.sameFrom (otherLed.listsBelow otherProper) starts otherStarts

end LeadsBelow

/-! ## A folder -/

/-- What is looked for in a folder: names with one of the wanted endings as their suffix. -/
def IsWanted (extensions : List Text) (row : List Text) : Prop :=
  (∃ ending ∈ extensions, (row.getLast?.getD []).matchesWildcard ('*' :: ending) = true) ∧
    hasSuffix extensions ⟨[], row⟩ = true

theorem leads_of_isFolder (named : disk.NamesFolder folder place) :
    leads disk extensions folder =
      ⟨Path.ofText folder,
        (inFolder disk extensions (Path.ofText folder)).filter (hasSuffix extensions)⟩ := by
  have noFile : disk.isFile (Path.ofText folder) = false := by
    rw [Disk.isFile, named.reached]
    exact (Disk.hasFolder_iff.mp named.isFolder).1
  rw [leads, named.plain, if_neg Bool.false_ne_true, noFile, if_neg Bool.false_ne_true]

theorem leadsBelow_folder (named : disk.NamesFolder folder place) :
    LeadsBelow disk extensions folder place (Path.ofText folder) (IsWanted extensions) where
  trimmed := named.trimmed
  proper := Path.proper_ofText folder
  reached := named.reached
  isFolder := named.isFolder
  starts := by rw [leads_of_isFolder named]
  mem_iff path := by
    rw [leads_of_isFolder named, List.mem_filter, mem_inFolder]
    constructor
    · rintro ⟨⟨found, reached, row, below, ending, rfl⟩, suffix⟩
      obtain rfl := Except.ok.inj (named.reached.symm.trans reached)
      rw [hasSuffix_below _ _ (Disk.mem_below_iff.mp below).1] at suffix
      exact ⟨row, below, ⟨ending, suffix⟩, rfl⟩
    · rintro ⟨row, below, ⟨ending, suffix⟩, rfl⟩
      refine ⟨⟨place, named.reached, row, below, ending, rfl⟩, ?_⟩
      rw [hasSuffix_below _ _ (Disk.mem_below_iff.mp below).1]
      exact suffix

/-! ## All components below a folder -/

/-- The pattern for all components below a folder. -/
def componentsBelow (folder : Text) : Text := folder ++ "/**/*.vue".toList

theorem componentsBelow_eq (folder : Text) :
    componentsBelow folder = folder ++ '/' :: ("**".toList ++ '/' :: "*.vue".toList) := rfl

theorem steps_componentsBelow (folder : Text) :
    Glob.steps (componentsBelow folder) =
      (Text.splitAt '/' folder).filter (fun step => !step.isEmpty) ++
        ["**".toList, "*.vue".toList] := by
  have last : (componentsBelow folder).getLast? = some 'e' :=
    List.getLast?_append_of_ne_nil folder (by decide)
  rw [Glob.steps, last, if_neg (by decide), List.append_nil, componentsBelow_eq,
    Text.splitAt_append, List.filter_append]
  rfl

/-- A folder without characters of wildcards has no steps with them. -/
theorem plain_of_mem_splitAt (plain : folder.isWildcard = false) {step : Text}
    (cut : step ∈ Text.splitAt '/' folder) : step.isWildcard = false := by
  rw [Text.isWildcard, List.any_eq_false] at plain ⊢
  exact fun c inside => plain c (Text.mem_of_mem_splitAt cut inside).1

theorem onward_componentsBelow (plain : folder.isWildcard = false) :
    Glob.onward (componentsBelow folder) = ["**".toList, "*.vue".toList] := by
  rw [Glob.onward, steps_componentsBelow, List.dropWhile_append_of_pos]
  · rfl
  · intro step listed
    rw [plain_of_mem_splitAt plain (List.mem_filter.mp listed).1]
    rfl

/-- Before the first wildcard the pattern leads along the folder. -/
theorem start_componentsBelow (plain : folder.isWildcard = false) :
    Glob.start (componentsBelow folder) =
      ⟨Path.rootOf (componentsBelow folder), (Path.ofText folder).parts⟩ := by
  rw [Glob.start, steps_componentsBelow, List.takeWhile_append_of_pos]
  · refine congrArg (Path.mk _) ?_
    rw [show List.takeWhile (fun step => !Text.isWildcard step)
      ["**".toList, "*.vue".toList] = [] from rfl, List.append_nil, List.filter_filter]
    refine List.filter_congr fun step _ => ?_
    rw [Bool.not_or, Bool.and_comm]
    rfl
  · intro step listed
    rw [plain_of_mem_splitAt plain (List.mem_filter.mp listed).1]
    rfl

theorem base_componentsBelow (plain : folder.isWildcard = false) :
    Glob.base (componentsBelow folder) = Glob.start (componentsBelow folder) := by
  have parts : (Path.ofText (componentsBelow folder)).parts =
      (Path.ofText folder).parts ++ ["**".toList, "*.vue".toList] := by
    change Path.partsOf (componentsBelow folder) = _
    rw [componentsBelow_eq, Path.partsOf_append]
    rfl
  rw [Glob.base, parts, start_componentsBelow plain, List.takeWhile_append_of_pos]
  · rw [show List.takeWhile (fun part => !Text.isWildcard part)
      ["**".toList, "*.vue".toList] = [] from rfl, List.append_nil]
    rfl
  · intro part listed
    rw [plain_of_mem_splitAt plain (Path.mem_partsOf.mp listed).1]
    rfl

theorem find_start_componentsBelow (named : disk.NamesFolder folder place) :
    disk.find (Glob.start (componentsBelow folder)) = .ok place := by
  have sameHead : (componentsBelow folder).head? = folder.head? :=
    List.head?_append_of_ne_nil _ named.trimmed.nonempty
  have sameRoot : (Glob.start (componentsBelow folder)).isAbsolute =
      (Path.ofText folder).isAbsolute := by
    rw [start_componentsBelow named.plain, Path.isAbsolute_ofRoot, sameHead]
    exact (Path.isAbsolute_ofRoot folder _).symm
  rw [← named.reached, Disk.find, Disk.find, sameRoot, start_componentsBelow named.plain]

/-- The pattern leads along every way without hidden names to a name with the ending. -/
theorem mem_expand_componentsBelow (proper : disk.Proper)
    (named : disk.NamesFolder folder place) :
    path ∈ Glob.expand disk (componentsBelow folder) ↔
      ∃ row ∈ disk.below place, (∀ name ∈ row, Glob.isHidden name = false) ∧
        (row.getLast?.getD []).matchesWildcard "*.vue".toList = true ∧
        path = ⟨(Glob.start (componentsBelow folder)).root,
          (Glob.start (componentsBelow folder)).parts ++ row⟩ := by
  have reached := find_start_componentsBelow named
  rw [Glob.expand_eq, onward_componentsBelow named.plain]
  generalize Glob.start (componentsBelow folder) = start at reached ⊢
  -- The folders that the double star leads to are found along its ways.
  have met {front : List Text} (folder : disk.hasFolder (place ++ front) = true)
      (visible : ∀ name ∈ front, Glob.isHidden name = false) :
      disk.find ⟨start.root, start.parts ++ front⟩ = .ok (place ++ front) := by
    refine Disk.find_below proper reached (fun name listed => ?_) (.inr ?_)
    · rintro rfl
      exact absurd (visible _ listed) (by decide)
    · rw [Disk.has, folder, Bool.or_true]
  rw [Glob.mem_followAll_cons]
  constructor
  · rintro ⟨between, led, later⟩
    obtain ⟨front, folder, visible, rfl⟩ := (Glob.mem_follow_folders reached).mp led
    obtain ⟨name, below, matched, hidden | shown, -, rfl⟩ :=
      (Glob.mem_follow_wildcard (met folder visible) (by decide) (by decide)).mp
        (Glob.mem_followAll_singleton.mp later)
    · -- The last step does not start with a dot.
      contradiction
    · obtain ⟨-, more, listed⟩ := Disk.mem_below_iff.mp below
      refine ⟨front ++ [name], Disk.mem_below_iff.mpr ⟨by simp, more, ?_⟩, ?_, ?_, ?_⟩
      · simpa using listed
      · exact List.forall_mem_append.mpr ⟨visible, List.forall_mem_singleton.mpr shown⟩
      · rwa [List.getLast?_concat]
      · simp [Path.child]
  · rintro ⟨row, below, visible, matched, rfl⟩
    obtain ⟨held, more, listed⟩ := Disk.mem_below_iff.mp below
    -- The double star leads along the way up to its last name, and the last step along that name.
    obtain ⟨front, name, rfl⟩ := (List.eq_nil_or_concat row).resolve_left held
    rw [List.concat_eq_append] at visible matched listed ⊢
    rw [List.getLast?_concat] at matched
    obtain ⟨visibleFront, shown⟩ := List.forall_mem_append.mp visible
    have listedName : place ++ front ++ ([name] ++ more) ∈ disk.places := by simpa using listed
    have folder := proper.hasFolder_of_mem_places listedName (by simp)
    refine ⟨_, (Glob.mem_follow_folders reached).mpr ⟨front, folder, visibleFront, rfl⟩, ?_⟩
    refine Glob.mem_followAll_singleton.mpr ((Glob.mem_follow_wildcard (met folder visibleFront)
      (by decide) (by decide)).mpr ⟨name, Disk.mem_below_iff.mpr ⟨by simp, more, listedName⟩,
        matched, .inr (shown name List.mem_cons_self), .inl rfl, ?_⟩)
    simp [Path.child]

theorem trimmed_componentsBelow (trimmed : Text.Trimmed folder) :
    Text.Trimmed (componentsBelow folder) := by
  obtain ⟨first, rest, starts⟩ := List.exists_cons_of_ne_nil trimmed.nonempty
  have startsAll : componentsBelow folder = first :: (rest ++ "/**/*.vue".toList) := by
    rw [componentsBelow, starts, List.cons_append]
  have ends : componentsBelow folder = folder ++ "/**/*.vu".toList ++ ['e'] := by
    simp [componentsBelow]
  have visible := trimmed.ends first (.inl (by simp [starts]))
  exact Text.trimmed_of_ends startsAll ends visible (by decide)

theorem leads_componentsBelow (plain : folder.isWildcard = false) :
    leads disk extensions (componentsBelow folder) =
      ⟨Glob.start (componentsBelow folder), (Glob.expand disk (componentsBelow folder)).filter
        (hasSuffix (extensions ++ analyzable))⟩ := by
  have wild : (componentsBelow folder).isWildcard = true := by
    rw [componentsBelow, Text.isWildcard, List.any_append, Bool.or_eq_true]
    exact .inr (by decide)
  rw [leads, if_pos wild, base_componentsBelow plain]

/-- What the pattern leads to: components that no hidden names lead to. -/
def IsComponent (extensions : List Text) (row : List Text) : Prop :=
  ((∀ name ∈ row, Glob.isHidden name = false) ∧
    (row.getLast?.getD []).matchesWildcard "*.vue".toList = true) ∧
    hasSuffix (extensions ++ analyzable) ⟨[], row⟩ = true

theorem leadsBelow_components (proper : disk.Proper) (named : disk.NamesFolder folder place) :
    LeadsBelow disk extensions (componentsBelow folder) place (Glob.start (componentsBelow folder))
      (IsComponent extensions) where
  trimmed := trimmed_componentsBelow named.trimmed
  proper := Glob.proper_start _
  reached := find_start_componentsBelow named
  isFolder := named.isFolder
  starts := by rw [leads_componentsBelow named.plain]
  mem_iff path := by
    rw [leads_componentsBelow named.plain, List.mem_filter, mem_expand_componentsBelow proper named]
    constructor
    · rintro ⟨⟨row, below, visible, matched, rfl⟩, suffix⟩
      rw [hasSuffix_below _ _ (Disk.mem_below_iff.mp below).1] at suffix
      exact ⟨row, below, ⟨⟨visible, matched⟩, suffix⟩, rfl⟩
    · rintro ⟨row, below, ⟨⟨visible, matched⟩, suffix⟩, rfl⟩
      refine ⟨⟨row, below, visible, matched, rfl⟩, ?_⟩
      rw [hasSuffix_below _ _ (Disk.mem_below_iff.mp below).1]
      exact suffix

/-! ## Two folders -/

/-- Below two folders with the same files a search finds the same files in the same order, as seen
from the folders, wherever these lie; and so does the pattern for all components below them. -/
theorem run_relocated (proper : disk.Proper) (otherProper : other.Proper)
    (named : disk.NamesFolder folder place) (otherNamed : other.NamesFolder otherFolder otherPlace)
    (same : ∀ row, disk.hasFile (place ++ row) = other.hasFile (otherPlace ++ row)) :
    Path.SameFrom folder otherFolder (run ⟨[folder], [], extensions⟩ disk)
      (run ⟨[otherFolder], [], extensions⟩ other) ∧
    Path.SameFrom folder otherFolder (run ⟨[componentsBelow folder], [], extensions⟩ disk)
      (run ⟨[componentsBelow otherFolder], [], extensions⟩ other) := by
  constructor
  · exact (leadsBelow_folder named).sameFrom (leadsBelow_folder otherNamed) proper otherProper same
      rfl rfl
  · have starts : (Path.ofText folder).parts = (Glob.start (componentsBelow folder)).parts := by
      rw [start_componentsBelow named.plain]
    have otherStarts : (Path.ofText otherFolder).parts =
        (Glob.start (componentsBelow otherFolder)).parts := by
      rw [start_componentsBelow otherNamed.plain]
    exact (leadsBelow_components proper named).sameFrom
      (leadsBelow_components otherProper otherNamed) proper otherProper same starts otherStarts

/-- Three components, one of them in a hidden folder. -/
def componentTree : List (List Text × List UInt8) :=
  [["a.vue"], ["ui", "b.vue"], [".git", "c.vue"]].map fun row => (row.map String.toList, [])

/-- It does not matter that one of the folders is hidden and lies among packages. -/
theorem run_relocated_hidden :
    let hidden := "/w/node_modules/.x".toList
    let shown := "/app".toList
    let disk := Disk.ofTree (["w", "node_modules", ".x"].map String.toList) componentTree
    let other := Disk.ofTree (["app"].map String.toList) componentTree
    run ⟨[hidden], [], standardExtensions⟩ disk =
      ["/w/node_modules/.x/a.vue", "/w/node_modules/.x/ui/b.vue"] ∧
    Path.SameFrom hidden shown (run ⟨[hidden], [], standardExtensions⟩ disk)
      (run ⟨[shown], [], standardExtensions⟩ other) := by
  intro hidden shown disk other
  have trimmed : Text.Trimmed hidden := Text.trimmed_of_ends rfl
    (show hidden = "/w/node_modules/.".toList ++ ['x'] from rfl) (by decide) (by decide)
  have otherTrimmed : Text.Trimmed shown := Text.trimmed_of_ends rfl
    (show shown = "/ap".toList ++ ['p'] from rfl) (by decide) (by decide)
  have named : disk.NamesFolder hidden (["w", "node_modules", ".x"].map String.toList) :=
    ⟨trimmed, by decide, by decide +kernel, by decide +kernel⟩
  have otherNamed : other.NamesFolder shown (["app"].map String.toList) :=
    ⟨otherTrimmed, by decide, by decide +kernel, by decide +kernel⟩
  refine ⟨by decide +kernel, (run_relocated (by decide +kernel) (by decide +kernel) named otherNamed
    fun row => ?_).1⟩
  rw [Disk.hasFile_ofTree, Disk.hasFile_ofTree]

end Search

end SfcLint
