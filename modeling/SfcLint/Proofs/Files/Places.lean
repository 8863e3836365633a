/-
# Places on a disk

On a proper disk the names are such that a path can have them, and nothing lies in a file. So a row
of names leads from a folder to what lies below it by these names, and to nothing else: a file is
found along a path exactly where it lies.
-/

import SfcLint.Files.Disk
import SfcLint.Proofs.Files.Paths
import SfcLint.Proofs.Json.Members
import SfcLint.Proofs.Text.Except

namespace SfcLint.Disk

/-- A disk on which the names can stand in paths and nothing lies in a file. -/
structure Proper (disk : Disk) : Prop where
  names : ∀ place ∈ disk.places, ∀ name ∈ place, Path.IsName name
  leaves : ∀ file ∈ disk.files, ∀ place ∈ disk.places, file.1 <+: place → place = file.1

instance (disk : Disk) : Decidable disk.Proper :=
  decidable_of_iff ((∀ place ∈ disk.places, ∀ name ∈ place, Path.IsName name) ∧
      ∀ file ∈ disk.files, ∀ place ∈ disk.places, file.1 <+: place → place = file.1)
    ⟨fun ⟨names, leaves⟩ => ⟨names, leaves⟩, fun ⟨names, leaves⟩ => ⟨names, leaves⟩⟩

variable {disk : Disk} {place row found : List Text} {name : Text} {path : Path}

/-! ## What lies where -/

theorem exists_of_hasFile (held : disk.hasFile place = true) :
    ∃ bytes, (place, bytes) ∈ disk.files := by
  obtain ⟨bytes, stored⟩ := Option.isSome_iff_exists.mp held
  exact ⟨bytes, (List.lookup_eq_some_iff.mp stored).elim fun before ⟨after, split, _⟩ =>
    split ▸ by simp⟩

theorem mem_places_of_hasFile (held : disk.hasFile place = true) : place ∈ disk.places := by
  obtain ⟨bytes, stored⟩ := exists_of_hasFile held
  exact List.mem_append_right _ (List.mem_map_of_mem stored)

theorem hasFolder_iff : disk.hasFolder place = true ↔
    disk.hasFile place = false ∧ (place = [] ∨ ∃ row, place ++ row ∈ disk.places) := by
  have below : (disk.places.any fun other => (Path.partsBelow? place other).isSome) = true ↔
      ∃ row, place ++ row ∈ disk.places := by
    rw [List.any_eq_true]
    constructor
    · rintro ⟨other, listed, way⟩
      obtain ⟨row, way⟩ := Option.isSome_iff_exists.mp way
      exact ⟨row, Path.partsBelow?_eq_some_iff.mp way ▸ listed⟩
    · rintro ⟨row, listed⟩
      exact ⟨place ++ row, listed, by rw [Path.partsBelow?_append]; rfl⟩
  rw [hasFolder, Bool.and_eq_true, Bool.not_eq_true', Bool.or_eq_true, below, List.isEmpty_iff]

theorem exists_mem_places_of_has (held : disk.has place = true) (proper : place ≠ []) :
    ∃ row, place ++ row ∈ disk.places := by
  rcases Bool.or_eq_true_iff.mp held with file | folder
  · exact ⟨[], by simpa using mem_places_of_hasFile file⟩
  · exact (hasFolder_iff.mp folder).2.resolve_left proper

theorem has_of_mem_places (listed : place ++ row ∈ disk.places) : disk.has place = true := by
  rw [has, Bool.or_eq_true]
  by_cases file : disk.hasFile place = true
  · exact .inl file
  · exact .inr (hasFolder_iff.mpr ⟨Bool.eq_false_iff.mpr file, .inr ⟨row, listed⟩⟩)

theorem mem_below_iff :
    row ∈ disk.below place ↔ row ≠ [] ∧ ∃ more, place ++ (row ++ more) ∈ disk.places := by
  simp only [below, List.mem_eraseDups, List.mem_flatMap, List.mem_filterMap, List.mem_map,
    List.mem_range, Path.partsBelow?_eq_some_iff]
  constructor
  · rintro ⟨whole, ⟨other, listed, rfl⟩, n, short, rfl⟩
    refine ⟨?_, whole.drop (n + 1), by rwa [List.take_append_drop]⟩
    rw [ne_eq, List.take_eq_nil_iff]
    rintro (impossible | rfl)
    · contradiction
    · contradiction
  · rintro ⟨held, more, listed⟩
    have positive := List.length_pos_iff.mpr held
    refine ⟨row ++ more, ⟨_, listed, rfl⟩, row.length - 1, ?_, ?_⟩
    · rw [List.length_append]
      omega
    · rw [Nat.sub_add_cancel positive, List.take_left]

theorem mem_names_iff : name ∈ disk.names place ↔ [name] ∈ disk.below place := by
  rw [names, List.mem_filterMap]
  constructor
  · rintro ⟨row, held, alone⟩
    split at alone
    · obtain rfl := Option.some.inj alone
      exact held
    · contradiction
  · intro held
    exact ⟨[name], held, rfl⟩

namespace Proper

theorem isName_of_mem_below (proper : disk.Proper) (held : row ∈ disk.below place)
    (listed : name ∈ row) : Path.IsName name := by
  obtain ⟨-, more, known⟩ := mem_below_iff.mp held
  exact proper.names _ known name (by simp [listed])

/-- What something lies below is a folder. -/
theorem hasFolder_of_mem_places (proper : disk.Proper) (listed : place ++ row ∈ disk.places)
    (deeper : row ≠ []) : disk.hasFolder place = true := by
  refine hasFolder_iff.mpr ⟨Bool.eq_false_iff.mpr fun file => ?_, .inr ⟨row, listed⟩⟩
  obtain ⟨bytes, stored⟩ := exists_of_hasFile file
  have same := proper.leaves _ stored _ listed (List.prefix_append place row)
  exact deeper (List.append_right_eq_self.mp same)

theorem hasFolder_of_has (proper : disk.Proper) (held : disk.has (place ++ row) = true)
    (deeper : row ≠ []) : disk.hasFolder place = true := by
  obtain ⟨more, listed⟩ := exists_mem_places_of_has held (by simp [deeper])
  rw [List.append_assoc] at listed
  exact proper.hasFolder_of_mem_places listed (by simp [deeper])

end Proper

/-! ## Ways along paths -/

theorem find_append (disk : Disk) (path : Path) (row : List Text) :
    disk.find ⟨path.root, path.parts ++ row⟩ =
      disk.find path >>= fun place => row.foldlM disk.step place :=
  List.foldlM_append

theorem step_eq_ok_iff (notBack : name ≠ ['.', '.']) :
    disk.step place name = .ok found ↔
      found = place ++ [name] ∧ disk.hasFolder place = true ∧ disk.has found = true := by
  rw [step, if_neg notBack]
  cases folder : disk.hasFolder place with
  | false => simp
  | true =>
    cases there : disk.has (place ++ [name]) with
    | false =>
      refine iff_of_false (by simp [there]) ?_
      rintro ⟨rfl, -, held⟩
      simp [there] at held
    | true =>
      simp only [Bool.not_true, Bool.false_eq_true, if_false, there, if_true, Except.ok.injEq]
      constructor
      · rintro rfl
        exact ⟨rfl, trivial, there⟩
      · rintro ⟨rfl, -⟩
        rfl

/-- A row of names leads from a place to what lies below it by these names. -/
theorem foldlM_step_eq_ok_iff (proper : disk.Proper) (names : ∀ name ∈ row, name ≠ ['.', '.']) :
    row.foldlM disk.step place = .ok found ↔
      found = place ++ row ∧ (row = [] ∨ disk.has found = true) := by
  induction row generalizing place with
  | nil =>
    rw [List.foldlM_nil, Except.pure_eq_ok_iff, List.append_nil]
    exact ⟨fun same => ⟨same.symm, .inl rfl⟩, fun ⟨same, _⟩ => same.symm⟩
  | cons name row ih =>
    -- The first name leads to a folder below which the others lead on.
    obtain ⟨notBack, others⟩ := List.forall_mem_cons.mp names
    rw [List.foldlM_cons, Except.bind_eq_ok_iff]
    constructor
    · rintro ⟨next, stepped, later⟩
      obtain ⟨rfl, -, there⟩ := (step_eq_ok_iff notBack).mp stepped
      obtain ⟨rfl, reached⟩ := (ih others).mp later
      refine ⟨by simp, .inr ?_⟩
      rcases reached with rfl | reached
      · simpa using there
      · exact reached
    · rintro ⟨rfl, nothing | there⟩
      · contradiction
      · have whole : (place ++ [name]) ++ row = place ++ name :: row := by simp
        have folder := proper.hasFolder_of_has there (List.cons_ne_nil name row)
        obtain ⟨more, listed⟩ := exists_mem_places_of_has there (by simp)
        rw [← whole, List.append_assoc] at listed
        have stepped := (step_eq_ok_iff notBack).mpr ⟨rfl, folder, has_of_mem_places listed⟩
        exact ⟨place ++ [name], stepped, (ih others).mpr ⟨whole.symm, .inr there⟩⟩

variable (proper : disk.Proper) (reached : disk.find path = .ok place)
  (names : ∀ name ∈ row, name ≠ ['.', '.'])
include proper reached names

theorem find_below (there : row = [] ∨ disk.has (place ++ row) = true) :
    disk.find ⟨path.root, path.parts ++ row⟩ = .ok (place ++ row) := by
  rw [find_append, reached]
  exact (foldlM_step_eq_ok_iff proper names).mpr ⟨rfl, there⟩

theorem eq_of_find_below (met : disk.find ⟨path.root, path.parts ++ row⟩ = .ok found) :
    found = place ++ row := by
  rw [find_append, reached] at met
  exact ((foldlM_step_eq_ok_iff proper names).mp met).1

/-- Below a place there are files where names lead to files. -/
theorem isFile_below :
    disk.isFile ⟨path.root, path.parts ++ row⟩ = disk.hasFile (place ++ row) := by
  rw [Bool.eq_iff_iff]
  constructor
  · intro file
    rw [isFile] at file
    split at file
    next found met => exact eq_of_find_below proper reached names met ▸ file
    next => contradiction
  · intro file
    have there : disk.has (place ++ row) = true := by
      rw [has, file]
      rfl
    rw [isFile, find_below proper reached names (.inr there)]
    exact file

end SfcLint.Disk
