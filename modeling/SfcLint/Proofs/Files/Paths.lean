/-
# Paths and their texts

A proper path has parts that a text can write: none of them is empty, a single dot, or has a slash
in it. Every path that is read from a text is proper, and a proper path is read back from the text
that it is written as. What lies below a folder is written as the path of the folder with more names
behind it, so in the order of the texts the ways from the folder have an order of their own, which
is the same for all folders.
-/

import SfcLint.Files.Path
import SfcLint.Proofs.Files.SortedSet
import SfcLint.Proofs.Text.Join

namespace SfcLint.Path

/-- A part that a path can have. -/
structure IsPart (part : Text) : Prop where
  nonempty : part ≠ []
  notDot : part ≠ ['.']
  whole : '/' ∉ part

/-- A name that a file or a folder can have: a part that does not lead back. -/
structure IsName (name : Text) : Prop extends IsPart name where
  notBack : name ≠ ['.', '.']

instance (part : Text) : Decidable (IsPart part) :=
  decidable_of_iff (part ≠ [] ∧ part ≠ ['.'] ∧ '/' ∉ part)
    ⟨fun ⟨nonempty, notDot, whole⟩ => ⟨nonempty, notDot, whole⟩,
      fun ⟨nonempty, notDot, whole⟩ => ⟨nonempty, notDot, whole⟩⟩

instance (name : Text) : Decidable (IsName name) :=
  decidable_of_iff (IsPart name ∧ name ≠ ['.', '.'])
    ⟨fun ⟨part, notBack⟩ => ⟨part, notBack⟩, fun ⟨part, notBack⟩ => ⟨part, notBack⟩⟩

/-- A path that a text can write. -/
structure Proper (path : Path) : Prop where
  root : path.root = [] ∨ path.root = ['/'] ∨ path.root = ['/', '/']
  parts : ∀ part ∈ path.parts, IsPart part

variable {path : Path} {part : Text}

theorem Proper.append (proper : path.Proper) {row : List Text} (parts : ∀ part ∈ row, IsPart part) :
    Proper ⟨path.root, path.parts ++ row⟩ :=
  ⟨proper.root, List.forall_mem_append.mpr ⟨proper.parts, parts⟩⟩

theorem Proper.child (proper : path.Proper) (isPart : IsPart part) : (path.child part).Proper :=
  proper.append (List.forall_mem_singleton.mpr isPart)

/-! ## Reading paths -/

/-- The parts that a text writes. -/
def partsOf (t : Text) : List Text :=
  (Text.splitAt '/' t).filter fun part => !(part.isEmpty || part == ['.'])

theorem mem_partsOf {t : Text} : part ∈ partsOf t ↔
    part ∈ Text.splitAt '/' t ∧ part ≠ [] ∧ part ≠ ['.'] := by
  simp [partsOf]

theorem isPart_of_mem_partsOf {t : Text} (held : part ∈ partsOf t) : IsPart part := by
  obtain ⟨cut, nonempty, notDot⟩ := mem_partsOf.mp held
  exact ⟨nonempty, notDot, Text.not_mem_of_mem_splitAt cut⟩

theorem rootOf_cases (t : Text) : rootOf t = [] ∨ rootOf t = ['/'] ∨ rootOf t = ['/', '/'] := by
  fun_cases rootOf t <;> simp

theorem proper_ofText (t : Text) : (ofText t).Proper :=
  ⟨rootOf_cases t, fun _ held => isPart_of_mem_partsOf held⟩

theorem partsOf_append (t u : Text) : partsOf (t ++ '/' :: u) = partsOf t ++ partsOf u := by
  rw [partsOf, Text.splitAt_append, List.filter_append]
  rfl

/-- A slash at the start is no part. -/
theorem partsOf_slash (t : Text) : partsOf ('/' :: t) = partsOf t := by
  rw [partsOf, Text.splitAt, if_pos rfl, List.filter_cons_of_neg (by simp)]
  rfl

theorem partsOf_join {parts : List Text} (isPart : ∀ part ∈ parts, IsPart part) :
    partsOf (Text.join ['/'] parts) = parts := by
  by_cases held : parts = []
  · subst held
    rfl
  · rw [partsOf, Text.splitAt_join held fun part member => (isPart part member).whole,
      List.filter_eq_self]
    intro part member
    simp [(isPart part member).nonempty, (isPart part member).notDot]

/-- The joined parts start with no slash. -/
theorem exists_cons_join {parts : List Text} (isPart : ∀ part ∈ parts, IsPart part)
    (held : parts ≠ []) : ∃ c rest, c ≠ '/' ∧ Text.join ['/'] parts = c :: rest := by
  obtain ⟨first, more, rfl⟩ := List.exists_cons_of_ne_nil held
  have isFirst := isPart first List.mem_cons_self
  obtain ⟨c, letters, rfl⟩ := List.exists_cons_of_ne_nil isFirst.nonempty
  obtain ⟨rest, joined⟩ := Text.prefix_join ['/'] (c :: letters) more
  refine ⟨c, letters ++ rest, ?_, joined.symm⟩
  rintro rfl
  exact isFirst.whole List.mem_cons_self

theorem rootOf_of_ne_slash {c : Char} (plain : c ≠ '/') (t : Text) : rootOf (c :: t) = [] := by
  simp [rootOf, plain]

theorem rootOf_slash_of_ne_slash {c : Char} (plain : c ≠ '/') (t : Text) :
    rootOf ('/' :: c :: t) = ['/'] := by
  simp [rootOf, plain]

theorem rootOf_slashes_of_ne_slash {c : Char} (plain : c ≠ '/') (t : Text) :
    rootOf ('/' :: '/' :: c :: t) = ['/', '/'] := by
  simp [rootOf, plain]

/-- A path is absolute when its text starts with a slash. -/
theorem isAbsolute_ofRoot (t : Text) (parts : List Text) :
    isAbsolute ⟨rootOf t, parts⟩ = (t.head? == some '/') := by
  rw [isAbsolute]
  fun_cases rootOf t with
  | case4 _ _ _ noSlash =>
    cases t with
    | nil => rfl
    | cons c rest =>
      have plain : c ≠ '/' := by
        rintro rfl
        exact noSlash rest rfl
      simp [plain]
  | _ => rfl

/-- A proper path is read from the text that it is written as. -/
theorem ofText_toText (proper : path.Proper) : ofText path.toText = path := by
  obtain ⟨root, parts⟩ := path
  obtain ⟨isRoot, isPart⟩ := proper
  change Path.mk (rootOf (toText ⟨root, parts⟩)) (partsOf (toText ⟨root, parts⟩)) = _
  by_cases held : parts = []
  · subst held
    rcases isRoot with rfl | rfl | rfl <;> rfl
  · have written : toText ⟨root, parts⟩ = root ++ Text.join ['/'] parts := by
      rw [toText, if_neg (by simp [held])]
    obtain ⟨c, rest, plain, starts⟩ := exists_cons_join isPart held
    have sameParts := partsOf_join isPart
    rw [written, starts]
    rw [starts] at sameParts
    -- There is one case for each of the roots.
    rcases isRoot with rfl | rfl | rfl
    · rw [List.nil_append, rootOf_of_ne_slash plain, sameParts]
    · rw [List.singleton_append, rootOf_slash_of_ne_slash plain, partsOf_slash, sameParts]
    · rw [List.cons_append, List.singleton_append, rootOf_slashes_of_ne_slash plain,
        partsOf_slash, partsOf_slash, sameParts]

theorem ofText_toString (proper : path.Proper) : ofText path.toString.toList = path := by
  rw [toString, String.toList_ofList, ofText_toText proper]

/-! ## Paths below others -/

theorem partsBelow?_eq_some_iff {front parts rest : List Text} :
    partsBelow? front parts = some rest ↔ parts = front ++ rest := by
  induction front generalizing parts with
  | nil => simp [partsBelow?, eq_comm]
  | cons first front ih =>
    cases parts with
    | nil => simp [partsBelow?]
    | cons part parts =>
      by_cases same : first = part
      · subst same
        simp [partsBelow?, ih]
      · simp [partsBelow?, same, Ne.symm same]

theorem partsBelow?_append (front rest : List Text) :
    partsBelow? front (front ++ rest) = some rest :=
  partsBelow?_eq_some_iff.mpr rfl

variable {base : Path} {row : List Text}

/-- The names that lead from a folder to a path that is written below it. -/
def wayFrom? (folder : Text) (text : String) : Option (List Text) :=
  partsBelow? (ofText folder).parts (ofText text.toList).parts

/-- What all paths below a path start with. -/
def front (base : Path) : Text :=
  base.root ++ if base.parts = [] then [] else Text.join ['/'] base.parts ++ ['/']

theorem toString_below (base : Path) (held : row ≠ []) :
    toString ⟨base.root, base.parts ++ row⟩ =
      String.ofList (base.front ++ Text.join ['/'] row) := by
  have someParts : base.parts ++ row ≠ [] := by simp [held]
  rw [toString, toText, if_neg (by simp [held]), front]
  by_cases none : base.parts = []
  · simp [none]
  · simp [none, Text.join_append ['/'] none held]

theorem wayFrom?_below {folder : Text} (proper : base.Proper)
    (starts : (ofText folder).parts = base.parts) (parts : ∀ part ∈ row, IsPart part) :
    wayFrom? folder (toString ⟨base.root, base.parts ++ row⟩) = some row := by
  rw [wayFrom?, ofText_toString (proper.append parts), starts, partsBelow?_append]

/-- As seen from two folders, the paths in two rows are the same. -/
def SameFrom (folder otherFolder : Text) (row others : List String) : Prop :=
  ∃ ways : List (List Text), row.map (wayFrom? folder) = ways.map some ∧
    others.map (wayFrom? otherFolder) = ways.map some

theorem name_below (base : Path) (held : row ≠ []) :
    name ⟨base.root, base.parts ++ row⟩ = name ⟨[], row⟩ := by
  rw [name, name, List.getLast?_append_of_ne_nil _ held]

theorem relativeTo?_below (base : Path) (row : List Text) :
    relativeTo? ⟨base.root, base.parts ++ row⟩ base = some ⟨[], row⟩ := by
  rw [relativeTo?, if_pos rfl, partsBelow?_append]
  rfl

/-! ## Rows of paths below a folder -/

/-- A way from a folder to something below it. -/
structure IsWay (row : List Text) : Prop where
  nonempty : row ≠ []
  parts : ∀ part ∈ row, IsPart part

/-- A row holds, in ascending order, the paths along some ways from a path. -/
structure ListsBelow (base : Path) (leads : List Text → Prop) (found : List String) : Prop where
  proper : base.Proper
  isWay : ∀ row, leads row → IsWay row
  rising : found.Pairwise (· < ·)
  mem_iff : ∀ text, text ∈ found ↔
    ∃ row, leads row ∧ toString ⟨base.root, base.parts ++ row⟩ = text

namespace ListsBelow

variable {leads : List Text → Prop} {found others : List String} {folder otherFolder : Text}
  {otherBase : Path}

theorem mem_iff_front (lists : ListsBelow base leads found) (text : String) :
    text ∈ found ↔ ∃ t, (∃ row, leads row ∧ Text.join ['/'] row = t) ∧
      String.ofList (base.front ++ t) = text := by
  rw [lists.mem_iff]
  constructor
  · rintro ⟨row, led, rfl⟩
    exact ⟨_, ⟨row, led, rfl⟩, (toString_below base (lists.isWay row led).nonempty).symm⟩
  · rintro ⟨_, ⟨row, led, rfl⟩, rfl⟩
    exact ⟨row, led, toString_below base (lists.isWay row led).nonempty⟩

/-- Behind the front of the path each text is read as the way that it writes. -/
theorem map_wayFrom? (lists : ListsBelow base leads found)
    (starts : (ofText folder).parts = base.parts) {texts : List Text}
    (written : ∀ t ∈ texts, ∃ row, leads row ∧ Text.join ['/'] row = t) :
    (texts.map fun t => String.ofList (base.front ++ t)).map (wayFrom? folder) =
      (texts.map partsOf).map some := by
  rw [List.map_map, List.map_map]
  refine List.map_congr_left fun t listed => ?_
  obtain ⟨row, led, rfl⟩ := written t listed
  have isWay := lists.isWay row led
  rw [Function.comp_apply, Function.comp_apply, ← toString_below base isWay.nonempty,
    wayFrom?_below lists.proper starts isWay.parts, partsOf_join isWay.parts]

/-- Along the same ways from two paths there are the same paths, as seen from there, in the same
order. -/
theorem sameFrom (lists : ListsBelow base leads found)
    (otherLists : ListsBelow otherBase leads others)
    (starts : (ofText folder).parts = base.parts)
    (otherStarts : (ofText otherFolder).parts = otherBase.parts) :
    SameFrom folder otherFolder found others := by
  obtain ⟨shared, written, rfl, rfl⟩ := exists_common_row lists.rising otherLists.rising
    lists.mem_iff_front otherLists.mem_iff_front
  exact ⟨shared.map partsOf, lists.map_wayFrom? starts written,
    otherLists.map_wayFrom? otherStarts written⟩

end ListsBelow

end SfcLint.Path
