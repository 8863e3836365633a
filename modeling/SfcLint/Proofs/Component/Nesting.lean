/-
# Nesting of tags

Tags are well nested when every tag that opens is closed by one of its name, with well nested tags
between the two. Reading from left to right, the elements that are open are a stack: a tag that
closes must have the name on top. Both are the same, because what stands before the tag that
closes the top is well nested in itself.
-/

import SfcLint.Component.Assembly

namespace SfcLint.Assembly

/-- A tag that opens an element with content, or closes one. -/
inductive NestingTag
  | opens (name : Text)
  | closes (name : Text)
  deriving DecidableEq, Repr

/-- Every tag that opens is closed by one of its name, the latest open one first, and nothing else
is closed. -/
inductive WellNested : List NestingTag → Prop
  | nil : WellNested []
  | element (name : Text) {inner later : List NestingTag} :
      WellNested inner → WellNested later →
        WellNested (.opens name :: (inner ++ .closes name :: later))

/-- The names of the elements that are open after some tags, innermost first, unless a tag closes
something else than the innermost one. -/
def openAfter : List Text → List NestingTag → Option (List Text)
  | names, [] => some names
  | names, .opens name :: tags => openAfter (name :: names) tags
  | [], .closes _ :: _ => none
  | top :: below, .closes name :: tags => if top = name then openAfter below tags else none

variable {names : List Text} {tags : List NestingTag}

@[simp]
theorem openAfter_nil (names : List Text) : openAfter names [] = some names := by
  cases names <;> rfl

@[simp]
theorem openAfter_opens (names : List Text) (name : Text) (tags : List NestingTag) :
    openAfter names (.opens name :: tags) = openAfter (name :: names) tags := by
  cases names <;> rfl

theorem openAfter_cons (names : List Text) (tag : NestingTag) (tags : List NestingTag) :
    openAfter names (tag :: tags) =
      (openAfter names [tag]).bind fun after => openAfter after tags := by
  cases tag with
  | opens name => simp
  | closes name =>
    cases names with
    | nil => rfl
    | cons top below =>
      rw [openAfter, openAfter, openAfter_nil]
      split <;> rfl

theorem openAfter_append (names : List Text) (front back : List NestingTag) :
    openAfter names (front ++ back) =
      (openAfter names front).bind fun after => openAfter after back := by
  induction front generalizing names with
  | nil => simp
  | cons tag front ih =>
    rw [List.cons_append, openAfter_cons, openAfter_cons names tag front]
    cases openAfter names [tag] with
    | none => rfl
    | some after => exact ih after

/-- Well nested tags leave open what was open. -/
theorem WellNested.openAfter (nested : WellNested tags) (names : List Text) :
    openAfter names tags = some names := by
  induction nested generalizing names with
  | nil => exact openAfter_nil names
  | element name _ _ innerClosed laterClosed =>
    rw [openAfter_opens, openAfter_append, innerClosed, Option.bind_some, Assembly.openAfter,
      if_pos rfl, laterClosed]

/-- Up to the tag that closes the innermost open element, the tags are well nested. -/
theorem exists_closing_of_openAfter {top : Text}
    (closed : openAfter (top :: names) tags = some []) :
    ∃ inner later, tags = inner ++ .closes top :: later ∧ WellNested inner ∧
      openAfter names later = some [] := by
  -- A tag that opens one more element is closed in what follows, and the rest is shorter still.
  induction size : tags.length using Nat.strongRecOn generalizing names tags top with
  | ind size ih =>
  subst size
  cases tags with
  | nil => simp at closed
  | cons tag tags =>
    cases tag with
    | closes name =>
      rw [openAfter] at closed
      split at closed
      next same =>
        subst same
        exact ⟨[], tags, rfl, .nil, closed⟩
      next => contradiction
    | opens name =>
      rw [openAfter_opens] at closed
      obtain ⟨first, middle, rfl, firstNested, open?⟩ := ih _ (by simp) closed rfl
      obtain ⟨inner, later, rfl, innerNested, rest⟩ := ih _ (by simp; omega) open? rfl
      exact ⟨.opens name :: (first ++ .closes name :: inner), later, by simp,
        .element name firstNested innerNested, rest⟩

/-- Tags are well nested exactly when they close all that they open. -/
theorem openAfter_eq_nil_iff : openAfter [] tags = some [] ↔ WellNested tags := by
  constructor
  · intro closed
    induction size : tags.length using Nat.strongRecOn generalizing tags with
    | ind size ih =>
    subst size
    cases tags with
    | nil => exact .nil
    | cons tag tags =>
      cases tag with
      | closes name => simp [openAfter] at closed
      | opens name =>
        rw [openAfter_opens] at closed
        obtain ⟨inner, later, rfl, nested, rest⟩ := exists_closing_of_openAfter closed
        exact .element name nested (ih _ (by simp; omega) rest rfl)
  · exact fun nested => nested.openAfter []

end SfcLint.Assembly
