/-
# The two spellings of a directive

A directive that binds an attribute, listens to an event or fills a slot is written with a sign
before its argument, or in full with its argument behind a colon. What an element holds does not
tell the spellings of a binding or of a listener apart. The short spelling of a slot keeps the
modifiers that the full one drops, so for slots the spellings agree where there are none.
-/

import Mathlib.Data.Bool.AllAny
import SfcLint.Proofs.Component.Unreadable
import SfcLint.Proofs.Markup.Step

namespace SfcLint

namespace Binding

variable {t arg name : Text} {value : Option Text} {place : Position}

/-! ## Arguments and modifiers -/

/-- What is written as an argument is the argument and its modifiers. The argument goes up to the
first dot, or in square brackets through the first closing one. Brackets that do not close hold all
that is written. -/
inductive Argument : Text → Text → Prop
  | plain {arg modifiers : Text} : arg.head? ≠ some '[' → '.' ∉ arg →
      (∀ c ∈ modifiers.head?, c = '.') → Argument (arg ++ modifiers) arg
  | bracketed {inner : Text} (modifiers : Text) : ']' ∉ inner →
      Argument ('[' :: (inner ++ ']' :: modifiers)) ('[' :: (inner ++ [']']))
  | unclosed {inner : Text} : ']' ∉ inner → Argument ('[' :: inner) ('[' :: inner)

theorem withoutModifiers_of_argument (argument : Argument t arg) : withoutModifiers t = arg := by
  cases argument with
  | @plain _ modifiers noBracket noDot dot =>
    have other : (arg ++ modifiers).head? ≠ some '[' := by
      rw [List.head?_append]
      intro bracket
      rcases Option.or_eq_some_iff.mp bracket with inArg | ⟨-, inModifiers⟩
      · exact noBracket inArg
      · exact absurd (dot '[' inModifiers) (by decide)
    have letters : ∀ c ∈ arg, (c != '.') = true := fun c member =>
      bne_iff_ne.mpr (ne_of_mem_of_not_mem member noDot)
    rw [withoutModifiers, if_neg other, List.takeWhile_append_of_pos letters]
    cases modifiers with
    | nil => exact List.append_nil arg
    | cons c modifiers =>
      rw [dot c rfl, List.takeWhile_cons_of_neg (by decide), List.append_nil]
  | @bracketed inner modifiers closes =>
    have absent : ']' ∉ '[' :: inner := by simp [closes]
    rw [withoutModifiers, if_pos List.head?_cons, ← List.cons_append,
      Text.offsetOf?_of_not_mem absent]
    simp [List.take_append, List.take_of_length_le]
  | @unclosed inner opens =>
    have absent : ']' ∉ '[' :: inner := by simp [opens]
    rw [withoutModifiers, if_pos List.head?_cons, Text.offsetOf?_eq_none absent]

/-- Whatever is written, its argument is what is left without the modifiers. -/
theorem exists_argument (t : Text) : ∃ arg, Argument t arg := by
  by_cases bracket : t.head? = some '['
  · obtain ⟨rest, rfl⟩ := List.head?_eq_some_iff.mp bracket
    by_cases closes : ']' ∈ rest
    · obtain ⟨inner, modifiers, rfl, first⟩ := List.eq_append_cons_of_mem closes
      exact ⟨_, .bracketed modifiers first⟩
    · exact ⟨_, .unclosed closes⟩
  · have noDot : '.' ∉ t.takeWhile (· != '.') := fun member => by
      simpa using List.all_eq_true.mp List.all_takeWhile '.' member
    have dot : ∀ c ∈ (t.dropWhile (· != '.')).head?, c = '.' := by
      intro c first
      have stops := List.head?_dropWhile_not (· != '.') t
      rw [first] at stops
      simpa using stops
    have noBracket : (t.takeWhile (· != '.')).head? ≠ some '[' := by
      intro first
      refine bracket ?_
      rw [← List.takeWhile_append_dropWhile (p := (· != '.')) (l := t), List.head?_append, first]
      rfl
    have argument := Argument.plain noBracket noDot dot
    rw [List.takeWhile_append_dropWhile] at argument
    exact ⟨_, argument⟩

theorem argument_iff : Argument t arg ↔ withoutModifiers t = arg := by
  refine ⟨withoutModifiers_of_argument, ?_⟩
  rintro rfl
  obtain ⟨arg, argument⟩ := exists_argument t
  rwa [withoutModifiers_of_argument argument]

/-- An argument is empty only where nothing is written before the first dot. -/
theorem Argument.ne_nil (argument : Argument t arg) (some : t ≠ []) (noDot : t.head? ≠ .some '.') :
    arg ≠ [] := by
  cases argument with
  | @plain _ modifiers _ _ dot =>
    rintro rfl
    rw [List.nil_append] at some noDot
    obtain ⟨c, modifiers, rfl⟩ := List.exists_cons_of_ne_nil some
    exact noDot (congrArg Option.some (dot c rfl))
  | bracketed => simp
  | unclosed => simp

/-! ## Directives in full -/

/-- A directive in full has its name before the colon and its argument behind it. -/
theorem ofAttribute_full (noColon : ':' ∉ name) (noDot : '.' ∉ name) (t : Text)
    (value : Option Text) (place : Position) :
    ofAttribute ('v' :: '-' :: (name ++ ':' :: t)) value place =
      ⟨name, nonEmpty? (withoutModifiers t), value, false, 'v' :: '-' :: (name ++ ':' :: t),
        place⟩ := by
  have beforeColon : ∀ c ∈ name, (c != ':') = true := fun c member =>
    bne_iff_ne.mpr (ne_of_mem_of_not_mem member noColon)
  have beforeDot : ∀ c ∈ name, (c != '.') = true := fun c member =>
    bne_iff_ne.mpr (ne_of_mem_of_not_mem member noDot)
  have front : (name ++ ':' :: t).takeWhile (· != ':') = name := by
    rw [List.takeWhile_append_of_pos beforeColon, List.takeWhile_cons_of_neg (by decide),
      List.append_nil]
  have back : (name ++ ':' :: t).dropWhile (· != ':') = ':' :: t := by
    rw [List.dropWhile_append_of_pos beforeColon, List.dropWhile_cons_of_neg (by decide)]
  have whole : name.takeWhile (· != '.') = name := by
    rw [← List.append_nil name, List.takeWhile_append_of_pos beforeDot, List.takeWhile_nil]
  rw [ofAttribute, front, back, whole]
  rfl

end Binding

namespace Assembly

open Binding

/-- The value of an attribute, read from what is written for it. -/
def valueOf (written : Option Text) : Except ParseError (Option Text) := written.mapM shownValue

/-- The binding that a name, a value as it is written and a place make. -/
def bindingFrom (rawName : Text) (written : Option Text) (place : Position) :
    Except ParseError Binding :=
  (valueOf written).map fun value => Binding.ofAttribute rawName value place

/-- The binding of an attribute in a tag is made from its name, its value and its place. -/
theorem bindingOf_eq (raw : Text) (position : Position) (start : Nat) (hit : Hit) :
    bindingOf raw position start hit =
      bindingFrom (hit.group "name") (hit.group? "value")
        (position.after (raw.take (start + hit.start))) := by
  rw [bindingOf, bindingFrom, valueOf]
  cases (hit.group? "value").mapM shownValue <;> rfl

/-- What a rule can ask of a binding beside the place and the spelling: its name, its argument, its
expression, and whether it is static. -/
def meaning (binding : Binding) : Text × Option Text × Option Text × Bool :=
  (binding.name, binding.arg, binding.expression, binding.isStatic)

/-- Two attributes mean the same, or neither can be read for the same reason. -/
def Agree (first second : Except ParseError Binding) : Prop :=
  first.map meaning = second.map meaning

variable {t arg name : Text} {written : Option Text} {place : Position}

/-- What a directive of a name means that has an argument: its value is its expression. -/
def directive (name arg : Text) (written : Option Text) :
    Except ParseError (Text × Option Text × Option Text × Bool) :=
  (valueOf written).map fun value => (name, some arg, value, false)

theorem map_meaning_bindingFrom {rawName : Text}
    (means : ∀ value, meaning (ofAttribute rawName value place) = (name, some arg, value, false)) :
    (bindingFrom rawName written place).map meaning = directive name arg written := by
  rw [bindingFrom, directive]
  cases valueOf written with
  | error failure => rfl
  | ok value => exact congrArg Except.ok (means value)

/-- A directive in full means its name with its argument, unless the argument is empty. -/
theorem map_meaning_full (noColon : ':' ∉ name) (noDot : '.' ∉ name) (argument : Argument t arg)
    (held : arg ≠ []) (written : Option Text) (place : Position) :
    (bindingFrom ('v' :: '-' :: (name ++ ':' :: t)) written place).map meaning =
      directive name arg written := by
  refine map_meaning_bindingFrom fun value => ?_
  have shown : nonEmpty? arg = some arg := by
    rw [nonEmpty?, if_neg (by simpa using held)]
  rw [ofAttribute_full noColon noDot, withoutModifiers_of_argument argument, shown]
  rfl

/-- Directives of one name mean the same exactly when their arguments are the same or their value
cannot be read. -/
theorem directive_eq_iff {arg' : Text} :
    directive name arg written = directive name arg' written ↔
      arg = arg' ∨ (valueOf written).Fails := by
  rw [directive, directive]
  cases valueOf written with
  | error failure => simp [Except.map, Except.fails_error]
  | ok value => simp [Except.map, Except.not_fails_ok]

/-- **The spellings of a directive agree where modifiers are dropped.** An argument that does not
begin with a dot gives a binding and a listener that do not depend on the spelling: they mean what
is written, without the modifiers. So does the full spelling of a slot. The short one keeps the
modifiers, so the two agree exactly when there are none, or no slot because its value cannot be
read. -/
theorem spellings_agree (held : t ≠ []) (noDot : t.head? ≠ some '.') (written : Option Text)
    (place : Position) :
    Agree (bindingFrom (':' :: t) written place)
      (bindingFrom ("v-bind:".toList ++ t) written place) ∧
    Agree (bindingFrom ('@' :: t) written place)
      (bindingFrom ("v-on:".toList ++ t) written place) ∧
    (Agree (bindingFrom ('#' :: t) written place)
        (bindingFrom ("v-slot:".toList ++ t) written place) ↔
      Argument t t ∨ (valueOf written).Fails) ∧
    ∃ arg, Argument t arg ∧
      (bindingFrom (':' :: t) written place).map meaning = directive "bind" arg written ∧
      (bindingFrom ('@' :: t) written place).map meaning = directive "on" arg written ∧
      (bindingFrom ("v-slot:".toList ++ t) written place).map meaning =
        directive "slot" arg written ∧
      (bindingFrom ('#' :: t) written place).map meaning = directive "slot" t written := by
  obtain ⟨arg, argument⟩ := exists_argument t
  have shown := argument.ne_nil held noDot
  have plain : withoutModifiers t = arg := withoutModifiers_of_argument argument
  have bind : (bindingFrom (':' :: t) written place).map meaning = directive "bind" arg written :=
    map_meaning_bindingFrom fun value => by rw [← plain]; rfl
  have on : (bindingFrom ('@' :: t) written place).map meaning = directive "on" arg written :=
    map_meaning_bindingFrom fun value => by rw [← plain]; rfl
  have slot : (bindingFrom ('#' :: t) written place).map meaning = directive "slot" t written := by
    refine map_meaning_bindingFrom fun value => ?_
    rw [ofAttribute, if_neg (by simpa using held)]
    rfl
  have bindFull : (bindingFrom ("v-bind:".toList ++ t) written place).map meaning =
      directive "bind" arg written :=
    @map_meaning_full t arg "bind" (by decide) (by decide) argument shown written place
  have onFull : (bindingFrom ("v-on:".toList ++ t) written place).map meaning =
      directive "on" arg written :=
    @map_meaning_full t arg "on" (by decide) (by decide) argument shown written place
  have slotFull : (bindingFrom ("v-slot:".toList ++ t) written place).map meaning =
      directive "slot" arg written :=
    @map_meaning_full t arg "slot" (by decide) (by decide) argument shown written place
  refine ⟨bind.trans bindFull.symm, on.trans onFull.symm, ?_, arg, argument, bind, on, slotFull,
    slot⟩
  rw [Agree, slot, slotFull, directive_eq_iff, argument_iff, plain, eq_comm]

/-- An argument in square brackets with a dot in it, a modifier and a colon: a binding does not
depend on its spelling, and a slot does. -/
theorem spellings_agree_brackets :
    "[key.id].once:x".toList ≠ [] ∧ "[key.id].once:x".toList.head? ≠ some '.' ∧
      Agree (bindingFrom ":[key.id].once:x" (some "a &lt; b".toList) .start)
        (bindingFrom "v-bind:[key.id].once:x" (some "a &lt; b".toList) .start) ∧
      (bindingFrom "@[key.id].once:x" (some "a &lt; b".toList) .start).map meaning =
        directive "on" "[key.id]" (some "a &lt; b".toList) := by
  have held : "[key.id].once:x".toList ≠ [] := by decide
  have noDot : "[key.id].once:x".toList.head? ≠ some '.' := by decide
  obtain ⟨bind, -, -, arg, argument, -, on, -⟩ :=
    spellings_agree held noDot (some "a &lt; b".toList) .start
  have known : arg = "[key.id]".toList := by
    rw [← withoutModifiers_of_argument argument]
    decide
  rw [known] at on
  exact ⟨held, noDot, bind, on⟩

/-- The name of a slot in the short spelling keeps what the full spelling takes for a modifier. -/
theorem slot_keeps_modifiers :
    (∀ c ∈ "a.b".toList, Text.isBlank c = false ∧ c ∉ "'\"=>/".toList) ∧
      ¬ Agree (bindingFrom "#a.b" none .start) (bindingFrom "v-slot:a.b" none .start) := by
  refine ⟨List.all_iff_forall_prop.mp (by decide), fun same => ?_⟩
  have differs : (bindingFrom "#a.b" none .start).map meaning ≠
      (bindingFrom "v-slot:a.b" none .start).map meaning := by decide
  exact differs same

end Assembly

end SfcLint
