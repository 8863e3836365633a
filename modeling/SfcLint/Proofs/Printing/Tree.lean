/-
# Printed trees

A template can be written down from its tree: an element as its start tag, its children and its end
tag, an interpolation between braces, and a text as it is. The nodes that are to be read from what
is written stand where their print starts, and the bindings of an element are the normal forms of
its attributes, each where its name starts.
-/

import Mathlib.Data.List.Infix
import SfcLint.Component.Assembly
import SfcLint.Proofs.Markup.Mask
import SfcLint.Proofs.Text.Blank
import SfcLint.Proofs.Text.Case

namespace SfcLint.Printing

open Markup (braces closingBraces mask blockEnd plainTextElements)

/-- An attribute with a value. -/
structure Assignment where
  name : Text
  value : Text
  deriving DecidableEq, Repr

/-- A tree to be printed. -/
inductive Tree
  | element (name : Text) (attributes : List Assignment) (children : List Tree)
  | text (content : Text)
  | interpolation (content : Text)

/-! ## What is written -/

/-- The attribute with its value in double quotes. -/
def Assignment.written (pair : Assignment) : Text :=
  pair.name ++ ('=' :: '"' :: (pair.value ++ ['"']))

/-- The attribute behind a space. -/
def Assignment.print (pair : Assignment) : Text := ' ' :: pair.written

/-- The attributes of a start tag. -/
def printAttributes (attributes : List Assignment) : Text := attributes.flatMap Assignment.print

/-- The start tag of an element. -/
def startTag (name : Text) (attributes : List Assignment) : Text :=
  '<' :: (name ++ (printAttributes attributes ++ ['>']))

/-- The end tag of an element. -/
def endTag (name : Text) : Text := '<' :: '/' :: (name ++ ['>'])

/-- A text with a space on each side. -/
def spaced (t : Text) : Text := ' ' :: (t ++ [' '])

namespace Tree

mutual

/-- The tree as it is written. -/
def print : Tree → Text
  | element name attributes children =>
      startTag name attributes ++ (printAll children ++ endTag name)
  | text content => content
  | interpolation content => braces ++ (spaced content ++ closingBraces)

/-- Some trees, one after the other. -/
def printAll : List Tree → Text
  | [] => []
  | tree :: trees => print tree ++ printAll trees

end

/-- The file whose template has the given trees below its root. -/
def document (trees : List Tree) : Text :=
  startTag "template" [] ++ (printAll trees ++ endTag "template")

end Tree

/-! ## What is to be read -/

/-- The normal forms of attributes that are printed from a position on. -/
def bindingsAt : Position → List Assignment → List Binding
  | _, [] => []
  | position, pair :: attributes =>
      .ofAttribute pair.name (some pair.value) (position.advance ' ') ::
        bindingsAt (position.after pair.print) attributes

namespace Tree

mutual

/-- The node of a tree that is printed from a position on. -/
def nodeAt : Position → Tree → Node
  | position, element name attributes children =>
      .element name (bindingsAt (position.after ('<' :: name)) attributes)
        (nodesAt (position.after (startTag name attributes)) children) position
  | position, text content => .text content position
  | position, interpolation content => .interpolation content position

/-- The nodes of trees that are printed from a position on. -/
def nodesAt : Position → List Tree → List Node
  | _, [] => []
  | position, tree :: trees =>
      nodeAt position tree :: nodesAt (position.after (print tree)) trees

end

end Tree

/-! ## What can be printed -/

/-- A character for the names of elements: a small letter, a digit or a hyphen. -/
def isElementChar (c : Char) : Bool :=
  ('a' ≤ c && c ≤ 'z') || ('0' ≤ c && c ≤ '9') || c == '-'

/-- A character for the names of attributes: one that ends neither a name nor a tag. -/
def isAttributeChar (c : Char) : Bool :=
  !Text.isBlank c && Pattern.outside "\"'>/=\x7b" c

/-- The name of an element that has content, and not just plain text. -/
structure ElementName (name : Text) : Prop where
  starts : ∀ c ∈ name.head?, ('a' ≤ c && c ≤ 'z') = true
  nonempty : name ≠ []
  letters : ∀ c ∈ name, isElementChar c = true
  content : Assembly.voidElements.contains name = false
  markup : plainTextElements.contains name = false

/-- An attribute whose value stands for itself between double quotes and opens no interpolation. -/
structure Assignment.Printable (pair : Assignment) : Prop where
  nonempty : pair.name ≠ []
  letters : ∀ c ∈ pair.name, isAttributeChar c = true
  quote : '"' ∉ pair.value
  reference : '&' ∉ pair.value
  braces : ¬ braces <:+: pair.value
  mask : mask ∉ pair.value

/-- A text that stands for itself between tags and opens no interpolation. -/
structure TextContent (t : Text) : Prop where
  visible : Text.allBlank t = false
  sign : '<' ∉ t
  reference : '&' ∉ t
  brace : '\x7b' ∉ t
  mask : mask ∉ t

/-- An expression that stands for itself in an interpolation. It may hold the sign `<`, but not in
the start of an end tag of a block. -/
structure Expression (t : Text) : Prop where
  trimmed : Text.strip t = t
  reference : '&' ∉ t
  open? : ¬ closingBraces <:+: t
  mask : mask ∉ t
  inside : blockEnd.occursIn t = false

namespace Tree

/-- The tree is a text. -/
def isText : Tree → Bool
  | text _ => true
  | _ => false

mutual

/-- The names and contents in the tree stand for themselves, and no two texts are neighbours. -/
def Printable : Tree → Prop
  | element name attributes children =>
      ElementName name ∧ (∀ pair ∈ attributes, pair.Printable) ∧ AllPrintable children
  | text content => TextContent content
  | interpolation content => Expression content

/-- The trees can be printed one after the other. -/
def AllPrintable : List Tree → Prop
  | [] => True
  | tree :: trees =>
      Printable tree ∧ (isText tree = true → trees.head?.any isText = false) ∧ AllPrintable trees

end

end Tree

instance (name : Text) : Decidable (ElementName name) :=
  decidable_of_iff
    (name.head?.all (fun c => 'a' ≤ c && c ≤ 'z') = true ∧ name ≠ [] ∧
      name.all isElementChar = true ∧ Assembly.voidElements.contains name = false ∧
        plainTextElements.contains name = false)
    ⟨fun ⟨starts, nonempty, letters, content, markup⟩ =>
        ⟨(Option.all_eq_true _ _).mp starts, nonempty, List.all_eq_true.mp letters, content, markup⟩,
      fun ⟨starts, nonempty, letters, content, markup⟩ =>
        ⟨(Option.all_eq_true _ _).mpr starts, nonempty, List.all_eq_true.mpr letters, content,
          markup⟩⟩

instance (pair : Assignment) : Decidable pair.Printable :=
  decidable_of_iff
    (pair.name ≠ [] ∧ pair.name.all isAttributeChar = true ∧ '"' ∉ pair.value ∧
      '&' ∉ pair.value ∧ ¬ braces <:+: pair.value ∧ mask ∉ pair.value)
    ⟨fun ⟨nonempty, letters, quote, reference, braces, mask⟩ =>
        ⟨nonempty, List.all_eq_true.mp letters, quote, reference, braces, mask⟩,
      fun ⟨nonempty, letters, quote, reference, braces, mask⟩ =>
        ⟨nonempty, List.all_eq_true.mpr letters, quote, reference, braces, mask⟩⟩

instance (t : Text) : Decidable (TextContent t) :=
  decidable_of_iff (Text.allBlank t = false ∧ '<' ∉ t ∧ '&' ∉ t ∧ '\x7b' ∉ t ∧ mask ∉ t)
    ⟨fun ⟨visible, sign, reference, brace, mask⟩ => ⟨visible, sign, reference, brace, mask⟩,
      fun ⟨visible, sign, reference, brace, mask⟩ => ⟨visible, sign, reference, brace, mask⟩⟩

instance (t : Text) : Decidable (Expression t) :=
  decidable_of_iff
    (Text.strip t = t ∧ '&' ∉ t ∧ ¬ closingBraces <:+: t ∧ mask ∉ t ∧ blockEnd.occursIn t = false)
    ⟨fun ⟨trimmed, reference, open?, mask, inside⟩ => ⟨trimmed, reference, open?, mask, inside⟩,
      fun ⟨trimmed, reference, open?, mask, inside⟩ => ⟨trimmed, reference, open?, mask, inside⟩⟩

namespace Tree

mutual

/-- Whether a tree can be printed. -/
def decidePrintable : (tree : Tree) → Decidable tree.Printable
  | element name attributes children =>
      let _ := decideAllPrintable children
      inferInstanceAs (Decidable (ElementName name ∧
        (∀ pair ∈ attributes, pair.Printable) ∧ AllPrintable children))
  | text content => inferInstanceAs (Decidable (TextContent content))
  | interpolation content => inferInstanceAs (Decidable (Expression content))

/-- Whether trees can be printed one after the other. -/
def decideAllPrintable : (trees : List Tree) → Decidable (AllPrintable trees)
  | [] => inferInstanceAs (Decidable True)
  | tree :: trees =>
      let _ := decidePrintable tree
      let _ := decideAllPrintable trees
      inferInstanceAs (Decidable (Printable tree ∧
        (isText tree = true → trees.head?.any isText = false) ∧ AllPrintable trees))

end

instance : DecidablePred AllPrintable := decideAllPrintable

end Tree

/-! ## Characters -/

theorem ne_of_test {test : Char → Bool} {c sign : Char} (passes : test c = true)
    (symbol : test sign = false) : c ≠ sign := by
  rintro rfl
  rw [passes] at symbol
  contradiction

theorem code_of_isElementChar {c : Char} (letter : isElementChar c = true) :
    97 ≤ c.toNat ∧ c.toNat ≤ 122 ∨ 48 ≤ c.toNat ∧ c.toNat ≤ 57 ∨ c.toNat = 45 := by
  simp only [isElementChar, Char.le_def, UInt32.le_iff_toNat_le, Bool.or_eq_true, Bool.and_eq_true,
    decide_eq_true_eq, beq_iff_eq] at letter
  rcases letter with (small | digit) | rfl
  · exact .inl small
  · exact .inr (.inl digit)
  · exact .inr (.inr rfl)

theorem isBlank_of_isElementChar {c : Char} (letter : isElementChar c = true) :
    Text.isBlank c = false := by
  have code := code_of_isElementChar letter
  simp only [Text.isBlank, Bool.or_eq_false_iff, Bool.and_eq_false_iff, decide_eq_false_iff_not,
    beq_eq_false_iff_ne]
  omega

theorem lower_of_isElementChar {name : Text} (letters : ∀ c ∈ name, isElementChar c = true) :
    Text.lower name = name := by
  refine Text.lower_eq_self_iff.mpr fun c member => ?_
  have below : c.toNat < 128 := by
    have code := code_of_isElementChar (letters c member)
    omega
  exact Text.of_sevenBit (P := fun c => isElementChar c = true → Text.IsSmall c) (by decide)
    below (letters c member)

/-- Letters and digits of any script and the signs of directives may stand in the names of
attributes. -/
theorem isAttributeChar_of_isWordChar {c : Char}
    (letter : (Text.isWordChar c || Pattern.among "-:@#." c) = true) :
    isAttributeChar c = true := by
  have signs : "-:@#.".toList.all (fun sign => !Text.isBlank sign) = true := by decide
  have visible : Text.isBlank c = false := by
    rcases (Bool.or_eq_true _ _).mp letter with word | sign
    · rw [Bool.eq_false_iff]
      intro blank
      have name := Text.isNameChar_of_isBlank blank
      rw [Text.isNameChar, word] at name
      contradiction
    · exact (Bool.not_eq_true' _).mp
        (List.all_eq_true.mp signs c (List.contains_iff_mem.mp sign))
  have other (sign : Char)
      (symbol : (Text.isWordChar sign || Pattern.among "-:@#." sign) = false) : c ≠ sign := by
    rintro rfl
    rw [letter] at symbol
    contradiction
  simp [isAttributeChar, visible, Pattern.outside, other '"' (by decide), other '\'' (by decide),
    other '>' (by decide), other '/' (by decide), other '=' (by decide), other '\x7b' (by decide)]

end SfcLint.Printing
