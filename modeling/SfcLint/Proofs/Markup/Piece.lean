/-
# Pieces of text

What a stretch of markup shows differs from what is written where characters are written by their
number or name. A piece is a part that is replaced as a whole: a letter that shows itself, a
reference with the characters that it stands for, or markup that shows nothing. The pieces of a
stretch keep both sides apart and tell where a character that is shown is written.
-/

import SfcLint.Markup.CharacterReference

namespace SfcLint.Markup

/-- A part of a text as it is written and what it shows. -/
structure Piece where
  written : Text
  shown : Text
  deriving DecidableEq, Repr

/-- A letter shows itself. -/
def Piece.letter (c : Char) : Piece := ⟨[c], [c]⟩

/-- What the pieces are written as. -/
def writtenAs (pieces : List Piece) : Text := pieces.flatMap (·.written)

/-- What the pieces show. -/
def shownAs (pieces : List Piece) : Text := pieces.flatMap (·.shown)

section Pieces

variable (p : Piece) (pieces more : List Piece)

@[simp]
theorem writtenAs_nil : writtenAs [] = [] := rfl

@[simp]
theorem writtenAs_cons : writtenAs (p :: pieces) = p.written ++ writtenAs pieces := rfl

@[simp]
theorem writtenAs_append : writtenAs (pieces ++ more) = writtenAs pieces ++ writtenAs more :=
  List.flatMap_append

@[simp]
theorem shownAs_nil : shownAs [] = [] := rfl

@[simp]
theorem shownAs_cons : shownAs (p :: pieces) = p.shown ++ shownAs pieces := rfl

@[simp]
theorem shownAs_append : shownAs (pieces ++ more) = shownAs pieces ++ shownAs more :=
  List.flatMap_append

@[simp]
theorem writtenAs_letters (t : Text) : writtenAs (t.map Piece.letter) = t := by
  induction t with
  | nil => rfl
  | cons c t ih => rw [List.map_cons, writtenAs_cons, ih]; rfl

@[simp]
theorem shownAs_letters (t : Text) : shownAs (t.map Piece.letter) = t := by
  induction t with
  | nil => rfl
  | cons c t ih => rw [List.map_cons, shownAs_cons, ih]; rfl

end Pieces

/-- The text falls into references wherever one is read, and single letters elsewhere. -/
inductive Referencing : Text → List Piece → Prop
  | nil : Referencing [] []
  | letter {c : Char} {t : Text} {pieces : List Piece} :
      (c = '&' → reference? t = .ok none) → Referencing t pieces →
        Referencing (c :: t) (.letter c :: pieces)
  | reference {t characters : Text} {length : Nat} {pieces : List Piece} :
      reference? t = .ok (some (characters, length)) → Referencing (t.drop length) pieces →
        Referencing ('&' :: t) (⟨'&' :: t.take length, characters⟩ :: pieces)

theorem Referencing.written {t : Text} {pieces : List Piece} (cut : Referencing t pieces) :
    writtenAs pieces = t := by
  induction cut with
  | nil => rfl
  | letter _ _ ih => rw [writtenAs_cons, ih]; rfl
  | reference _ _ ih => rw [writtenAs_cons, ih, List.cons_append, List.take_append_drop]

theorem unescapeFrom_eq (passing : Nat) (t : Text) :
    unescapeFrom passing t = unescapeFrom 0 (t.drop passing) := by
  induction passing generalizing t with
  | zero => rfl
  | succ passing ih =>
    cases t with
    | nil => rfl
    | cons c t => exact ih t

theorem unescapeFrom_letter {c : Char} {t : Text} (plain : c = '&' → reference? t = .ok none) :
    unescapeFrom 0 (c :: t) = (c :: ·) <$> unescapeFrom 0 t := by
  rw [unescapeFrom]
  by_cases sign : c = '&'
  · subst sign
    rw [plain rfl]
    rfl
  · rw [if_neg sign]
    rfl

theorem unescapeFrom_reference {t characters : Text} {length : Nat}
    (found : reference? t = .ok (some (characters, length))) :
    unescapeFrom 0 ('&' :: t) = (characters ++ ·) <$> unescapeFrom 0 (t.drop length) := by
  rw [unescapeFrom, if_pos rfl, found, ← unescapeFrom_eq]
  rfl

theorem unescapeFrom_failing {t : Text} {failure : Text.LongNumeral}
    (fails : reference? t = .error failure) : unescapeFrom 0 ('&' :: t) = .error failure := by
  rw [unescapeFrom, if_pos rfl, fails]
  rfl

/-- Replacing references shows what the pieces show. -/
theorem unescape_eq_ok_iff {t shown : Text} :
    unescape t = .ok shown ↔ ∃ pieces, Referencing t pieces ∧ shownAs pieces = shown := by
  constructor
  · intro found
    -- A reference takes several characters at once, so the induction is on the length of the text.
    induction length : t.length using Nat.strongRecOn generalizing t shown with
    | ind n ih =>
    subst length
    cases t with
    | nil =>
      obtain rfl := Except.ok.inj found
      exact ⟨[], .nil, rfl⟩
    | cons c t =>
      -- A sign that starts no reference is a letter like any other.
      have letter (plain : c = '&' → reference? t = .ok none) :
          ∃ pieces, Referencing (c :: t) pieces ∧ shownAs pieces = shown := by
        rw [unescape, unescapeFrom_letter plain] at found
        cases later : unescapeFrom 0 t with
        | error failure => simp [later, Functor.map, Except.map] at found
        | ok behind =>
          simp only [later, Functor.map, Except.map, Except.ok.injEq] at found
          obtain ⟨pieces, cut, rfl⟩ := ih t.length (by simp) later rfl
          exact ⟨_, .letter plain cut, found⟩
      by_cases sign : c = '&'
      · subst sign
        cases read : reference? t with
        | error failure =>
          rw [unescape, unescapeFrom_failing read] at found
          contradiction
        | ok result =>
          rcases result with _ | ⟨characters, length⟩
          · exact letter fun _ => read
          · rw [unescape, unescapeFrom_reference read] at found
            cases later : unescapeFrom 0 (t.drop length) with
            | error failure => simp [later, Functor.map, Except.map] at found
            | ok behind =>
              simp only [later, Functor.map, Except.map, Except.ok.injEq] at found
              have shorter : (t.drop length).length < ('&' :: t).length := by
                rw [List.length_drop, List.length_cons]
                omega
              obtain ⟨pieces, cut, rfl⟩ := ih _ shorter later rfl
              exact ⟨_, .reference read cut, found⟩
      · exact letter fun same => absurd same sign
  · rintro ⟨pieces, cut, rfl⟩
    rw [unescape]
    induction cut with
    | nil => rfl
    | letter plain _ ih => rw [unescapeFrom_letter plain, ih]; rfl
    | reference read _ ih => rw [unescapeFrom_reference read, ih]; rfl

/-- The text is shown as written, or its references are replaced. -/
def Showing (t : Text) (pieces : List Piece) : Prop :=
  pieces = t.map Piece.letter ∨ Referencing t pieces

theorem Showing.written {t : Text} {pieces : List Piece} (shows : Showing t pieces) :
    writtenAs pieces = t := by
  rcases shows with rfl | cut
  · exact writtenAs_letters t
  · exact cut.written

end SfcLint.Markup
