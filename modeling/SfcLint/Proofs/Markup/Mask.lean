/-
# Masked text

The mask changes some signs `<` into another character and nothing else, so the masked text has
the places of the source. Positions do not see the difference, and restoring the signs makes the
two texts equal. A plain stretch goes on up to the first two opening braces, and an interpolation up
to the first two closing ones, so the stretches of a text are known when it is known of its parts
that no braces start in them.
-/

import SfcLint.Markup.Interpolation

namespace SfcLint.Markup

/-! ## Stretches -/

/-- The stretch has braces at its front. -/
def Segment.opens : Segment → Bool
  | .plain _ => false
  | .braced _ => true
  | .unclosed _ => true

/-- The braces that open an interpolation. -/
def braces : Text := ['\x7b', '\x7b']

theorem Segment.source_cons {c : Char} {segment : Segment} {t : Text}
    (source : segment.source = (if segment.opens then braces else []) ++ t) :
    (segment.cons c).source = (if segment.opens then braces else []) ++ c :: t := by
  cases segment <;> simp_all [Segment.cons, Segment.source, Segment.opens, braces]

/-- The stretches of what stands inside an interpolation start with one, and those of what stands
outside start with a plain one. Together they are written as the text. -/
theorem exists_segmentsFrom (inside : Bool) (t : Text) :
    ∃ first later front, segmentsFrom inside t = first :: later ∧ first.opens = inside ∧
      first.source = (if inside then braces else []) ++ front ∧
        t = front ++ later.flatMap Segment.source := by
  fun_induction segmentsFrom inside t with
  | case1 => exact ⟨_, _, [], rfl, rfl, rfl, rfl⟩
  | case2 => exact ⟨_, _, [], rfl, rfl, rfl, rfl⟩
  | case3 t ih =>
    obtain ⟨first, later, front, split, opens, source, rfl⟩ := ih
    refine ⟨_, _, [], rfl, rfl, rfl, ?_⟩
    rw [split, List.flatMap_cons, source]
    rfl
  | case4 t ih =>
    obtain ⟨first, later, front, split, opens, source, rfl⟩ := ih
    refine ⟨_, _, ['\x7d', '\x7d'], rfl, rfl, rfl, ?_⟩
    rw [split, List.flatMap_cons, source]
    rfl
  | case5 inside c t _ _ ih =>
    obtain ⟨first, later, front, split, opens, source, rfl⟩ := ih
    refine ⟨first.cons c, later, c :: front, by rw [split]; rfl, ?_, ?_, rfl⟩
    · cases first <;> exact opens
    · rw [← opens] at source ⊢
      exact Segment.source_cons source

/-- The stretches of a text are written as the text. -/
theorem flatMap_source_segments (t : Text) : (segments t).flatMap Segment.source = t := by
  obtain ⟨first, later, front, split, -, source, whole⟩ := exists_segmentsFrom false t
  rw [segments, split, List.flatMap_cons, source]
  exact whole.symm

/-! ## Hidden signs -/

/-- The second text is the first one with some of its signs `<` masked. -/
inductive Hides : Text → Text → Prop
  | nil : Hides [] []
  | same (c : Char) {s t : Text} : Hides s t → Hides (c :: s) (c :: t)
  | hidden {s t : Text} : Hides s t → Hides ('<' :: s) (mask :: t)

theorem Hides.refl : ∀ t : Text, Hides t t
  | [] => .nil
  | c :: t => .same c (refl t)

theorem Hides.append {s t later masked : Text} (hides : Hides s t) (rest : Hides later masked) :
    Hides (s ++ later) (t ++ masked) := by
  induction hides with
  | nil => exact rest
  | same c _ ih => exact .same c ih
  | hidden _ ih => exact .hidden ih

theorem hides_masked (t : Text) : Hides t (masked t) := by
  induction t with
  | nil => exact .nil
  | cons c t ih =>
    by_cases sign : c = '<'
    · subst sign
      exact .hidden ih
    · rw [masked, List.map_cons, if_neg sign]
      exact .same c ih

theorem hides_maskedSource (segment : Segment) : Hides segment.source segment.maskedSource := by
  cases segment with
  | plain t => exact .refl _
  | braced t =>
    rw [Segment.maskedSource]
    split
    · exact .refl _
    · exact hides_masked _
  | unclosed t => exact .refl _

theorem hides_flatMap (segments : List Segment) :
    Hides (segments.flatMap Segment.source) (segments.flatMap Segment.maskedSource) := by
  induction segments with
  | nil => exact .nil
  | cons segment segments ih => exact (hides_maskedSource segment).append ih

/-- The text from which the tags are read hides signs of the source, and nothing else. -/
theorem hides_maskInterpolations (t : Text) : Hides t (maskInterpolations t) := by
  have hides := hides_flatMap (segments t)
  rwa [flatMap_source_segments] at hides

namespace Hides

variable {s t : Text}

theorem length_eq (hides : Hides s t) : t.length = s.length := by
  induction hides with
  | nil => rfl
  | same c _ ih => simp [ih]
  | hidden _ ih => simp [ih]

theorem drop (hides : Hides s t) (n : Nat) : Hides (s.drop n) (t.drop n) := by
  induction hides generalizing n with
  | nil => simpa using Hides.nil
  | same c rest ih =>
    cases n with
    | zero => exact .same c rest
    | succ n => exact ih n
  | hidden rest ih =>
    cases n with
    | zero => exact .hidden rest
    | succ n => exact ih n

theorem take (hides : Hides s t) (n : Nat) : Hides (s.take n) (t.take n) := by
  induction hides generalizing n with
  | nil => simpa using Hides.nil
  | same c rest ih =>
    cases n with
    | zero => exact .nil
    | succ n => exact .same c (ih n)
  | hidden rest ih =>
    cases n with
    | zero => exact .nil
    | succ n => exact .hidden (ih n)

theorem unmasked_eq (hides : Hides s t) : unmasked t = unmasked s := by
  induction hides with
  | nil => rfl
  | same c _ ih => exact congrArg (_ :: ·) ih
  | hidden _ ih => exact congrArg ('<' :: ·) ih

theorem head_eq (hides : Hides s t) (sign : t.head? = some '<') : s.head? = some '<' := by
  cases hides with
  | nil => exact sign
  | same c _ => exact sign
  | hidden _ => rfl

/-- What starts the masked text starts the source, if the mask does not stand in it. -/
theorem starts_of_starts {front : Text} (hides : Hides s t) (plain : mask ∉ front)
    (starts : front <+: t) : front <+: s := by
  induction front generalizing s t with
  | nil => exact List.nil_prefix
  | cons c front ih =>
    rw [List.mem_cons, not_or] at plain
    cases hides with
    | nil => simp at starts
    | same d rest =>
      rw [List.cons_prefix_cons] at starts ⊢
      exact ⟨starts.1, ih rest plain.2 starts.2⟩
    | hidden rest =>
      rw [List.cons_prefix_cons] at starts
      exact absurd starts.1.symm plain.1

end Hides

/-! ## Positions -/

theorem advance_unmasked (p : Position) (c : Char) :
    p.advance (if c = mask then '<' else c) = p.advance c := by
  by_cases sign : c = mask
  · rw [if_pos sign, sign]
    rfl
  · rw [if_neg sign]

/-- Restoring the signs moves nothing. -/
theorem after_unmasked (p : Position) (t : Text) : p.after (unmasked t) = p.after t := by
  induction t generalizing p with
  | nil => rfl
  | cons c t ih =>
    rw [unmasked, List.map_cons, Position.after_cons, Position.after_cons, advance_unmasked]
    exact ih _

theorem Hides.after_eq {s t : Text} (hides : Hides s t) (p : Position) : p.after t = p.after s := by
  rw [← after_unmasked, hides.unmasked_eq, after_unmasked]

/-- The masked text has the positions of the source. -/
theorem Hides.positionAt_eq {s t : Text} (hides : Hides s t) (n : Nat) :
    t.positionAt (n : Int) = s.positionAt (n : Int) := (hides.take n).after_eq Position.start

@[simp]
theorem unmasked_append (s t : Text) : unmasked (s ++ t) = unmasked s ++ unmasked t :=
  List.map_append

/-! ## Texts without braces -/

/-- The braces that close an interpolation. -/
def closingBraces : Text := ['\x7d', '\x7d']

/-- The sign does not start anywhere in the first text, also not to end in the second one, which
follows. -/
def NoneStarts (sign : Text) : Text → Text → Prop
  | [], _ => True
  | c :: t, later => ¬ sign <+: c :: (t ++ later) ∧ NoneStarts sign t later

variable {sign t later : Text} {c : Char} {first : Text} {segments' : List Segment}

theorem noneStarts_of_no_infix (absent : ¬ sign <:+: t) : NoneStarts sign t [] := by
  induction t with
  | nil => trivial
  | cons c t ih =>
    rw [List.infix_cons_iff, not_or] at absent
    exact ⟨by simpa using absent.1, ih absent.2⟩

theorem segmentsFrom_false_cons (other : ¬ braces <+: c :: t) :
    segmentsFrom false (c :: t) = consSegment c (segmentsFrom false t) := by
  rw [segmentsFrom.eq_def]
  split
  next => contradiction
  next => contradiction
  next same => exact absurd ⟨_, same.symm⟩ other
  next => contradiction
  next same _ _ => rw [(List.cons.inj same).1, (List.cons.inj same).2]

theorem segmentsFrom_true_cons (other : ¬ closingBraces <+: c :: t) :
    segmentsFrom true (c :: t) = consSegment c (segmentsFrom true t) := by
  rw [segmentsFrom.eq_def]
  split
  next => contradiction
  next => contradiction
  next => contradiction
  next same => exact absurd ⟨_, same.symm⟩ other
  next same _ _ => rw [(List.cons.inj same).1, (List.cons.inj same).2]

/-- Text in which no interpolation opens belongs to the plain stretch that follows. -/
theorem segmentsFrom_plain (none : NoneStarts braces t later)
    (split : segmentsFrom false later = .plain first :: segments') :
    segmentsFrom false (t ++ later) = .plain (t ++ first) :: segments' := by
  induction t with
  | nil => exact split
  | cons c t ih =>
    rw [List.cons_append, segmentsFrom_false_cons none.1, ih none.2]
    rfl

/-- Text in which the interpolation does not close belongs to it. -/
theorem segmentsFrom_braced (none : NoneStarts closingBraces t later)
    (split : segmentsFrom true later = .braced first :: segments') :
    segmentsFrom true (t ++ later) = .braced (t ++ first) :: segments' := by
  induction t with
  | nil => exact split
  | cons c t ih =>
    rw [List.cons_append, segmentsFrom_true_cons none.1, ih none.2]
    rfl

/-- A text without opening braces is one plain stretch. -/
theorem segments_of_no_braces (absent : ¬ braces <:+: t) : segments t = [.plain t] := by
  have none := noneStarts_of_no_infix absent
  have whole := segmentsFrom_plain none (show segmentsFrom false [] = [.plain []] from rfl)
  rwa [List.append_nil] at whole

/-- A text without opening braces is one text node, unless it is blank. -/
theorem nodesOfRun_of_no_braces (position : Position) (absent : ¬ braces <:+: t) :
    nodesOfRun position t = .ok (if Text.allBlank t then [] else [.text t position]) := by
  rw [nodesOfRun, segments_of_no_braces absent]
  rfl

theorem unmasked_eq_brace_iff : (if c = mask then '<' else c) = '\x7b' ↔ c = '\x7b' := by
  by_cases sign : c = mask
  · rw [if_pos sign, sign]
    decide
  · rw [if_neg sign]

theorem braces_prefix_unmasked_iff : braces <+: unmasked t ↔ braces <+: t := by
  rcases t with _ | ⟨c, _ | ⟨d, t⟩⟩
  · rfl
  · simp [braces, unmasked, List.cons_prefix_cons]
  · simp only [braces, unmasked, List.map_cons, List.cons_prefix_cons, eq_comm,
      unmasked_eq_brace_iff, List.nil_prefix]

/-- Restoring signs makes no braces. -/
theorem braces_infix_unmasked_iff : braces <:+: unmasked t ↔ braces <:+: t := by
  induction t with
  | nil => rfl
  | cons c t ih =>
    rw [List.infix_cons_iff, ← ih, ← braces_prefix_unmasked_iff]
    exact List.infix_cons_iff

end SfcLint.Markup
