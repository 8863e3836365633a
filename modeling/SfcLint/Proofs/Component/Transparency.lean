/-
# The mask is not seen

Source text with signs `<` masked makes the same component as without, if the signs that are masked
open nothing where the tokenizer comes to them, and if no tag says something else with the mask. A
stretch of text is then read in fewer steps, because no masked sign ends a step, but it shows the
same.
-/

import SfcLint.Proofs.Component.Resemblance
import SfcLint.Proofs.Markup.Enclosure
import SfcLint.Proofs.Markup.Untouched

namespace SfcLint.Assembly

open Markup (Between Hides PassedOver Step Stretch TextStep TokenContent angleStep? brokenLength
  closes decoded_eq_ok_iff elementAfter outcome plainTextElements step? step?_fits tokensAt
  tokensAt_end tokensAt_eq unmasked)

/-! ## Reading text -/

/-- The state after a stretch of text. -/
def State.withText (state : State) (position : Position) (t : Text) : State :=
  match state.region with
  | .template draft => { state with region := .template (draft.addText position t) }
  | _ => state

theorem step_text (source : Text) (state : State) (n : Nat) (position : Position) (t : Text) :
    step source state ⟨n, position, .text t⟩ = .ok (state.withText position t) := by
  obtain ⟨markup, scripts, plainSeen, setupSeen, region⟩ := state
  cases region <;> rfl

theorem State.withText_withText (state : State) (position later : Position) (t u : Text) :
    (state.withText position (t ++ u)).Resembles
      ((state.withText position t).withText later u) := by
  obtain ⟨markup, scripts, plainSeen, setupSeen, region⟩ := state
  cases region with
  | template draft =>
    exact ⟨rfl, rfl, rfl, rfl, .template (draft.settled_addText_addText position later t u)⟩
  | _ => exact .refl _

theorem State.Resembles.withText {state state' : State} (alike : state.Resembles state')
    {t t' : Text} (shows : unmasked t' = unmasked t) (position : Position) :
    (state.withText position t).Resembles (state'.withText position t') := by
  obtain ⟨markup, scripts, plainSeen, setupSeen, region⟩ := state
  obtain ⟨markup', scripts', plainSeen', setupSeen', region'⟩ := state'
  have regions : region.Resembles region' := alike.region
  cases regions with
  | template drafts =>
    exact alike.withRegion (.template (Draft.settled_addText drafts shows position))
  | _ => exact alike

/-- Outside templates text changes nothing, and a template that is open makes no component. -/
theorem State.withText_eq_of_finish {state last : State} {position : Position} {t : Text}
    (alike : (state.withText position t).Resembles last) {component : Component}
    (made : finish last = .ok component) : state.withText position t = state := by
  obtain ⟨markup, scripts, plainSeen, setupSeen, region⟩ := state
  cases region with
  | template draft =>
    obtain ⟨-, -, -, -, regions⟩ := alike
    cases inside : last.region with
    | template => exact absurd made (not_finish_of_template inside)
    | _ =>
      rw [inside] at regions
      cases regions
  | _ => rfl

section Stretches

variable {t shown : Text} {element : Option Text} {n m : Nat}

/-- A stretch of text changes a state like one token. -/
theorem run_stretch (source : Text) (stretch : Stretch t element n shown m) (onward : n < m)
    (state : State) :
    ∃ after, (state.withText (t.positionAt (n : Int)) shown).Resembles after ∧
      run source state (tokensAt t n element) = run source after (tokensAt t m element) := by
  induction stretch generalizing state with
  | nil => exact absurd onward (Nat.lt_irrefl _)
  | @text n m length shown later nonempty found rest ih =>
    have first : run source state (tokensAt t n element) =
        run source (state.withText (t.positionAt (n : Int)) shown)
          (tokensAt t (n + length) element) := by
      rw [tokensAt_eq nonempty, found]
      simp only [Option.map_some, Option.toList_some, List.singleton_append, run, step_text, bind,
        Except.bind]
    cases rest with
    | nil =>
      refine ⟨_, ?_, first⟩
      rw [List.append_nil]
      exact .refl _
    | @text _ _ length' _ _ nonempty' found' rest' =>
      have positive : 0 < length' := (step?_fits nonempty' found').onward
      have reaches := rest'.le
      obtain ⟨after, alike, same⟩ := ih (by omega) (state.withText (t.positionAt (n : Int)) shown)
      exact ⟨after, (state.withText_withText _ _ _ _).trans alike, first.trans same⟩

end Stretches

/-! ## Two readings of one source -/

/-- From a place on, whatever component the first text makes, the second makes too. -/
def Follows (source s t : Text) (n : Nat) (element : Option Text) : Prop :=
  ∀ (state state' last : State) (component : Component), state.Resembles state' →
    run source state (tokensAt s n element) = .ok last → finish last = .ok component →
      ∃ last', run source state' (tokensAt t n element) = .ok last' ∧
        finish last' = .ok component

section Follow

variable {source s t : Text} {element : Option Text} {n m : Nat}

theorem follows_end (ended : tokensAt s n element = []) (ended' : tokensAt t n element = []) :
    Follows source s t n element := by
  intro state state' last component alike ends made
  rw [ended] at ends
  obtain rfl := Except.ok.inj ends
  exact ⟨state', by rw [ended']; rfl, alike.finish made⟩

/-- A reading that fails makes no component. -/
theorem follows_failing {shown : Text} {failure : Markup.TokenFailure}
    (stretch : Stretch s element n shown m) (nonempty : s.drop m ≠ [])
    (fails : step? element (s.drop m) = .error failure) : Follows source s t n element := by
  intro state state' last component alike ends made
  have failing (state : State) :
      run source state (tokensAt s m element) = .error (.unreadable failure) := by
    rw [tokensAt_eq nonempty, fails]
    rfl
  rcases Nat.eq_or_lt_of_le stretch.le with rfl | onward
  · rw [failing] at ends
    contradiction
  · obtain ⟨after, -, same⟩ := run_stretch source stretch onward state
    rw [same, failing] at ends
    contradiction

/-- Both texts show the same up to a place. -/
theorem follows_stretch {shown shown' : Text} (onward : n < m)
    (stretch : Stretch s element n shown m) (stretch' : Stretch t element n shown' m)
    (place : t.positionAt (n : Int) = s.positionAt (n : Int))
    (shows : unmasked shown' = unmasked shown) (behind : Follows source s t m element) :
    Follows source s t n element := by
  intro state state' last component alike ends made
  obtain ⟨after, front, same⟩ := run_stretch source stretch onward state
  obtain ⟨after', front', same'⟩ := run_stretch source stretch' onward state'
  rw [place] at front'
  rw [same] at ends
  rw [same']
  -- The states after the stretch resemble each other over the states after one token.
  have middle : State.Resembles after after' :=
    (front.symm.trans (alike.withText shows _)).trans front'
  exact behind after after' last component middle ends made

/-- Only text is left, and the second text stops before it. -/
theorem follows_stop {shown : Text} (stretch : Stretch s element n shown m)
    (ended : tokensAt s m element = []) (stops : tokensAt t n element = []) :
    Follows source s t n element := by
  intro state state' last component alike ends made
  rcases Nat.eq_or_lt_of_le stretch.le with rfl | onward
  · exact follows_end ended stops state state' last component alike ends made
  · obtain ⟨after, front, same⟩ := run_stretch source stretch onward state
    rw [same, ended] at ends
    obtain rfl := Except.ok.inj ends
    refine ⟨state', by rw [stops]; rfl, ?_⟩
    rw [State.withText_eq_of_finish front made] at front
    exact (front.symm.trans alike).finish made

/-- A tag of the same name leads into the same element. -/
theorem element_of_shape {u v : Text} {position : Position} {step step' : Step}
    (shape : step'.shape = step.shape)
    (tags : ∀ content ∈ step.content, ∀ content' ∈ step'.content,
      SameTag position content content')
    (fits : step.Fits element u) (fits' : step'.Fits element v) :
    step'.element = step.element := by
  rw [fits.next, fits'.next]
  have shapes : step'.content.map TokenContent.shape = step.content.map TokenContent.shape :=
    congrArg Prod.fst shape
  cases read : step.content with
  | none =>
    rw [read, Option.map_none, Option.map_eq_none_iff] at shapes
    rw [shapes]
  | some content =>
    rw [read, Option.map_some, Option.map_eq_some_iff] at shapes
    obtain ⟨content', read', -⟩ := shapes
    rw [read']
    have tag := tags content read content' read'
    cases tag <;> rfl

/-- Both texts have the same token at a place. -/
theorem follows_step {step step' : Step} (nonempty : s.drop n ≠ []) (nonempty' : t.drop n ≠ [])
    (found : step? element (s.drop n) = .ok (some step))
    (found' : step? element (t.drop n) = .ok (some step'))
    (place : t.positionAt (n : Int) = s.positionAt (n : Int)) (shape : step'.shape = step.shape)
    (tags : ∀ content ∈ step.content, ∀ content' ∈ step'.content,
      SameTag (s.positionAt (n : Int)) content content')
    (behind : Follows source s t (n + step.length) step.element) :
    Follows source s t n element := by
  intro state state' last component alike ends made
  have next := element_of_shape shape tags (step?_fits nonempty found)
    (step?_fits nonempty' found')
  obtain ⟨content, length, after⟩ := step
  obtain ⟨content', length', after'⟩ := step'
  obtain ⟨shapes, rfl⟩ := Prod.mk.inj shape
  obtain rfl : after' = after := next
  rw [tokensAt_eq nonempty, found] at ends
  rw [tokensAt_eq nonempty', found', place]
  cases content with
  | none =>
    obtain rfl := Option.map_eq_none_iff.mp shapes
    exact behind state state' last component alike ends made
  | some content =>
    obtain ⟨content', rfl, same⟩ := Option.map_eq_some_iff.mp shapes
    have tag := tags content rfl content' rfl
    simp only [Option.map_some, Option.toList_some, List.singleton_append, run] at ends ⊢
    rw [Except.bind_eq_ok_iff] at ends
    obtain ⟨middle, stepped, ends⟩ := ends
    obtain ⟨middle', stepped', alike⟩ := alike.step same tag stepped
    rw [stepped']
    exact behind middle middle' last component alike ends made

end Follow

/-! ## Masked signs that open nothing -/

/-- At a sign `<` the tokenizer finds nothing that the sign could open: the sign stands alone, or
what it opens never ends. -/
def OpensNothing (u : Text) (length : Nat) : Prop :=
  angleStep? none u = .ok (some ⟨some (.text ['<']), 1, none⟩) ∧ length = 1 ∨
    angleStep? none u = .ok none ∧ length = brokenLength u

theorem OpensNothing.textStep {u : Text} {length : Nat} (nothing : OpensNothing u length)
    (starts : u.head? = some '<') : TextStep u length := by
  rcases nothing with ⟨lone, rfl⟩ | ⟨broken, rfl⟩
  · exact Markup.textStep_lone starts lone
  · exact Markup.textStep_broken starts broken

/-- Of two texts, where the second hides signs of the first, the hidden signs open nothing where
the tokenizer comes to them, and no tag says something else when they are hidden. -/
structure OnlyTextHidden (s t : Text) : Prop where
  /-- Between tags a hidden sign is text, and this text passes no sign that is not hidden. -/
  signs : ∀ n, Between s n none → (s.drop n).head? = some '<' → (t.drop n).head? ≠ some '<' →
    ∃ length, OpensNothing (s.drop n) length ∧
      ∀ j, n < j → j < n + length → (t.drop j).head? ≠ some '<'
  /-- Inside an element with plain text a hidden end tag of the element is text likewise. -/
  ends : ∀ n name, Between s n (some name) → closes name (s.drop n) = true →
    (t.drop n).head? ≠ some '<' → ∃ length, PassedOver name (s.drop n) length ∧
      ∀ j, n < j → j < n + length → (t.drop j).head? ≠ some '<'
  /-- A tag that holds a hidden sign says the same as without. -/
  tags : ∀ n element, Between s n element → (t.drop n).head? = some '<' →
    ∀ step step', step? element (s.drop n) = .ok (some step) →
      step? element (t.drop n) = .ok (some step') →
        (t.drop n).take step.length ≠ (s.drop n).take step.length →
          ∀ content ∈ step.content, ∀ content' ∈ step'.content,
            SameTag (s.positionAt (n : Int)) content content'

section Masked

variable {source s t : Text} {n : Nat} {element : Option Text}

/-- The next sign after a place, or the end of the text. -/
theorem exists_next_sign (t : Text) (inside : n < t.length) :
    ∃ m, n < m ∧ m ≤ t.length ∧ (∀ j, n < j → j < m → (t.drop j).head? ≠ some '<') ∧
      (m < t.length → (t.drop m).head? = some '<') := by
  refine ⟨n + 1 + ((t.drop (n + 1)).takeWhile (· != '<')).length, by omega, ?_, ?_, ?_⟩
  · have within := (List.takeWhile_prefix (· != '<') (l := t.drop (n + 1))).length_le
    rw [List.length_drop] at within
    omega
  · intro j after less sign
    have place : n + 1 + (j - (n + 1)) = j := by omega
    rw [← place, ← List.drop_drop] at sign
    have passed := Markup.length_takeWhile_le sign
    omega
  · intro less
    have stops := Markup.stops_at_sign (t.drop (n + 1))
    rw [List.drop_drop, List.drop_eq_nil_iff] at stops
    exact stops.resolve_left (by omega)

/-- Between the same two places both texts are read as text, and show the same. -/
theorem follows_text {m : Nat} (hides : Hides s t) (onward : n < m) (within : m ≤ s.length)
    (between : Between s n none) (between' : Between t n none)
    (steps : ∀ j, n ≤ j → j < m → Between s j none →
      ∃ length, TextStep (s.drop j) length ∧ j + length ≤ m)
    (steps' : ∀ j, n ≤ j → j < m → Between t j none →
      ∃ length, TextStep (t.drop j) length ∧ j + length ≤ m)
    (behind : Between s m none → Between t m none → Follows source s t m none) :
    Follows source s t n none := by
  have same := ((hides.drop n).take (m - n)).unescape_eq
  rcases Markup.stretch_or_failing (Nat.le_of_lt onward) within steps between with
    ⟨shown, whole, stretch⟩ | ⟨-, shown, j, failure, stretch, nonempty, fails⟩
  · have within' : m ≤ t.length := by rwa [hides.length_eq]
    rw [Text.slice] at whole
    rcases Markup.stretch_or_failing (Nat.le_of_lt onward) within' steps' between' with
      ⟨shown', whole', stretch'⟩ | ⟨⟨failure, whole'⟩, -⟩
    · rw [Text.slice] at whole'
      rw [whole, whole'] at same
      exact follows_stretch onward stretch stretch' (hides.positionAt_eq n) (Except.ok.inj same)
        (behind (stretch.between between) (stretch'.between between'))
    · -- What the first text shows, the second does not fail to show.
      rw [Text.slice] at whole'
      rw [whole, whole'] at same
      contradiction
  · exact follows_failing stretch nonempty fails

/-- What stands at the sign that is not hidden is of the same kind and length in both texts. -/
theorem outcome_angleStep? (hides : Hides s t) (sign : (t.drop n).head? = some '<') :
    outcome (angleStep? none (t.drop n)) = outcome (angleStep? none (s.drop n)) := by
  have same := (hides.drop n).unmasked_eq
  obtain ⟨masked, split⟩ := List.head?_eq_some_iff.mp sign
  obtain ⟨plain, split'⟩ := List.head?_eq_some_iff.mp ((hides.drop n).head_eq sign)
  rw [split, split'] at same ⊢
  rw [← Markup.angleStep?_unmasked, same, Markup.angleStep?_unmasked]

/-- The tokenizer comes to a place in both texts, inside the same element if in any, and from every
later place to which it comes in both the second text makes what the first makes. -/
structure AtBoth (source s t : Text) (n : Nat) (element : Option Text) : Prop where
  hides : Hides s t
  only : OnlyTextHidden s t
  between : Between s n element
  between' : Between t n element
  inside : n < s.length
  behind : ∀ m next, n < m → Between s m next → Between t m next → Follows source s t m next

theorem AtBoth.inside' (both : AtBoth source s t n element) : n < t.length := by
  rw [both.hides.length_eq]
  exact both.inside

theorem AtBoth.nonempty (both : AtBoth source s t n element) : s.drop n ≠ [] := by
  rw [Ne, List.drop_eq_nil_iff]
  exact Nat.not_le_of_lt both.inside

theorem AtBoth.nonempty' (both : AtBoth source s t n element) : t.drop n ≠ [] := by
  rw [Ne, List.drop_eq_nil_iff]
  exact Nat.not_le_of_lt both.inside'

/-- Up to the next sign that is not hidden both texts are read as text, if a sign where they start
is hidden or opens what never ends. -/
theorem AtBoth.follows_to_sign (both : AtBoth source s t n none)
    (start : (t.drop n).head? = some '<' →
      angleStep? none (s.drop n) = .ok none ∧ angleStep? none (t.drop n) = .ok none ∧
        Text.offsetOf? ['>'] ((s.drop n).drop 1) = none ∧
          Text.offsetOf? ['>'] ((t.drop n).drop 1) = none) :
    Follows source s t n none := by
  have lengths := both.hides.length_eq
  obtain ⟨m, onward, within, free, next⟩ := exists_next_sign t both.inside'
  have last : m < s.length → (s.drop m).head? = some '<' := fun less =>
    (both.hides.drop m).head_eq (next (by omega))
  -- Both texts are read up to the next sign that is shown, each by steps over text that end there.
  refine follows_text both.hides onward (by omega) both.between both.between' ?_ ?_
    (both.behind m none onward)
  · intro j atLeast less here
    by_cases sign : (s.drop j).head? = some '<'
    · by_cases shown : (t.drop j).head? = some '<'
      · obtain rfl : j = n := by
          by_cases after : n < j
          · exact absurd shown (free j after less)
          · omega
        obtain ⟨opens, -, endless, -⟩ := start shown
        exact Markup.exists_textStep_broken onward (by omega) last sign opens endless
      -- A sign that is hidden opens nothing, and what is read from it ends before the next one.
      · obtain ⟨length, nothing, short⟩ := both.only.signs j here sign shown
        refine ⟨length, nothing.textStep sign, ?_⟩
        have bound := (nothing.textStep sign).within
        rw [List.length_drop] at bound
        by_cases ended : m < t.length
        · have passed : ¬ m < j + length := fun far => short m less far (next ended)
          omega
        · omega
    · exact Markup.exists_textStep_plain less (by omega) last sign
  · intro j atLeast less here
    by_cases sign : (t.drop j).head? = some '<'
    · obtain rfl : j = n := by
        by_cases after : n < j
        · exact absurd sign (free j after less)
        · omega
      obtain ⟨-, opens, -, endless⟩ := start sign
      exact Markup.exists_textStep_broken onward within next sign opens endless
    · exact Markup.exists_textStep_plain less within next sign

theorem endTagStep?_shape (hides : Hides s t) (element : Option Text)
    (sign : (t.drop n).head? = some '<') :
    (Markup.endTagStep? element (t.drop n)).map Step.shape =
      (Markup.endTagStep? element (s.drop n)).map Step.shape := by
  have same := (hides.drop n).unmasked_eq
  obtain ⟨masked, split⟩ := List.head?_eq_some_iff.mp sign
  obtain ⟨plain, split'⟩ := List.head?_eq_some_iff.mp ((hides.drop n).head_eq sign)
  rw [split, split'] at same ⊢
  rw [← Markup.endTagStep?_unmasked, same, Markup.endTagStep?_unmasked]

/-- A tag in which no sign is hidden says the same. -/
theorem sameTag_of_untouched {step step' : Step} (hides : Hides s t)
    (sign : (t.drop n).head? = some '<') (found : step? element (s.drop n) = .ok (some step))
    (found' : step? element (t.drop n) = .ok (some step')) (shape : step'.shape = step.shape)
    (untouched : (t.drop n).take step.length = (s.drop n).take step.length)
    (position : Position) :
    ∀ content ∈ step.content, ∀ content' ∈ step'.content, SameTag position content content' := by
  intro content token content' token'
  have starts := (hides.drop n).head_eq sign
  have shapes : content'.shape = content.shape := by
    have same : step'.content.map TokenContent.shape = step.content.map TokenContent.shape :=
      congrArg Prod.fst shape
    rw [token, token'] at same
    exact Option.some.inj same
  -- Between tags it is the same token, and elsewhere only end tags of one name are read.
  have tags (tag : content.isTag = true) : SameTag position content content' := by
    cases element with
    | none =>
      have read := Markup.angleStep?_of_step? starts found token tag
      have alike := (hides.drop n).unmasked_eq
      obtain ⟨ut, split⟩ := List.head?_eq_some_iff.mp starts
      obtain ⟨vt, split'⟩ := List.head?_eq_some_iff.mp sign
      rw [split, split'] at untouched alike
      rw [split] at read
      have read' := Markup.angleStep?_untouched (List.cons.inj alike).2 untouched read token tag
      rw [← split'] at read'
      have same := (Markup.step?_of_angleStep? sign read').symm.trans found'
      obtain rfl := Option.some.inj (Except.ok.inj same)
      obtain rfl := Option.some.inj (token.symm.trans token')
      exact .refl position content
    | some name =>
      rcases Markup.content_of_step?_enclosed found token with rfl | ⟨shown, rfl⟩
      · rcases Markup.content_of_step?_enclosed found' token' with rfl | ⟨shown, rfl⟩
        · exact .endTag name
        · contradiction
      · contradiction
  cases content with
  | startTag => exact tags rfl
  | selfClosing => exact tags rfl
  | endTag => exact tags rfl
  | text shown =>
    cases content' with
    | text shown' => exact .text shown shown'
    | _ => contradiction
  | comment shown =>
    cases content' with
    | comment shown' => exact .comment shown shown'
    | _ => contradiction

/-- At a sign that is not hidden both texts have the same token. -/
theorem AtBoth.follows_tag {step step' : Step} (both : AtBoth source s t n element)
    (found : step? element (s.drop n) = .ok (some step))
    (found' : step? element (t.drop n) = .ok (some step')) (sign : (t.drop n).head? = some '<')
    (shape : step'.shape = step.shape) : Follows source s t n element := by
  have length : step'.length = step.length := congrArg Prod.snd shape
  have tags : ∀ content ∈ step.content, ∀ content' ∈ step'.content,
      SameTag (s.positionAt (n : Int)) content content' := by
    by_cases untouched : (t.drop n).take step.length = (s.drop n).take step.length
    · exact sameTag_of_untouched both.hides sign found found' shape untouched _
    · exact both.only.tags n element both.between sign step step' found found' untouched
  have fits := step?_fits both.nonempty found
  have fits' := step?_fits both.nonempty' found'
  have onward := fits.onward
  have after := both.between'.step both.nonempty' found'
  rw [length, element_of_shape shape tags fits fits'] at after
  exact follows_step both.nonempty both.nonempty' found found' (both.hides.positionAt_eq n) shape
    tags (both.behind _ _ (by omega) (both.between.step both.nonempty found) after)

/-- What is opened at a sign and never ends is text up to the next sign of the other kind behind it,
or up to the next sign that is not hidden if there is none. -/
theorem AtBoth.follows_broken (both : AtBoth source s t n none)
    (sign : (t.drop n).head? = some '<') (broken : angleStep? none (s.drop n) = .ok none)
    (broken' : angleStep? none (t.drop n) = .ok none) : Follows source s t n none := by
  have starts := (both.hides.drop n).head_eq sign
  have angles : Text.offsetOf? ['>'] ((t.drop n).drop 1) =
      Text.offsetOf? ['>'] ((s.drop n).drop 1) := by
    rw [← Text.offsetOf?_unmasked Markup.plain_angle,
      ((both.hides.drop n).drop 1).unmasked_eq, Text.offsetOf?_unmasked Markup.plain_angle]
  cases angle : Text.offsetOf? ['>'] ((s.drop n).drop 1) with
  | none =>
    rw [angle] at angles
    exact both.follows_to_sign fun _ => ⟨broken, broken', angle, angles⟩
  | some k =>
    rw [angle] at angles
    have reads := (Markup.textStep_broken starts broken).reads
    have reads' := (Markup.textStep_broken sign broken').reads
    have length : brokenLength (s.drop n) = k + 2 := by rw [brokenLength, angle]
    have length' : brokenLength (t.drop n) = k + 2 := by rw [brokenLength, angles]
    have shows := ((both.hides.drop n).take (k + 2)).unescape_eq
    rw [length] at reads
    rw [length'] at reads'
    cases read : Markup.decoded ((s.drop n).take (k + 2)) with
    | error failure =>
      rw [read] at reads
      exact follows_failing (.nil n) both.nonempty reads
    | ok shown =>
      rw [decoded_eq_ok_iff.mp read] at shows
      -- What the first text shows, the second does not fail to show.
      cases read' : Markup.unescape ((t.drop n).take (k + 2)) with
      | error failure =>
        rw [read'] at shows
        contradiction
      | ok shown' =>
        rw [read'] at shows
        rw [read] at reads
        rw [decoded_eq_ok_iff.mpr read'] at reads'
        refine both.follows_tag reads reads' sign ?_
        have shown := Except.ok.inj shows
        simp only [Step.shape, Option.map_some, TokenContent.shape, shown]

/-- Between tags, at a place to which the tokenizer comes in both texts. -/
theorem AtBoth.follows_between (both : AtBoth source s t n none) : Follows source s t n none := by
  by_cases sign : (t.drop n).head? = some '<'
  · have starts := (both.hides.drop n).head_eq sign
    have same := outcome_angleStep? both.hides sign
    -- The outcome at the sign is the same in both texts: a failure, a token, or nothing.
    cases plain : angleStep? none (s.drop n) with
    | error failure =>
      have fails : step? none (s.drop n) = .error failure := by
        rw [step?, if_pos starts, plain]
        rfl
      exact follows_failing (.nil n) both.nonempty fails
    | ok result =>
      rw [plain] at same
      cases masked : angleStep? none (t.drop n) with
      | error failure =>
        rw [masked] at same
        contradiction
      | ok result' =>
        rw [masked] at same
        have same := Option.some.inj same
        cases result with
        | none =>
          obtain rfl := Option.map_eq_none_iff.mp same
          exact both.follows_broken sign plain masked
        | some step =>
          obtain ⟨step', rfl, shape⟩ := Option.map_eq_some_iff.mp same
          exact both.follows_tag (Markup.step?_of_angleStep? starts plain)
            (Markup.step?_of_angleStep? sign masked) sign shape
  · exact both.follows_to_sign fun shown => absurd shown sign

/-- An end tag at a sign that is not hidden stands in both texts. -/
theorem closes_of_closes {name : Text} (hides : Hides s t) (plain : name ∈ plainTextElements)
    (sign : (t.drop n).head? = some '<') : closes name (t.drop n) = closes name (s.drop n) := by
  have same := (hides.drop n).unmasked_eq
  obtain ⟨masked, split⟩ := List.head?_eq_some_iff.mp sign
  obtain ⟨shown, split'⟩ := List.head?_eq_some_iff.mp ((hides.drop n).head_eq sign)
  rw [split, split'] at same ⊢
  rw [← Markup.closes_unmasked plain, same, Markup.closes_unmasked plain]

/-- The second text has the end tag of the element at a place, and up to there it is text. In the
first text up to there all end tags are passed over. -/
theorem AtBoth.follows_to_endTag {name : Text} (both : AtBoth source s t n (some name)) {j : Nat}
    (later : 0 < j) (here : closes name (t.drop (n + j)) = true)
    (before : ∀ k < j, closes name (t.drop (n + k)) = false)
    (read : step? (some name) (t.drop n) =
      .ok (some ⟨some (.text ((t.drop n).take j)), j, some name⟩)) :
    Follows source s t n (some name) := by
  have plain := both.between.plain
  have sign := Markup.head?_of_closes here
  have here' : closes name (s.drop (n + j)) = true := by
    rw [← closes_of_closes both.hides plain sign, here]
  have skipped (k : Nat) (atLeast : n ≤ k) (less : k < n + j) (stands : Between s k (some name))
      (ends : closes name (s.drop k) = true) :
      ∃ length, PassedOver name (s.drop k) length ∧ k + length ≤ n + j := by
    have hidden : (t.drop k).head? ≠ some '<' := by
      intro shown
      have none := before (k - n) (by omega)
      rw [Nat.add_sub_cancel' atLeast, closes_of_closes both.hides plain shown, ends] at none
      contradiction
    obtain ⟨length, passed, short⟩ := both.only.ends k name stands ends hidden
    refine ⟨length, passed, ?_⟩
    have notFar : ¬ n + j < k + length := fun far => short (n + j) less far sign
    omega
  have stretch := Markup.stretch_enclosed plain (Nat.le_add_right n j) here' skipped both.between
  have stretch' := Stretch.text both.nonempty' read (.nil _)
  have shows := ((both.hides.drop n).take j).unmasked_eq
  rw [Text.slice, Nat.add_sub_cancel_left] at stretch
  refine follows_stretch (by omega) stretch stretch' (both.hides.positionAt_eq n) ?_
    (both.behind _ _ (by omega) (stretch.between both.between) (stretch'.between both.between'))
  rw [List.append_nil, shows]

/-- The second text has the end tag of the element here, and so has the first. -/
theorem AtBoth.follows_endTag {name : Text} (both : AtBoth source s t n (some name))
    (here : closes name (t.drop n) = true) : Follows source s t n (some name) := by
  have plain := both.between.plain
  have sign := Markup.head?_of_closes here
  have read' := Markup.step?_of_closes plain here
  have read := Markup.step?_of_closes plain
    ((closes_of_closes both.hides plain sign).symm.trans here)
  have same := endTagStep?_shape both.hides (some name) sign
  cases found : Markup.endTagStep? (some name) (s.drop n) with
  | none =>
    rw [found, Option.map_none, Option.map_eq_none_iff] at same
    rw [found] at read
    rw [same] at read'
    refine follows_end ?_ ?_
    · rw [tokensAt_eq both.nonempty, read]
    · rw [tokensAt_eq both.nonempty', read']
  | some step =>
    rw [found] at same read
    obtain ⟨step', found', shape⟩ := Option.map_eq_some_iff.mp same
    rw [found'] at read'
    exact both.follows_tag read read' sign shape

/-- The second text has no end tag of the element any more, so it stops here; in the first one only
text is left, because all end tags in it are passed over. -/
theorem AtBoth.follows_to_end {name : Text} (both : AtBoth source s t n (some name))
    (never : ∀ k, closes name (t.drop (n + k)) = false)
    (stops : step? (some name) (t.drop n) = .ok none) : Follows source s t n (some name) := by
  have plain := both.between.plain
  have skipped (k : Nat) (atLeast : n ≤ k) (stands : Between s k (some name))
      (ends : closes name (s.drop k) = true) :
      ∃ length, PassedOver name (s.drop k) length := by
    have hidden : (t.drop k).head? ≠ some '<' := by
      intro shown
      have none := never (k - n)
      rw [Nat.add_sub_cancel' atLeast, closes_of_closes both.hides plain shown, ends] at none
      contradiction
    obtain ⟨length, passed, -⟩ := both.only.ends k name stands ends hidden
    exact ⟨length, passed⟩
  obtain ⟨shown, m, stretch, ended⟩ := Markup.exists_stretch_end plain skipped both.between
  refine follows_stop stretch ended ?_
  rw [tokensAt_eq both.nonempty', stops]

/-- Inside an element with plain text, at a place to which the tokenizer comes in both texts. -/
theorem AtBoth.follows_inside {name : Text} (both : AtBoth source s t n (some name)) :
    Follows source s t n (some name) := by
  rcases Markup.step?_enclosed both.between.plain (t.drop n) with
    ⟨j, here, before, read⟩ | ⟨never, stops⟩
  · simp only [List.drop_drop] at here before
    by_cases later : 0 < j
    · rw [if_pos later] at read
      exact both.follows_to_endTag later here before read
    · obtain rfl : j = 0 := by omega
      exact both.follows_endTag here
  · simp only [List.drop_drop] at never
    exact both.follows_to_end never stops

/-- Wherever the tokenizer comes to in both texts, the second makes what the first makes. -/
theorem follows (hides : Hides s t) (only : OnlyTextHidden s t) (between : Between s n element)
    (between' : Between t n element) : Follows source s t n element := by
  -- Both texts are read on to a later place that is common to them.
  induction left : s.length - n using Nat.strongRecOn generalizing n element with
  | ind size ih =>
  subst left
  by_cases inside : n < s.length
  · have both : AtBoth source s t n element :=
      ⟨hides, only, between, between', inside, fun m next onward reached reached' =>
        ih _ (by omega) reached reached' rfl⟩
    cases element with
    | none => exact both.follows_between
    | some name => exact both.follows_inside
  · have lengths := hides.length_eq
    refine follows_end (tokensAt_end ?_) (tokensAt_end ?_)
    · rw [List.drop_eq_nil_iff]
      omega
    · rw [List.drop_eq_nil_iff]
      omega

end Masked

end SfcLint.Assembly

namespace SfcLint

open Markup (Between hides_maskInterpolations maskInterpolations step? tokens)

/-- The nodes of a template in source order, by their kinds and the names on their tags. -/
def Component.outline (component : Component) : Option (List (String × List Text)) :=
  component.template?.map fun root =>
    root.walk.map fun node => (node.kindWord, node.bindings.map (·.rawName))

end SfcLint
