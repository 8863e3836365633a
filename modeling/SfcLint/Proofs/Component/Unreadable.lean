/-
# Files that cannot be cut into tokens

A file is unreadable exactly when the reading comes, without a fault in the structure of the file
before, to a place where the tokenizer stops, or to a tag in the template whose values, read once
more from the text of the tag, hold a number that is too long.
-/

import SfcLint.Component.Source
import SfcLint.Proofs.Component.Reached
import SfcLint.Proofs.Markup.Failure
import SfcLint.Proofs.Text.Except

namespace SfcLint

open Markup (LongReference TokenContent TokenFailure Token Between step? step?_fits tokensAt
  tokensAt_eq tokensAt_end)

/-- The reading ends because the file cannot be cut into tokens. -/
def Unreadable {α : Type} (read : Except ParseError α) : Prop :=
  ∃ failure, read = .error (.unreadable failure)

namespace Unreadable

variable {α β : Type}

theorem bind_iff {x : Except ParseError α} {f : α → Except ParseError β} :
    Unreadable (x >>= f) ↔ Unreadable x ∨ ∃ a, x = .ok a ∧ Unreadable (f a) := by
  cases x <;> simp [Unreadable, bind, Except.bind]

theorem not_ok {a : α} : ¬ Unreadable (.ok a) := by
  rintro ⟨failure, failed⟩
  contradiction

theorem not_malformed {fault : StructureFault} {position : Position} :
    ¬ Unreadable (.error (.malformed fault position) : Except ParseError α) := by
  rintro ⟨failure, failed⟩
  cases failed

end Unreadable

namespace Assembly

open Pattern

variable {source t : Text} {n : Nat} {element : Option Text} {state : State}

/-- The values of the attributes in the text of a tag, as they are written. -/
def writtenValues (raw : Text) : List Text :=
  let start := ((writtenName.leading? raw).map (·.stop)).getD 0
  let body := Text.dropEndWhile (· == '/') (Text.dropEndWhile (· == '>') (raw.drop start))
  (writtenAttribute.hits body).filterMap (·.group? "value")

/-- The value of an attribute with its references replaced. -/
def shownValue (value : Text) : Except ParseError Text :=
  match Markup.unescape value with
  | .ok value => .ok (Markup.unmasked value)
  | .error failure => .error (.unreadable (.longNumeral failure))

theorem fails_shownValue_iff {value : Text} : (shownValue value).Fails ↔ LongReference value := by
  rw [← Markup.fails_unescape_iff, shownValue]
  cases Markup.unescape value <;> simp

theorem exists_of_shownValue_eq_error {value : Option Text} {failure : ParseError}
    (failed : value.mapM shownValue = .error failure) :
    ∃ numeral, failure = .unreadable numeral := by
  cases value with
  | none => contradiction
  | some value =>
    rw [Option.mapM_some, shownValue] at failed
    split at failed
    · contradiction
    · cases failed
      exact ⟨_, rfl⟩

/-- The binding that an attribute in the text of a tag makes, given where the attributes start. -/
def bindingOf (raw : Text) (position : Position) (start : Nat) (hit : Hit) :
    Except ParseError Binding := do
  let value ← (hit.group? "value").mapM shownValue
  let place := position.after (raw.take (start + hit.start))
  return Binding.ofAttribute (hit.group "name") value place

theorem fails_bindingOf_iff {raw : Text} {position : Position} {start : Nat} {hit : Hit} :
    (bindingOf raw position start hit).Fails ↔
      ∃ value ∈ hit.group? "value", LongReference value := by
  simp [bindingOf, Except.fails_optionMapM_iff, fails_shownValue_iff]

theorem elementOf_eq (name raw : Text) (position : Position) :
    elementOf name raw position = do
      let hit := writtenName.leading? raw
      let start := (hit.map (·.stop)).getD 0
      let body := Text.dropEndWhile (· == '/') (Text.dropEndWhile (· == '>') (raw.drop start))
      let bindings ← (writtenAttribute.hits body).mapM (bindingOf raw position start)
      return ⟨(hit.map (·.group "name")).getD name, bindings, position, []⟩ := rfl

theorem fails_elementOf_iff {name raw : Text} {position : Position} :
    (elementOf name raw position).Fails ↔ ∃ value ∈ writtenValues raw, LongReference value := by
  simp only [elementOf_eq, writtenValues, Except.fails_bind_iff, Except.fails_mapM_iff,
    fails_bindingOf_iff, Except.not_fails_pure, and_false, exists_false, or_false,
    List.mem_filterMap]
  constructor
  · rintro ⟨hit, member, value, said, long⟩
    exact ⟨value, ⟨hit, member, said⟩, long⟩
  · rintro ⟨value, ⟨hit, member, said⟩, long⟩
    exact ⟨hit, member, value, said, long⟩

/-- Nothing but a number that is too long is in the way of reading a tag. -/
theorem unreadable_elementOf_iff {name raw : Text} {position : Position} :
    Unreadable (elementOf name raw position) ↔
      ∃ value ∈ writtenValues raw, LongReference value := by
  have failing : (elementOf name raw position).Fails ↔
      ∃ value ∈ writtenValues raw, LongReference value := fails_elementOf_iff
  rw [← failing]
  constructor
  · rintro ⟨failure, failed⟩
    exact ⟨_, failed⟩
  · rintro ⟨failure, read⟩
    rcases Except.bind_eq_error_iff.mp (elementOf_eq name raw position ▸ read) with
      failed | ⟨bindings, -, failed⟩
    · obtain ⟨hit, -, failed⟩ := Except.exists_of_mapM_eq_error failed
      rcases Except.bind_eq_error_iff.mp failed with failed | ⟨value, -, failed⟩
      · obtain ⟨numeral, rfl⟩ := exists_of_shownValue_eq_error failed
        exact ⟨numeral, read⟩
      · contradiction
    · contradiction

theorem not_unreadable_flush (draft : Draft) : ¬ Unreadable draft.flush := by
  rw [Draft.flush]
  split
  · exact Unreadable.not_ok
  · split
    · exact Unreadable.not_malformed
    · exact Unreadable.not_ok

theorem not_unreadable_openBlock {token : Token} {name raw : Text}
    {attributes : List Markup.Attribute} :
    ¬ Unreadable (openBlock state token name attributes raw) := by
  rw [openBlock]
  split_ifs <;> first | exact Unreadable.not_ok | exact Unreadable.not_malformed

theorem not_unreadable_closeInTemplate {draft : Draft} {token : Token} {name : Text} :
    ¬ Unreadable (closeInTemplate source state draft token name) := by
  rw [closeInTemplate, Unreadable.bind_iff]
  rintro (failed | ⟨flushed, -, failed⟩)
  · exact not_unreadable_flush draft failed
  · split at failed <;> split_ifs at failed <;>
      first | exact Unreadable.not_ok failed | exact Unreadable.not_malformed failed

/-- The tag of an element, and the text of the tag. -/
inductive OpensElement : TokenContent → Text → Prop
  | start {name raw : Text} {attributes : List Markup.Attribute} :
      OpensElement (.startTag name attributes raw) raw
  | selfClosing {name raw : Text} : OpensElement (.selfClosing name raw) raw

/-- In a template the tags of elements make a file unreadable, and nothing else does. -/
theorem unreadable_inTemplate_iff {draft : Draft} {token : Token} :
    Unreadable (inTemplate source state draft token) ↔
      ∃ flushed raw, draft.flush = .ok flushed ∧ OpensElement token.content raw ∧
        ∃ value ∈ writtenValues raw, LongReference value := by
  -- The tag of an element is read once what waits before it is settled.
  have element {name raw : Text} {f : Draft → OpenElement → State} :
      Unreadable (do
        let flushed ← draft.flush
        let element ← elementOf name raw token.position
        return f flushed element) ↔
      ∃ flushed, draft.flush = .ok flushed ∧ ∃ value ∈ writtenValues raw, LongReference value := by
    rw [Unreadable.bind_iff, or_iff_right (not_unreadable_flush draft)]
    refine exists_congr fun flushed => and_congr_right fun _ => ?_
    rw [Unreadable.bind_iff, unreadable_elementOf_iff, or_iff_left]
    rintro ⟨element, -, failed⟩
    exact Unreadable.not_ok failed
  obtain ⟨offset, position, content⟩ := token
  rw [inTemplate]
  cases content with
  | startTag name attributes raw =>
    refine element.trans ⟨?_, ?_⟩
    · rintro ⟨flushed, settled, long⟩
      exact ⟨flushed, raw, settled, .start, long⟩
    · rintro ⟨flushed, _, settled, ⟨⟩, long⟩
      exact ⟨flushed, settled, long⟩
  | selfClosing name raw =>
    refine element.trans ⟨?_, ?_⟩
    · rintro ⟨flushed, settled, long⟩
      exact ⟨flushed, raw, settled, .selfClosing, long⟩
    · rintro ⟨flushed, _, settled, ⟨⟩, long⟩
      exact ⟨flushed, settled, long⟩
  | endTag name =>
    refine iff_of_false not_unreadable_closeInTemplate ?_
    rintro ⟨_, _, -, ⟨⟩, -⟩
  | text t =>
    refine iff_of_false Unreadable.not_ok ?_
    rintro ⟨_, _, -, ⟨⟩, -⟩
  | comment t =>
    refine iff_of_false ?_ ?_
    · rw [Unreadable.bind_iff]
      rintro (failed | ⟨flushed, -, failed⟩)
      · exact not_unreadable_flush draft failed
      · exact Unreadable.not_ok failed
    · rintro ⟨_, _, -, ⟨⟩, -⟩

/-- Only the tags of elements in a template make a file unreadable. -/
theorem unreadable_step_iff {token : Token} :
    Unreadable (step source state token) ↔
      ∃ draft flushed raw, state.region = .template draft ∧ draft.flush = .ok flushed ∧
        OpensElement token.content raw ∧ ∃ value ∈ writtenValues raw, LongReference value := by
  constructor
  · intro failed
    rw [step] at failed
    split at failed
    · exact absurd failed not_unreadable_openBlock
    · exact absurd failed Unreadable.not_ok
    next draft inside =>
      obtain ⟨flushed, raw, tag⟩ := unreadable_inTemplate_iff.mp failed
      exact ⟨draft, flushed, raw, inside, tag⟩
    · split at failed <;> exact absurd failed Unreadable.not_ok
    · split at failed
      · split at failed <;> exact absurd failed Unreadable.not_ok
      · exact absurd failed Unreadable.not_ok
    · exact absurd failed Unreadable.not_ok
  · rintro ⟨draft, flushed, raw, inside, tag⟩
    have stepped : step source state token = inTemplate source state draft token := by
      rw [step]
      simp only [inside]
    rw [stepped]
    exact unreadable_inTemplate_iff.mpr ⟨flushed, raw, tag⟩

/-- What stops the reading of a file at a place, given what has been read before: the tokenizer
stops, or the tag of an element in the template holds a number that is too long. -/
inductive Stops (state : State) (element : Option Text) (t : Text) : Prop
  | token : Markup.Stops element t → Stops state element t
  | binding {draft flushed : Draft} {content : TokenContent} {length : Nat} {next : Option Text}
      {raw value : Text} :
      state.region = .template draft → draft.flush = .ok flushed → t.head? = some '<' →
        step? element t = .ok (some ⟨some content, length, next⟩) → OpensElement content raw →
          value ∈ writtenValues raw → LongReference value → Stops state element t

/-- From a place that is reached the rest is read as if everything before had been read. -/
theorem Reached.run_eq (reached : Reached source t n element state) :
    run source .initial (Markup.tokens t) = run source state (tokensAt t n element) := by
  induction reached with
  | start => rfl
  | pass _ nonempty found ih =>
    rw [ih, tokensAt_eq nonempty, found]
    rfl
  | token _ nonempty found stepped ih =>
    rw [ih, tokensAt_eq nonempty, found]
    simp only [Option.map_some, Option.toList_some, List.singleton_append, run, stepped, bind,
      Except.bind]

theorem nonempty_of_stops (stops : Stops state element t) : t ≠ [] := by
  rintro rfl
  cases stops with
  | token stops =>
    cases stops with
    | alien sign => simp at sign
    | broken starts => simp at starts
    | text _ long => exact Markup.not_longReference_nil long
  | binding _ _ starts => simp at starts

/-- A reading that has come to a place goes no further than this if the place stops it. -/
theorem Stops.unreadable (stops : Stops state element (t.drop n)) :
    Unreadable (run source state (tokensAt t n element)) := by
  have nonempty := nonempty_of_stops stops
  cases stops with
  | token stops =>
    obtain ⟨failure, failed⟩ := Markup.fails_step?_iff.mpr stops
    refine ⟨failure, ?_⟩
    rw [tokensAt_eq nonempty, failed]
    rfl
  | @binding draft flushed content length next raw value inside settled _ found opens member long =>
    have failed : Unreadable (step source state ⟨n, t.positionAt n, content⟩) :=
      unreadable_step_iff.mpr ⟨draft, flushed, raw, inside, settled, opens, value, member, long⟩
    rw [tokensAt_eq nonempty, found]
    exact Unreadable.bind_iff.mpr (.inl failed)

/-- A reading that is cut short has come to a place that stops it. -/
theorem exists_stops_of_unreadable (reached : Reached source t n element state)
    (failed : Unreadable (run source state (tokensAt t n element))) :
    ∃ m inner last, Reached source t m inner last ∧ Stops last inner (t.drop m) := by
  -- Every step moves on, so the rest of the text becomes shorter.
  induction left : t.length - n using Nat.strongRecOn generalizing n element state with
  | ind size ih =>
  subst left
  by_cases ended : t.drop n = []
  · rw [tokensAt_end ended] at failed
    exact absurd failed Unreadable.not_ok
  · have open? : n < t.length := by
      rw [List.drop_eq_nil_iff] at ended
      omega
    rw [tokensAt_eq ended] at failed
    split at failed
    next failure found =>
      exact ⟨n, element, state, reached, .token (Markup.fails_step?_iff.mp ⟨failure, found⟩)⟩
    · exact absurd failed Unreadable.not_ok
    next step found =>
      obtain ⟨content, length, next⟩ := step
      have fits := step?_fits ended found
      have onward : 0 < length := fits.onward
      cases content with
      | none => exact ih _ (by omega) (reached.pass ended found) failed rfl
      | some content =>
        rcases Unreadable.bind_iff.mp failed with failed | ⟨after, stepped, failed⟩
        · obtain ⟨draft, flushed, raw, inside, settled, opens, value, member, long⟩ :=
            unreadable_step_iff.mp failed
          have shape := fits.content content rfl
          have starts : (t.drop n).head? = some '<' := by
            cases opens with
            | start => exact shape.1
            | selfClosing => exact shape.1
          exact ⟨n, element, state, reached,
            .binding inside settled starts found opens member long⟩
        · exact ih _ (by omega) (reached.token ended found stepped) failed rfl

theorem not_unreadable_finish : ¬ Unreadable (finish state) := by
  rw [finish]
  split
  next draft _ =>
    rw [Unreadable.bind_iff]
    rintro (failed | ⟨flushed, -, failed⟩)
    · exact not_unreadable_flush draft failed
    · split at failed <;> exact absurd failed Unreadable.not_malformed
  · split
    · exact Unreadable.not_malformed
    · exact Unreadable.not_ok
  · exact Unreadable.not_ok

end Assembly

/-- The text of a component file is unreadable exactly when the reading of its masked text comes to
a place that stops it. -/
theorem Component.unreadable_ofSource_iff {source : Text} :
    Unreadable (ofSource source) ↔
      ∃ n element state,
        Assembly.Reached source (Markup.maskInterpolations source) n element state ∧
          Assembly.Stops state element ((Markup.maskInterpolations source).drop n) := by
  rw [ofSource, ofTokens, Unreadable.bind_iff]
  constructor
  · rintro (failed | ⟨last, -, failed⟩)
    · exact Assembly.exists_stops_of_unreadable .start failed
    · exact absurd failed Assembly.not_unreadable_finish
  · rintro ⟨n, element, state, reached, stops⟩
    rw [reached.run_eq]
    exact .inl stops.unreadable

end SfcLint
