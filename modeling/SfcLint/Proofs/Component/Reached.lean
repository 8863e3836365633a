/-
# What is reached while a file is read

The tokenizer goes from place to place in the text, and each token changes what has been read. The
places and the states that go with them are given by one step at a time, so that an invariant of
the reading needs to be checked for one step only. A file that can be read gives a row of tokens,
which belongs to such a walk, so what is known of one of its steps is known of each token.
-/

import SfcLint.Component.Assembly
import SfcLint.Proofs.Markup.Step
import SfcLint.Proofs.Text.Except
import SfcLint.Proofs.Text.Position

namespace SfcLint

/-- Reading on from a place in a text leads to the places after it. -/
theorem Text.positionAt_add (t : Text) (n m : Nat) :
    t.positionAt ((n + m : Nat) : Int) = (t.positionAt (n : Int)).after ((t.drop n).take m) := by
  rw [positionAt_natCast, positionAt_natCast, ← Position.after_append, List.take_add]

namespace Markup

/-- The tokenizer stands at an offset between two of its steps, perhaps inside an element with
plain text. -/
inductive Between (t : Text) : Nat → Option Text → Prop
  | start : Between t 0 none
  | step {n : Nat} {element : Option Text} {step : Step} :
      Between t n element → t.drop n ≠ [] → step? element (t.drop n) = .ok (some step) →
        Between t (n + step.length) step.element

theorem Between.le {t : Text} {n : Nat} {element : Option Text} (between : Between t n element) :
    n ≤ t.length := by
  induction between with
  | start => exact Nat.zero_le _
  | step _ nonempty found ih =>
    have within := (step?_fits nonempty found).within
    rw [List.length_drop] at within
    omega

theorem tokensFrom_eq (passing : Nat) (element : Option Text) (offset : Nat) (position : Position)
    (t : Text) :
    tokensFrom passing element offset position t =
      tokensFrom 0 element (offset + passing) (position.after (t.take passing))
        (t.drop passing) := by
  induction passing generalizing offset position t with
  | zero => rfl
  | succ passing ih =>
    cases t with
    | nil => rfl
    | cons c t =>
      rw [tokensFrom, ih, List.take_succ_cons, List.drop_succ_cons, Position.after_cons,
        Nat.add_right_comm, Nat.add_assoc]

/-- The tokens from an offset of the text on. -/
def tokensAt (t : Text) (n : Nat) (element : Option Text) : List (Except TokenFailure Token) :=
  tokensFrom 0 element n (t.positionAt n) (t.drop n)

section Tokens

variable {t : Text} {n : Nat} {element : Option Text}

theorem tokensAt_end (ended : t.drop n = []) : tokensAt t n element = [] := by
  rw [tokensAt, ended, tokensFrom]

theorem tokensAt_eq (nonempty : t.drop n ≠ []) :
    tokensAt t n element =
      match step? element (t.drop n) with
      | .error failure => [.error failure]
      | .ok none => []
      | .ok (some step) =>
          (step.content.map fun content => .ok ⟨n, t.positionAt n, content⟩).toList ++
            tokensAt t (n + step.length) step.element := by
  obtain ⟨c, rest, split⟩ := List.exists_cons_of_ne_nil nonempty
  rw [tokensAt, split, tokensFrom, ← split]
  rcases found : step? element (t.drop n) with failure | _ | step
  · rfl
  · rfl
  · have onward := (step?_fits nonempty found).onward
    obtain ⟨more, length⟩ : ∃ more, step.length = more + 1 := ⟨step.length - 1, by omega⟩
    have behind : t.drop (n + (more + 1)) = rest.drop more := by
      rw [← List.drop_drop, split, List.drop_succ_cons]
    have place : t.positionAt ((n + (more + 1) : Nat) : Int) =
        ((t.positionAt n).advance c).after (rest.take more) := by
      rw [Text.positionAt_add, split, List.take_succ_cons, Position.after_cons]
    dsimp only
    rw [tokensFrom_eq, length, tokensAt, behind, place, Nat.add_sub_cancel, Nat.add_assoc,
      Nat.add_comm 1]

end Tokens

end Markup

namespace Assembly

open Markup (Between Step TokenContent step? step?_fits tokensAt tokensAt_eq tokensAt_end)

/-- What has been read of a source when the tokenizer has come to a place of the text. -/
inductive Reached (source t : Text) : Nat → Option Text → State → Prop
  | start : Reached source t 0 none .initial
  | pass {n length : Nat} {element next : Option Text} {state : State} :
      Reached source t n element state → t.drop n ≠ [] →
        step? element (t.drop n) = .ok (some ⟨none, length, next⟩) →
          Reached source t (n + length) next state
  | token {n length : Nat} {element next : Option Text} {content : TokenContent}
      {state after : State} :
      Reached source t n element state → t.drop n ≠ [] →
        step? element (t.drop n) = .ok (some ⟨some content, length, next⟩) →
          Assembly.step source state ⟨n, t.positionAt n, content⟩ = .ok after →
            Reached source t (n + length) next after

variable {source t : Text} {n : Nat} {element : Option Text} {state last : State}

theorem Reached.between (reached : Reached source t n element state) : Between t n element := by
  induction reached with
  | start => exact .start
  | pass _ nonempty found ih => exact ih.step nonempty found
  | token _ nonempty found _ ih => exact ih.step nonempty found

/-- A reading that meets no error ends in a state that is reached. -/
theorem exists_reached_of_run (reached : Reached source t n element state)
    (ends : run source state (tokensAt t n element) = .ok last) :
    ∃ m inner, Reached source t m inner last := by
  -- Every step moves on, so the rest of the text becomes shorter.
  induction left : t.length - n using Nat.strongRecOn generalizing n element state with
  | ind size ih =>
  subst left
  by_cases ended : t.drop n = []
  · rw [tokensAt_end ended] at ends
    obtain rfl := Except.ok.inj ends
    exact ⟨n, element, reached⟩
  · have open? : n < t.length := by
      rw [List.drop_eq_nil_iff] at ended
      omega
    rw [tokensAt_eq ended] at ends
    split at ends
    · contradiction
    · obtain rfl := Except.ok.inj ends
      exact ⟨n, element, reached⟩
    next step found =>
      obtain ⟨content, length, next⟩ := step
      have onward : 0 < length := (step?_fits ended found).onward
      cases content with
      | none => exact ih _ (by omega) (reached.pass ended found) ends rfl
      | some content =>
        simp only [Option.map_some, Option.toList_some, List.singleton_append, run] at ends
        obtain ⟨after, stepped, ends⟩ := Except.bind_eq_ok_iff.mp ends
        exact ih _ (by omega) (reached.token ended found stepped) ends rfl

end Assembly

/-- A component is made from what is reached at the end of the masked text. -/
theorem Component.exists_reached_of_ofSource {source : Text} {component : Component}
    (accepted : ofSource source = .ok component) :
    ∃ n element state,
      Assembly.Reached source (Markup.maskInterpolations source) n element state ∧
        Assembly.finish state = .ok component := by
  rw [ofSource, ofTokens] at accepted
  obtain ⟨last, ends, finished⟩ := Except.bind_eq_ok_iff.mp accepted
  obtain ⟨n, element, reached⟩ := Assembly.exists_reached_of_run .start ends
  exact ⟨n, element, last, reached, finished⟩

/-! ## Rows of tokens -/

open Markup (Token TokenContent TokenFailure step? tokensAt)

namespace Markup

/-- The tokens are those that are read from a place of the text on. -/
inductive Reads (t : Text) : Nat → Option Text → List Token → Prop
  | nil {n : Nat} {element : Option Text} : tokensAt t n element = [] → Reads t n element []
  | pass {n length : Nat} {element next : Option Text} {tokens : List Token} :
      t.drop n ≠ [] → step? element (t.drop n) = .ok (some ⟨none, length, next⟩) →
        Reads t (n + length) next tokens → Reads t n element tokens
  | token {n length : Nat} {element next : Option Text} {content : TokenContent}
      {tokens : List Token} :
      t.drop n ≠ [] → step? element (t.drop n) = .ok (some ⟨some content, length, next⟩) →
        Reads t (n + length) next tokens →
          Reads t n element (⟨n, t.positionAt n, content⟩ :: tokens)

theorem reads_of_tokensAt {t : Text} {n : Nat} {element : Option Text} {tokens : List Token}
    (found : tokensAt t n element = tokens.map .ok) : Reads t n element tokens := by
  -- Every step leaves less of the text.
  induction left : t.length - n using Nat.strongRecOn generalizing n element tokens with
  | ind size ih =>
  subst left
  have ends (none : tokensAt t n element = []) : Reads t n element tokens := by
    rw [none, eq_comm, List.map_eq_nil_iff] at found
    rw [found]
    exact .nil none
  by_cases ended : t.drop n = []
  · exact ends (tokensAt_end ended)
  · have here : n < t.length := by
      rw [List.drop_eq_nil_iff] at ended
      omega
    have read := @tokensAt_eq t n element ended
    split at read
    next =>
      rw [read] at found
      cases tokens with
      | nil => contradiction
      | cons token tokens => exact absurd (List.cons.inj found).1 (by simp)
    next => exact ends read
    next step stepped =>
      obtain ⟨content, length, next⟩ := step
      have onward : 0 < length := (step?_fits ended stepped).onward
      rw [read] at found
      cases content with
      | none => exact .pass ended stepped (ih _ (by omega) found rfl)
      | some content =>
        cases tokens with
        | nil => contradiction
        | cons token tokens =>
          obtain ⟨same, later⟩ := List.cons.inj found
          obtain rfl := Except.ok.inj same
          exact .token ended stepped (ih _ (by omega) later rfl)

end Markup

namespace Assembly

/-- What has been read after a row of tokens, unless one of them is at fault. -/
def through (source : Text) (state : State) (tokens : List Token) : Except ParseError State :=
  tokens.foldlM (step source) state

variable {source : Text} {state last : State}

@[simp]
theorem through_nil (source : Text) (state : State) : through source state [] = .ok state := rfl

theorem through_cons (source : Text) (state : State) (token : Token) (tokens : List Token) :
    through source state (token :: tokens) =
      (step source state token).bind fun after => through source after tokens :=
  List.foldlM_cons

theorem through_cons_eq_ok {token : Token} {tokens : List Token} :
    through source state (token :: tokens) = .ok last ↔
      ∃ after, step source state token = .ok after ∧ through source after tokens = .ok last := by
  rw [through_cons]
  exact Except.bind_eq_ok_iff

/-- A reading that ends well has met no failure. -/
theorem exists_of_run_eq_ok {results : List (Except TokenFailure Token)}
    (ran : run source state results = .ok last) :
    ∃ tokens : List Token, results = tokens.map .ok ∧ through source state tokens = .ok last := by
  induction results generalizing state with
  | nil => exact ⟨[], rfl, ran⟩
  | cons result results ih =>
    cases result with
    | error failure => simp [run] at ran
    | ok token =>
      rw [run, Except.bind_eq_ok_iff] at ran
      obtain ⟨after, stepped, ran⟩ := ran
      obtain ⟨tokens, rfl, read⟩ := ih ran
      exact ⟨token :: tokens, rfl, through_cons_eq_ok.mpr ⟨after, stepped, read⟩⟩

end Assembly

/-- A component is made from the row of the tokens of its masked text. -/
theorem Component.ofSource_eq_ok {source : Text} {component : Component}
    (accepted : ofSource source = .ok component) :
    ∃ (tokens : List Token) (last : Assembly.State),
      Markup.tokens (Markup.maskInterpolations source) = tokens.map .ok ∧
        Assembly.through source .initial tokens = .ok last ∧
          Assembly.finish last = .ok component := by
  rw [ofSource, ofTokens, Except.bind_eq_ok_iff] at accepted
  obtain ⟨last, ran, finished⟩ := accepted
  obtain ⟨tokens, row, read⟩ := Assembly.exists_of_run_eq_ok ran
  exact ⟨tokens, last, row, read, finished⟩

end SfcLint
