/-
# The scripts of a file

A script is opened by its start tag where no other block is open. Then there is only text up to its
end tag, because the tokenizer reads nothing else inside a script, and what stands between the two
tags is its body. One step of the reading opens a script, goes on inside it, closes it, or has
nothing to do with scripts; so the scripts that are found are those that the row of tokens has.
-/

import Mathlib.Data.List.Forall2
import SfcLint.Proofs.Component.Reached
import SfcLint.Proofs.Markup.Enclosure

namespace SfcLint

open Markup (Reads Step Token TokenContent content_of_step?_enclosed
  isSome_content_of_step?_enclosed step? step?_fits)

/-- Where the body of a script starts and where it stops. -/
structure ScriptExtent where
  start : Nat
  stop : Nat

namespace Assembly

/-- The name of scripts. -/
def scriptName : Text := "script".toList

/-- The tokens lead from the state to one in which no block is open. -/
def LeadsOutside (source : Text) (state : State) (tokens : List Token) : Prop :=
  ∃ after, through source state tokens = .ok after ∧ after.region = .outside

/-- The start tag of a script whose body starts at an offset. -/
def OpensScript (token : Token) (start : Nat) : Prop :=
  ∃ attributes raw, token.content = .startTag scriptName attributes raw ∧
    start = token.offset + raw.length

/-- Stretches of text, then the end tag of a script at an offset. -/
def ClosesScript (tokens : List Token) (stop : Nat) : Prop :=
  ∃ inner closing back, tokens = inner ++ closing :: back ∧
    (∀ token ∈ inner, ∃ t, token.content = .text t) ∧ closing.content = .endTag scriptName ∧
      closing.offset = stop

/-- Among the tokens that are read from a state on there is a script: its start tag where no block
is open, stretches of text, and its end tag. -/
def HasScript (source : Text) (state : State) (tokens : List Token) (extent : ScriptExtent) :
    Prop :=
  ∃ front opening later, tokens = front ++ opening :: later ∧ LeadsOutside source state front ∧
    OpensScript opening extent.start ∧ ClosesScript later extent.stop

/-- In the state a script is open whose body starts at an offset. -/
def State.InScript (state : State) (start : Nat) : Prop :=
  ∃ site attributes, state.region = .other scriptName 0 site attributes ∧ site.content = start

/-- The script is the one that is open in the state, or one that is opened later. -/
def StillHasScript (source : Text) (state : State) (tokens : List Token) (extent : ScriptExtent) :
    Prop :=
  HasScript source state tokens extent ∨
    state.InScript extent.start ∧ ClosesScript tokens extent.stop

variable {source t : Text} {n : Nat} {element : Option Text} {state after last : State}
  {token : Token} {tokens : List Token} {extent : ScriptExtent}

theorem State.InScript.not_outside {start : Nat} (inside : state.InScript start) :
    state.region ≠ .outside := by
  obtain ⟨_, _, region, -⟩ := inside
  simp [region]

theorem State.InScript.unique {start start' : Nat} (inside : state.InScript start)
    (inside' : state.InScript start') : start = start' := by
  obtain ⟨site, attributes, region, rfl⟩ := inside
  obtain ⟨site', attributes', region', rfl⟩ := inside'
  rw [region] at region'
  simp only [Region.other.injEq] at region'
  rw [region'.2.2.1]

/-! ## One step -/

/-- Where a script is open the tokenizer is inside it, behind the place where its body starts. -/
def Aligned (n : Nat) (element : Option Text) (state : State) : Prop :=
  ∀ depth site attributes, state.region = .other scriptName depth site attributes →
    depth = 0 ∧ element = some scriptName ∧ site.content ≤ n

/-- A token that neither is in a script nor opens one. -/
structure Elsewhere (state : State) (token : Token) (after : State) : Prop where
  before : ∀ start, ¬ state.InScript start
  behind : ∀ start, ¬ after.InScript start
  opens : state.region = .outside → ∀ start, ¬ OpensScript token start
  scripts : after.scripts = state.scripts

/-- What a token does to scripts: it opens one, is text inside one, closes one, or is elsewhere. -/
inductive ScriptStep (source : Text) (state : State) (token : Token) (after : State) : Prop
  | opens {start : Nat} : state.region = .outside → OpensScript token start →
      after.InScript start → after.scripts = state.scripts → ScriptStep source state token after
  | inside {start : Nat} {t : Text} : state.InScript start → token.content = .text t →
      after = state → ScriptStep source state token after
  | closes {start : Nat} {script : FoundScript} : state.InScript start →
      token.content = .endTag scriptName → after.region = .outside →
        after.scripts = state.scripts ++ [script] →
          script.position = source.positionAt (start : Int) →
            script.body = source.slice start token.offset → ScriptStep source state token after
  | elsewhere : Elsewhere state token after → ScriptStep source state token after

theorem not_inScript_of_region (other : ∀ depth site attributes,
    state.region ≠ .other scriptName depth site attributes) (start : Nat) :
    ¬ state.InScript start := by
  rintro ⟨site, attributes, region, -⟩
  exact other 0 site attributes region

theorem aligned_of_region (other : ∀ depth site attributes,
    state.region ≠ .other scriptName depth site attributes) : Aligned n element state :=
  fun depth site attributes region => absurd region (other depth site attributes)

/-- Inside a template nothing happens to scripts. -/
theorem inTemplate_region {draft : Draft} (made : inTemplate source state draft token = .ok after) :
    after.scripts = state.scripts ∧
      ∀ name depth site attributes, after.region ≠ .other name depth site attributes := by
  -- Every token either fails or leaves the state with a template or outside, and with the same
  -- scripts.
  rw [inTemplate] at made
  split at made
  · simp only [Except.bind_eq_ok_iff] at made
    obtain ⟨_, -, _, -, made⟩ := made
    obtain rfl := Except.pure_eq_ok_iff.mp made
    exact ⟨rfl, by simp⟩
  · simp only [Except.bind_eq_ok_iff] at made
    obtain ⟨_, -, _, -, made⟩ := made
    obtain rfl := Except.pure_eq_ok_iff.mp made
    exact ⟨rfl, by simp⟩
  · rw [closeInTemplate, Except.bind_eq_ok_iff] at made
    obtain ⟨_, -, made⟩ := made
    split at made
    · split at made
      · obtain rfl := Except.pure_eq_ok_iff.mp made
        exact ⟨rfl, by simp⟩
      · split at made
        · obtain rfl := Except.pure_eq_ok_iff.mp made
          exact ⟨rfl, by simp⟩
        · contradiction
    · split at made
      · obtain rfl := Except.pure_eq_ok_iff.mp made
        exact ⟨rfl, by simp⟩
      · split at made
        · obtain rfl := Except.pure_eq_ok_iff.mp made
          exact ⟨rfl, by simp⟩
        · split at made <;> contradiction
  · obtain rfl := Except.ok.inj made
    exact ⟨rfl, by simp⟩
  · rw [Except.bind_eq_ok_iff] at made
    obtain ⟨_, -, made⟩ := made
    obtain rfl := Except.pure_eq_ok_iff.mp made
    exact ⟨rfl, by simp⟩

/-- A start tag at the top level opens a template or another block of its name. -/
theorem openBlock_region {name raw : Text} {attributes : List Markup.Attribute}
    (made : openBlock state token name attributes raw = .ok after) :
    after.scripts = state.scripts ∧
      (name = "template".toList ∧ (∃ draft, after.region = .template draft) ∨
        after.region =
          .other name 0 ⟨token.offset + raw.length, token.position⟩ attributes) := by
  rw [openBlock] at made
  dsimp only at made
  split at made
  next isTemplate =>
    split at made
    · contradiction
    · obtain rfl := Except.ok.inj made
      exact ⟨rfl, .inl ⟨isTemplate, _, rfl⟩⟩
  next =>
    split at made
    · split at made
      · split at made
        · contradiction
        · obtain rfl := Except.ok.inj made
          exact ⟨rfl, .inr rfl⟩
      · split at made
        · contradiction
        · obtain rfl := Except.ok.inj made
          exact ⟨rfl, .inr rfl⟩
    · obtain rfl := Except.ok.inj made
      exact ⟨rfl, .inr rfl⟩

theorem not_opensScript {content : TokenContent} {position : Position}
    (other : ∀ attributes raw, content ≠ .startTag scriptName attributes raw) (start : Nat) :
    ¬ OpensScript ⟨n, position, content⟩ start := by
  rintro ⟨attributes, raw, same, -⟩
  exact other attributes raw same

/-- In a block of another name a token changes at most its depth, or closes it. -/
theorem step_otherBlock {name : Text} {depth : Nat} {site : Site}
    {attributes : List Markup.Attribute} (region : state.region = .other name depth site attributes)
    (differs : name ≠ scriptName) (made : Assembly.step source state token = .ok after) :
    after.scripts = state.scripts ∧ (after.region = .outside ∨
      ∃ depth', after.region = .other name depth' site attributes) := by
  have plain : name ≠ "script".toList := differs
  obtain ⟨offset, position, content⟩ := token
  rw [Assembly.step, region] at made
  cases content with
  | startTag inner _ _ =>
    dsimp only at made
    split at made
    · obtain rfl := Except.ok.inj made
      exact ⟨rfl, .inr ⟨_, rfl⟩⟩
    · obtain rfl := Except.ok.inj made
      exact ⟨rfl, .inr ⟨_, region⟩⟩
  | endTag inner =>
    dsimp only at made
    split at made
    · cases depth with
      | zero =>
        obtain rfl := Except.ok.inj made
        rw [closeOther, if_neg plain]
        exact ⟨rfl, .inl rfl⟩
      | succ depth =>
        obtain rfl := Except.ok.inj made
        exact ⟨rfl, .inr ⟨_, rfl⟩⟩
    · obtain rfl := Except.ok.inj made
      exact ⟨rfl, .inr ⟨_, region⟩⟩
  | selfClosing _ _ | text _ | comment _ =>
    obtain rfl := Except.ok.inj made
    exact ⟨rfl, .inr ⟨_, region⟩⟩

/-- Outside scripts before and after, a token has nothing to do with them unless it opens one. -/
theorem scriptStep_of_not_inScript {m : Nat} {next : Option Text}
    (before : ∀ depth site attributes, state.region ≠ .other scriptName depth site attributes)
    (behind : ∀ depth site attributes, after.region ≠ .other scriptName depth site attributes)
    (opens : state.region = .outside → ∀ start, ¬ OpensScript token start)
    (scripts : after.scripts = state.scripts) :
    ScriptStep source state token after ∧ Aligned m next after :=
  ⟨.elsewhere ⟨not_inScript_of_region before, not_inScript_of_region behind, opens, scripts⟩,
    aligned_of_region behind⟩

section Steps

variable {length : Nat} {next : Option Text} {content : TokenContent} {position : Position}

/-- At the top level a start tag opens a script or another block, and the tokenizer goes into a
script with it. -/
theorem scriptStep_of_openBlock {name raw : Text} {attributes : List Markup.Attribute}
    (fits : Step.Fits element (t.drop n) ⟨some (.startTag name attributes raw), length, next⟩)
    (outside : state.region = .outside)
    (made : openBlock state ⟨n, position, .startTag name attributes raw⟩ name attributes raw =
      .ok after) :
    ScriptStep source state ⟨n, position, .startTag name attributes raw⟩ after ∧
      Aligned (n + length) next after := by
  obtain ⟨-, written⟩ := fits.content _ rfl
  obtain ⟨scripts, region⟩ := openBlock_region made
  have size : raw.length = length := by
    rw [written, List.length_take, Nat.min_eq_left fits.within]
  by_cases isScript : name = scriptName
  · subst isScript
    rcases region with ⟨isTemplate, -⟩ | region
    · exact absurd isTemplate (by decide)
    · refine ⟨.opens outside ⟨attributes, raw, rfl, rfl⟩ ⟨_, _, region, rfl⟩ scripts, ?_⟩
      intro depth site attributes' region'
      obtain ⟨-, rfl, rfl, -⟩ := Region.other.inj (region.symm.trans region')
      exact ⟨rfl, fits.next, by simp only [size]; exact Nat.le_refl _⟩
  · refine scriptStep_of_not_inScript (by simp [outside]) ?_
      (fun _ => not_opensScript (by simp [isScript])) scripts
    rcases region with ⟨-, draft, region⟩ | region
    · simp [region]
    · simp [region, isScript]

/-- At the top level any other token changes nothing. -/
theorem scriptStep_of_outside
    (fits : Step.Fits element (t.drop n) ⟨some content, length, next⟩)
    (outside : state.region = .outside)
    (made : Assembly.step source state ⟨n, position, content⟩ = .ok after) :
    ScriptStep source state ⟨n, position, content⟩ after ∧ Aligned (n + length) next after := by
  rw [Assembly.step, outside] at made
  cases content with
  | startTag name attributes raw => exact scriptStep_of_openBlock fits outside made
  | _ =>
    obtain rfl := Except.ok.inj made
    exact scriptStep_of_not_inScript (by simp [outside]) (by simp [outside])
      (fun _ => not_opensScript (by simp)) rfl

/-- Inside a script the tokenizer comes to text, which is passed over, or to the end tag, which
closes the script. -/
theorem scriptStep_of_script {site : Site} {attributes : List Markup.Attribute}
    (region : state.region = .other scriptName 0 site attributes) (within : site.content ≤ n)
    (found : step? (some scriptName) (t.drop n) = .ok (some ⟨some content, length, next⟩))
    (fits : Step.Fits (some scriptName) (t.drop n) ⟨some content, length, next⟩)
    (made : Assembly.step source state ⟨n, position, content⟩ = .ok after) :
    ScriptStep source state ⟨n, position, content⟩ after ∧ Aligned (n + length) next after := by
  rw [Assembly.step, region] at made
  rcases content_of_step?_enclosed found rfl with rfl | ⟨text, rfl⟩
  · obtain rfl := Except.ok.inj made
    refine ⟨.closes ⟨site, attributes, region, rfl⟩ rfl rfl rfl rfl rfl, ?_⟩
    exact aligned_of_region (by simp [closeOther, scriptName])
  · obtain rfl := Except.ok.inj made
    refine ⟨.inside ⟨site, attributes, region, rfl⟩ rfl rfl, ?_⟩
    intro depth site' attributes' region'
    obtain ⟨-, rfl, rfl, -⟩ := Region.other.inj (region.symm.trans region')
    exact ⟨rfl, fits.next, Nat.le_add_right_of_le within⟩

/-- What one token does to scripts, and where the tokenizer is then. -/
theorem scriptStep_of_step (aligned : Aligned n element state) (nonempty : t.drop n ≠ [])
    (found : step? element (t.drop n) = .ok (some ⟨some content, length, next⟩))
    (made : Assembly.step source state ⟨n, t.positionAt n, content⟩ = .ok after) :
    ScriptStep source state ⟨n, t.positionAt n, content⟩ after ∧
      Aligned (n + length) next after := by
  have fits := step?_fits nonempty found
  cases region : state.region with
  | outside => exact scriptStep_of_outside fits region made
  | template draft =>
    rw [Assembly.step, region] at made
    obtain ⟨scripts, stays⟩ := inTemplate_region made
    exact scriptStep_of_not_inScript (by simp [region]) (stays _) (by simp [region]) scripts
  | other name depth site attributes =>
    by_cases isScript : name = scriptName
    · subst isScript
      -- The tokenizer is inside the script with the state, so no start tag comes.
      obtain ⟨rfl, rfl, within⟩ := aligned _ _ _ region
      exact scriptStep_of_script region within found fits made
    · obtain ⟨scripts, stays⟩ := step_otherBlock region isScript made
      refine scriptStep_of_not_inScript (by simp [region, isScript]) ?_ (by simp [region]) scripts
      rcases stays with outside | ⟨depth', stays⟩
      · simp [outside]
      · simp [stays, isScript]

end Steps

/-! ## The scripts of a row of tokens -/

theorem hasScript_cons (stepped : Assembly.step source state token = .ok after) :
    HasScript source state (token :: tokens) extent ↔
      (state.region = .outside ∧ OpensScript token extent.start ∧
        ClosesScript tokens extent.stop) ∨ HasScript source after tokens extent := by
  constructor
  · rintro ⟨front, opening, later, split, ⟨middle, ran, outside⟩, opens, closes⟩
    cases front with
    | nil =>
      obtain ⟨rfl, rfl⟩ := List.cons.inj split
      obtain rfl := Except.ok.inj ran
      exact .inl ⟨outside, opens, closes⟩
    | cons first front =>
      obtain ⟨rfl, rfl⟩ := List.cons.inj split
      obtain ⟨_, stepped', ran⟩ := through_cons_eq_ok.mp ran
      obtain rfl := Except.ok.inj (stepped.symm.trans stepped')
      exact .inr ⟨front, opening, later, rfl, ⟨middle, ran, outside⟩, opens, closes⟩
  · rintro (⟨outside, opens, closes⟩ | ⟨front, opening, later, rfl, ⟨middle, ran, outside⟩, rest⟩)
    · exact ⟨[], token, tokens, rfl, ⟨state, rfl, outside⟩, opens, closes⟩
    · exact ⟨token :: front, opening, later, rfl,
        ⟨middle, through_cons_eq_ok.mpr ⟨after, stepped, ran⟩, outside⟩, rest⟩

theorem closesScript_cons {stop : Nat} :
    ClosesScript (token :: tokens) stop ↔
      (token.content = .endTag scriptName ∧ token.offset = stop) ∨
        (∃ t, token.content = .text t) ∧ ClosesScript tokens stop := by
  constructor
  · rintro ⟨inner, closing, back, split, texts, tag, place⟩
    cases inner with
    | nil =>
      obtain ⟨rfl, rfl⟩ := List.cons.inj split
      exact .inl ⟨tag, place⟩
    | cons first inner =>
      obtain ⟨rfl, rfl⟩ := List.cons.inj split
      rw [List.forall_mem_cons] at texts
      exact .inr ⟨texts.1, inner, closing, back, rfl, texts.2, tag, place⟩
  · rintro (⟨tag, place⟩ | ⟨text, inner, closing, back, rfl, texts, tag, place⟩)
    · exact ⟨[], token, tokens, rfl, by simp, tag, place⟩
    · exact ⟨token :: inner, closing, back, rfl, List.forall_mem_cons.mpr ⟨text, texts⟩, tag, place⟩

theorem OpensScript.unique {start start' : Nat} (opens : OpensScript token start)
    (opens' : OpensScript token start') : start = start' := by
  obtain ⟨_, _, tag, rfl⟩ := opens
  obtain ⟨_, _, tag', rfl⟩ := opens'
  obtain ⟨-, -, rfl⟩ := TokenContent.startTag.inj (tag.symm.trans tag')
  rfl

/-- A token that closes a script leaves the scripts behind it. -/
theorem stillHasScript_of_closes {start : Nat}
    (stepped : Assembly.step source state token = .ok after) (inside : state.InScript start)
    (tag : token.content = .endTag scriptName) (outside : after.region = .outside) :
    StillHasScript source state (token :: tokens) extent ↔
      extent = ⟨start, token.offset⟩ ∨ StillHasScript source after tokens extent := by
  rw [StillHasScript, StillHasScript, hasScript_cons stepped, closesScript_cons]
  constructor
  · rintro ((⟨outside', -⟩ | later) | ⟨inside', ⟨-, place⟩ | ⟨⟨_, text⟩, -⟩⟩)
    · exact absurd outside' inside.not_outside
    · exact .inr (.inl later)
    · obtain rfl := inside.unique inside'
      rw [place]
      exact .inl rfl
    · exact absurd (tag.symm.trans text) (by simp)
  · rintro (rfl | later | ⟨inside', -⟩)
    · exact .inr ⟨inside, .inl ⟨tag, rfl⟩⟩
    · exact .inl (.inr later)
    · exact absurd outside inside'.not_outside

/-- Any other token leaves the scripts as they are. -/
theorem stillHasScript_of_not_closes (stepped : Assembly.step source state token = .ok after)
    (does : ScriptStep source state token after)
    (open? : ∀ start, state.InScript start → token.content ≠ .endTag scriptName) :
    StillHasScript source state (token :: tokens) extent ↔
      StillHasScript source after tokens extent := by
  rw [StillHasScript, StillHasScript, hasScript_cons stepped, closesScript_cons]
  cases does with
  -- A script that opens here is closed later, so it is the one that is open behind the token.
  | opens outside opens inside =>
    constructor
    · rintro ((⟨-, opens', closes⟩ | later) | ⟨inside', -⟩)
      · obtain rfl := opens.unique opens'
        exact .inr ⟨inside, closes⟩
      · exact .inl later
      · exact absurd outside inside'.not_outside
    · rintro (later | ⟨inside', closes⟩)
      · exact .inl (.inr later)
      · obtain rfl := inside.unique inside'
        exact .inl (.inl ⟨outside, opens, closes⟩)
  | inside inside text same =>
    subst same
    constructor
    · rintro ((⟨outside, -⟩ | later) | ⟨inside', ⟨tag, -⟩ | ⟨-, closes⟩⟩)
      · exact absurd outside inside.not_outside
      · exact .inl later
      · exact absurd tag (open? _ inside')
      · exact .inr ⟨inside', closes⟩
    · rintro (later | ⟨inside', closes⟩)
      · exact .inl (.inr later)
      · exact .inr ⟨inside', .inr ⟨⟨_, text⟩, closes⟩⟩
  | closes inside tag => exact absurd tag (open? _ inside)
  | elsewhere elsewhere =>
    constructor
    · rintro ((⟨outside, opens, -⟩ | later) | ⟨inside, -⟩)
      · exact absurd opens (elsewhere.opens outside _)
      · exact .inl later
      · exact absurd inside (elsewhere.before _)
    · rintro (later | ⟨inside, -⟩)
      · exact .inl (.inr later)
      · exact absurd inside (elsewhere.behind _)

/-- The script was found with this body. -/
def FoundAt (source : Text) (script : FoundScript) (extent : ScriptExtent) : Prop :=
  script.position = source.positionAt (extent.start : Int) ∧
    script.body = source.slice extent.start extent.stop

/-- The extents stand in the text behind a place, one behind the other. -/
structure InOrder (t : Text) (n : Nat) (state : State) (extents : List ScriptExtent) : Prop where
  apart : extents.Pairwise fun extent later => extent.stop < later.start
  within : ∀ extent ∈ extents, extent.start ≤ extent.stop ∧ n ≤ extent.stop ∧
    extent.stop < t.length
  behind : ∀ m ≤ n, (∀ start, state.InScript start → m ≤ start) →
    ∀ extent ∈ extents, m ≤ extent.start

theorem InOrder.earlier {m : Nat} {extents : List ScriptExtent} (order : InOrder t m after extents)
    (before : n ≤ m) (starts : ∀ k ≤ n, (∀ start, state.InScript start → k ≤ start) →
      ∀ start, after.InScript start → k ≤ start) : InOrder t n state extents where
  apart := order.apart
  within extent member :=
    have within := order.within extent member
    ⟨within.1, Nat.le_trans before within.2.1, within.2.2⟩
  behind k first inside := order.behind k (Nat.le_trans first before) (starts k first inside)

/-- A script that is closed here stands before those that are opened later. -/
theorem InOrder.closed {m start : Nat} {extents : List ScriptExtent}
    (order : InOrder t m after extents) (onward : n < m) (outside : after.region = .outside)
    (inside : state.InScript start) (before : start ≤ n) (within : n < t.length) :
    InOrder t n state (⟨start, n⟩ :: extents) where
  apart := by
    refine List.pairwise_cons.mpr ⟨?_, order.apart⟩
    intro later member
    have behind := order.behind m (Nat.le_refl m)
      (fun start inside => absurd outside inside.not_outside) later member
    exact Nat.lt_of_lt_of_le onward behind
  within := by
    refine List.forall_mem_cons.mpr ⟨⟨before, Nat.le_refl n, within⟩, ?_⟩
    intro extent member
    obtain ⟨ordered, behind, within⟩ := order.within extent member
    exact ⟨ordered, by omega, within⟩
  behind k first starts := by
    refine List.forall_mem_cons.mpr ⟨starts start inside, ?_⟩
    exact order.behind k (by omega) fun start inside => absurd outside inside.not_outside

/-- The scripts that are found from a state on are those that the row of tokens has, in their
order. -/
structure FoundFrom (source t : Text) (n : Nat) (state last : State) (tokens : List Token)
    (found : List FoundScript) (extents : List ScriptExtent) : Prop where
  scripts : last.scripts = state.scripts ++ found
  each : List.Forall₂ (FoundAt source) found extents
  has : ∀ extent, extent ∈ extents ↔ StillHasScript source state tokens extent
  order : InOrder t n state extents

section FoundFrom

variable {m : Nat} {found : List FoundScript} {extents : List ScriptExtent}

theorem FoundFrom.nil (source t : Text) (n : Nat) (state : State) :
    FoundFrom source t n state state [] [] [] where
  scripts := (List.append_nil _).symm
  each := .nil
  has extent := by simp [StillHasScript, HasScript, ClosesScript]
  order := ⟨.nil, by simp, by simp⟩

/-- Where no script is closed, the scripts are those of the later tokens. -/
theorem FoundFrom.of_not_closes
    (later : FoundFrom source t m after last tokens found extents)
    (stepped : step source state token = .ok after)
    (does : ScriptStep source state token after)
    (open? : ∀ start, state.InScript start → token.content ≠ .endTag scriptName)
    (scripts : after.scripts = state.scripts) (before : n ≤ m)
    (starts : ∀ k ≤ n, (∀ start, state.InScript start → k ≤ start) →
      ∀ start, after.InScript start → k ≤ start) :
    FoundFrom source t n state last (token :: tokens) found extents where
  scripts := by rw [later.scripts, scripts]
  each := later.each
  has extent := by rw [later.has, stillHasScript_of_not_closes stepped does open?]
  order := later.order.earlier before starts

/-- A script that is closed comes before those of the later tokens. -/
theorem FoundFrom.of_closes {script : FoundScript} {start : Nat}
    (later : FoundFrom source t m after last tokens found extents)
    (stepped : step source state token = .ok after) (inside : state.InScript start)
    (tag : token.content = .endTag scriptName) (outside : after.region = .outside)
    (scripts : after.scripts = state.scripts ++ [script])
    (here : FoundAt source script ⟨start, token.offset⟩) (onward : token.offset < m)
    (before : start ≤ token.offset) (within : token.offset < t.length) :
    FoundFrom source t token.offset state last (token :: tokens) (script :: found)
      (⟨start, token.offset⟩ :: extents) where
  scripts := by rw [later.scripts, scripts, List.append_assoc, List.singleton_append]
  each := .cons here later.each
  has extent := by
    rw [List.mem_cons, later.has, stillHasScript_of_closes stepped inside tag outside]
  order := later.order.closed onward outside inside before within

end FoundFrom

theorem exists_extents (reads : Reads t n element tokens) (aligned : Aligned n element state)
    (ran : through source state tokens = .ok last) :
    ∃ found extents, FoundFrom source t n state last tokens found extents := by
  induction reads generalizing state with
  | nil =>
    obtain rfl := Except.ok.inj ran
    exact ⟨[], [], .nil source t _ state⟩
  | @pass n length element next tokens nonempty found rest ih =>
    have aligned' : Aligned (n + length) next state := by
      intro depth site attributes region
      obtain ⟨-, rfl, -⟩ := aligned _ _ _ region
      exact absurd (isSome_content_of_step?_enclosed found) (by simp)
    obtain ⟨found, extents, later⟩ := ih aligned' ran
    exact ⟨found, extents, later.scripts, later.each, later.has,
      later.order.earlier (Nat.le_add_right n length) fun _ _ starts => starts⟩
  | @token n length element next content tokens nonempty found rest ih =>
    obtain ⟨after, stepped, ran⟩ := through_cons_eq_ok.mp ran
    -- What a token does to the scripts is one of four things, and each keeps the row of those
    -- found.
    obtain ⟨does, aligned'⟩ := scriptStep_of_step aligned nonempty found stepped
    obtain ⟨found', extents, later⟩ := ih aligned' ran
    have onward := (step?_fits nonempty found).onward
    have before : n ≤ n + length := Nat.le_add_right n length
    cases does with
    | opens outside opens inside scripts =>
      refine ⟨found', extents, later.of_not_closes stepped (.opens outside opens inside scripts)
        (fun start inside => absurd outside inside.not_outside) scripts before ?_⟩
      intro k first _ start inside'
      obtain rfl := inside.unique inside'
      obtain ⟨attributes, raw, -, rfl⟩ := opens
      exact Nat.le_add_right_of_le first
    | inside inside text unchanged =>
      subst unchanged
      refine ⟨found', extents, later.of_not_closes stepped (.inside inside text rfl) ?_ rfl before
        fun _ _ starts => starts⟩
      intro _ _ tag
      exact absurd (text.symm.trans tag) (by simp)
    | elsewhere elsewhere =>
      exact ⟨found', extents, later.of_not_closes stepped (.elsewhere elsewhere)
        (fun start inside => absurd inside (elsewhere.before start)) elsewhere.scripts before
        fun _ _ _ start inside => absurd inside (elsewhere.behind start)⟩
    | @closes start script inside tag outside scripts position body =>
      have here : n < t.length := by
        rw [Ne, List.drop_eq_nil_iff] at nonempty
        omega
      have first : start ≤ n := by
        obtain ⟨site, attributes, region, rfl⟩ := inside
        exact (aligned _ _ _ region).2.2
      exact ⟨script :: found', ⟨start, n⟩ :: extents,
        later.of_closes stepped inside tag outside scripts ⟨position, body⟩
          (Nat.lt_add_of_pos_right onward) first here⟩

end Assembly

end SfcLint
