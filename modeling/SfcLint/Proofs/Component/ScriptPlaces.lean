/-
# Where the scripts of a file stand

The scripts of a file are joined by line breaks, and each keeps its offset in the joined text and
the position of its first character. The script at an offset is the last one that starts there or
before, and reading on from its first character leads to the position in the file. So each offset
in a script of the joined text leads to the place of the file where its character is written.
-/

import SfcLint.Proofs.Component.Scripts
import SfcLint.Proofs.Markup.Mask
import SfcLint.Proofs.Text.Join

namespace SfcLint

open Markup (maskInterpolations)

namespace Assembly

/-- The offset in the joined text of a script behind others. -/
def offsetBehind (scripts : List FoundScript) : Nat :=
  Text.joinWidth 1 (scripts.map (·.body))

@[simp]
theorem offsetBehind_nil : offsetBehind [] = 0 := rfl

theorem offsetBehind_cons (script : FoundScript) (scripts : List FoundScript) :
    offsetBehind (script :: scripts) = script.body.length + 1 + offsetBehind scripts := rfl

theorem segmentsFrom_append (offset : Nat) (front back : List FoundScript) :
    segmentsFrom offset (front ++ back) =
      segmentsFrom offset front ++ segmentsFrom (offset + offsetBehind front) back := by
  induction front generalizing offset with
  | nil => rfl
  | cons script front ih =>
    rw [List.cons_append, segmentsFrom, ih, segmentsFrom, List.cons_append, offsetBehind_cons]
    simp only [Nat.add_assoc]

theorem bounds_of_mem_segmentsFrom {offset : Nat} {scripts : List FoundScript}
    {segment : ScriptSegment} (member : segment ∈ segmentsFrom offset scripts) :
    offset ≤ segment.offset ∧ segment.offset ≤ offset + offsetBehind scripts := by
  induction scripts generalizing offset with
  | nil => simp [segmentsFrom] at member
  | cons script scripts ih =>
    rw [segmentsFrom, List.mem_cons] at member
    rw [offsetBehind_cons]
    rcases member with rfl | later
    · exact ⟨Nat.le_refl _, Nat.le_add_right _ _⟩
    · have bounds := ih later
      omega

/-- The segment of a script behind others. -/
def segmentBehind (front : List FoundScript) (script : FoundScript) : ScriptSegment :=
  ⟨offsetBehind front, script.position, script.setup, script.lang⟩

theorem segmentsFrom_split (front : List FoundScript) (script : FoundScript)
    (back : List FoundScript) :
    segmentsFrom 0 (front ++ script :: back) = segmentsFrom 0 front ++ segmentBehind front script ::
      segmentsFrom (offsetBehind front + script.body.length + 1) back := by
  rw [segmentsFrom_append, segmentsFrom, Nat.zero_add]
  rfl

/-- The joined text of some scripts. -/
def joined (scripts : List FoundScript) : Logic :=
  ⟨Text.join ['\n'] (scripts.map (·.body)), segmentsFrom 0 scripts⟩

/-- The script at an offset inside a script or right behind it is this one. -/
theorem segmentAt?_joined (front : List FoundScript) (script : FoundScript)
    (back : List FoundScript) {j : Nat} (within : j ≤ script.body.length) :
    (joined (front ++ script :: back)).segmentAt? ((offsetBehind front + j : Nat) : Int) =
      some (segmentBehind front script) := by
  have before : (segmentsFrom 0 front).filter (fun segment =>
      (segment.offset : Int) ≤ ((offsetBehind front + j : Nat) : Int)) = segmentsFrom 0 front := by
    rw [List.filter_eq_self]
    intro segment member
    have bounds := bounds_of_mem_segmentsFrom member
    simp only [decide_eq_true_eq]
    omega
  have behind : (segmentsFrom (offsetBehind front + script.body.length + 1) back).filter
      (fun segment => (segment.offset : Int) ≤ ((offsetBehind front + j : Nat) : Int)) = [] := by
    rw [List.filter_eq_nil_iff]
    intro segment member
    have bounds := bounds_of_mem_segmentsFrom member
    simp only [decide_eq_true_eq]
    omega
  have here : ((segmentBehind front script).offset : Int) ≤ ((offsetBehind front + j : Nat) : Int) :=
    by exact_mod_cast Nat.le_add_right (offsetBehind front) j
  rw [Logic.segmentAt?, joined, segmentsFrom_split, List.filter_append, before,
    List.filter_cons_of_pos (by simpa using here), behind]
  simp

/-- A script stands in the joined text at its offset. -/
theorem exists_drop_joined (front : List FoundScript) (script : FoundScript)
    (back : List FoundScript) :
    ∃ rest, (joined (front ++ script :: back)).text.drop (offsetBehind front) =
      script.body ++ rest := by
  rw [joined, List.map_append, List.map_cons]
  exact Text.exists_drop_join ['\n'] _ script.body _

/-- An offset inside a script leads to the position in the file that reading its body up to there
leads to. -/
theorem positionAt_joined (front : List FoundScript) (script : FoundScript)
    (back : List FoundScript) {j : Nat} (within : j ≤ script.body.length) :
    (joined (front ++ script :: back)).positionAt ((offsetBehind front + j : Nat) : Int) =
      script.position.after (script.body.take j) := by
  obtain ⟨rest, stands⟩ := exists_drop_joined front script back
  have reach : (((offsetBehind front + j : Nat) : Int) - (offsetBehind front : Int)).toNat = j := by
    omega
  rw [Logic.positionAt, segmentAt?_joined front script back within]
  dsimp only [segmentBehind]
  rw [reach, stands, List.take_append_of_le_length within]

@[simp]
theorem length_segmentsFrom (offset : Nat) (scripts : List FoundScript) :
    (segmentsFrom offset scripts).length = scripts.length := by
  induction scripts generalizing offset with
  | nil => rfl
  | cons script scripts ih => rw [segmentsFrom, List.length_cons, ih, List.length_cons]

/-- A segment is that of the script at its index. -/
theorem exists_split_of_segment {scripts : List FoundScript} {k : Nat} {segment : ScriptSegment}
    (stands : (segmentsFrom 0 scripts)[k]? = some segment) :
    ∃ front script back, scripts = front ++ script :: back ∧ front.length = k ∧
      segment = segmentBehind front script := by
  have within : k < scripts.length := by
    obtain ⟨within, -⟩ := List.getElem?_eq_some_iff.mp stands
    simpa using within
  have split : scripts = scripts.take k ++ scripts[k] :: scripts.drop (k + 1) := by
    rw [← List.drop_eq_getElem_cons within, List.take_append_drop]
  have width : (scripts.take k).length = k := by
    rw [List.length_take]
    omega
  refine ⟨_, _, _, split, width, ?_⟩
  rw [split, segmentsFrom_split, List.getElem?_append_right (by simp [width])] at stands
  simpa [width] using stands.symm

/-- What has been read of the scripts is what the component has of them. -/
theorem logic_of_finish {state : State} {component : Component}
    (finished : finish state = .ok component) : component.logic = logicOf state.scripts := by
  rw [finish] at finished
  split at finished
  next draft _ =>
    rw [Except.bind_eq_ok_iff] at finished
    obtain ⟨flushed, -, finished⟩ := finished
    split at finished <;> contradiction
  · split at finished
    · contradiction
    · rw [← Except.ok.inj finished]
  · rw [← Except.ok.inj finished]

theorem not_inScript_initial (start : Nat) : ¬ State.initial.InScript start :=
  not_inScript_of_region (by simp [State.initial]) start

theorem stillHasScript_initial {source : Text} {tokens : List Markup.Token}
    {extent : ScriptExtent} :
    StillHasScript source .initial tokens extent ↔ HasScript source .initial tokens extent :=
  or_iff_left fun inside => not_inScript_initial _ inside.1

end Assembly

open Assembly

variable {source : Text}

/-- The script blocks of a source text in their order: each is opened and closed by tags of the
masked text, and each ends before the next one starts. -/
structure ScriptsOf (source : Text) (extents : List ScriptExtent) : Prop where
  found : ∀ extent, extent ∈ extents ↔ ∃ tokens : List Markup.Token,
    Markup.tokens (maskInterpolations source) = tokens.map .ok ∧
      HasScript source .initial tokens extent
  apart : extents.Pairwise fun extent later => extent.stop < later.start
  within : ∀ extent ∈ extents, extent.start ≤ extent.stop ∧ extent.stop < source.length

/-- What is written in a script block. -/
def ScriptExtent.body (source : Text) (extent : ScriptExtent) : Text :=
  source.slice extent.start extent.stop

theorem ScriptExtent.take_body {extent : ScriptExtent} {j : Nat}
    (within : j ≤ extent.stop - extent.start) :
    (extent.body source).take j = (source.drop extent.start).take j := by
  rw [body, Text.slice, List.take_take, Nat.min_eq_left within]

theorem ScriptExtent.length_body {extent : ScriptExtent} (within : extent.stop ≤ source.length) :
    (extent.body source).length = extent.stop - extent.start := by
  rw [body, Text.slice, List.length_take, List.length_drop]
  omega

/-- The scripts that were found are those of the text. -/
theorem Component.exists_scriptsOf {component : Component}
    (accepted : ofSource source = .ok component) :
    ∃ scripts extents, component.logic = logicOf scripts ∧ ScriptsOf source extents ∧
      List.Forall₂ (FoundAt source) scripts extents := by
  obtain ⟨tokens, last, row, ran, finished⟩ := ofSource_eq_ok accepted
  have reads : Markup.Reads (maskInterpolations source) 0 none tokens :=
    Markup.reads_of_tokensAt row
  have aligned : Aligned 0 none State.initial := aligned_of_region (by simp [State.initial])
  obtain ⟨scripts, extents, ⟨same, each, has, order⟩⟩ := exists_extents reads aligned ran
  have size := (Markup.hides_maskInterpolations source).length_eq
  refine ⟨scripts, extents, ?_, ⟨?_, order.apart, ?_⟩, each⟩
  · rw [logic_of_finish finished, same]
    rfl
  · intro extent
    rw [has, stillHasScript_initial]
    constructor
    · exact fun has => ⟨tokens, row, has⟩
    · rintro ⟨tokens', row', has⟩
      have same : tokens' = tokens :=
        List.map_injective_iff.mpr (fun _ _ => Except.ok.inj) (row'.symm.trans row)
      exact same ▸ has
  · intro extent member
    obtain ⟨ordered, -, within⟩ := order.within extent member
    exact ⟨ordered, by omega⟩

/-- An offset in a script of the joined text leads to where its character is written. -/
theorem positionAt_joined_of_foundAt {front : List FoundScript} {script : FoundScript}
    (back : List FoundScript) {extent : ScriptExtent} (found : FoundAt source script extent)
    (within : extent.stop ≤ source.length) {j : Nat} (inside : j ≤ extent.stop - extent.start) :
    (joined (front ++ script :: back)).positionAt ((offsetBehind front + j : Nat) : Int) =
      source.positionAt ((extent.start + j : Nat) : Int) := by
  obtain ⟨position, body⟩ := found
  have size : script.body.length = extent.stop - extent.start := by
    rw [body]
    exact ScriptExtent.length_body within
  have front_body : script.body.take j = (source.drop extent.start).take j := by
    rw [body]
    exact ScriptExtent.take_body inside
  rw [positionAt_joined front script back (by omega), position, front_body, ← Text.positionAt_add]

/-- **Where the scripts of a file stand.** The joined script text of a component is what is written
in the script blocks of its source text, in their order and with a line break between two of them.
The body of each block starts in it at the offset of its segment, and from there on to the end of
the body each offset leads to the place of the source text where its character is written. -/
theorem script_places {component : Component} (accepted : Component.ofSource source = .ok component) :
    ∃ extents, ScriptsOf source extents ∧
      component.script? = (if extents.isEmpty then none
        else some (Text.join ['\n'] (extents.map (·.body source)))) ∧
      ∀ logic, component.logic = some logic → logic.segments.length = extents.length ∧
        ∀ (k : Nat) (segment : ScriptSegment) (extent : ScriptExtent),
          logic.segments[k]? = some segment → extents[k]? = some extent →
            extent.body source <+: logic.text.drop segment.offset ∧
              ∀ j ≤ extent.stop - extent.start,
                component.scriptPosition ((segment.offset + j : Nat) : Int) =
                  source.positionAt ((extent.start + j : Nat) : Int) := by
  obtain ⟨scripts, extents, has, scriptsOf, each⟩ := Component.exists_scriptsOf accepted
  have bodies : scripts.map (·.body) = extents.map (·.body source) := by
    rw [← List.forall₂_eq_eq_eq, List.forall₂_map_left_iff, List.forall₂_map_right_iff]
    exact each.imp fun _ _ found => found.2
  have sizes := each.length_eq
  refine ⟨extents, scriptsOf, ?_, ?_⟩
  · rw [Component.script?, has, logicOf, ← bodies]
    have empty : scripts.isEmpty = extents.isEmpty := by
      rw [Bool.eq_iff_iff, List.isEmpty_iff_length_eq_zero, List.isEmpty_iff_length_eq_zero, sizes]
    rw [empty]
    split <;> rfl
  · intro logic has'
    have made : logic = joined scripts := by
      rw [has, logicOf] at has'
      split at has'
      · contradiction
      · exact (Option.some.inj has').symm
    subst made
    refine ⟨by simp [joined, sizes], ?_⟩
    intro k segment extent segmentAt extentAt
    obtain ⟨front, script, back, rfl, rfl, rfl⟩ := exists_split_of_segment segmentAt
    have found : FoundAt source script extent := by
      obtain ⟨within, rfl⟩ := List.getElem?_eq_some_iff.mp extentAt
      have here := each.get (by simp) within
      simpa using here
    obtain ⟨-, within⟩ := scriptsOf.within extent (List.mem_of_getElem? extentAt)
    constructor
    · obtain ⟨rest, stands⟩ := exists_drop_joined front script back
      rw [found.2] at stands
      exact ⟨rest, stands.symm⟩
    · intro j inside
      rw [Component.scriptPosition, has']
      exact positionAt_joined_of_foundAt back found (Nat.le_of_lt within) inside

/-- A script, and a second one with a set-up. -/
def twoScripts : Text := "<script>\nlet a\n</script>\n<script setup>b</script>".toList

/-- Both scripts are in the joined text, and the second one, behind them, is in line 4. -/
theorem script_places_two :
    ∃ component extents, Component.ofSource twoScripts = .ok component ∧
      component.script? = some "\nlet a\n\nb".toList ∧
        component.scriptPosition 8 = ⟨4, 15⟩ ∧ ScriptsOf twoScripts extents ∧
          component.script? = some (Text.join ['\n'] (extents.map (·.body twoScripts))) := by
  have read : ((Component.ofSource twoScripts).toOption.map fun component =>
      (component.script?, component.scriptPosition 8)) =
        some (some "\nlet a\n\nb".toList, ⟨4, 15⟩) := by decide
  rw [Option.map_eq_some_iff] at read
  obtain ⟨component, accepted, read⟩ := read
  rw [Except.toOption_eq_some_iff] at accepted
  obtain ⟨script, position⟩ := Prod.mk.inj read
  obtain ⟨extents, scriptsOf, joined, -⟩ := script_places accepted
  refine ⟨component, extents, accepted, script, position, scriptsOf, ?_⟩
  rw [joined]
  split at joined
  · rw [script] at joined
    contradiction
  · simp_all

end SfcLint
