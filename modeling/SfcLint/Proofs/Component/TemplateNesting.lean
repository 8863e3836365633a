/-
# Templates are well nested

A template whose text opens no interpolations is made exactly when its tags are well nested up to
its end tag, and otherwise a fault of its structure is reported. Its tree then has what the tokens
tell, in their order: the runs of text that are not blank, the comments, and the elements, each
entered at its start tag and left at its end tag.
-/

import SfcLint.Proofs.Component.TemplateBlock
import SfcLint.Proofs.Markup.Mask

namespace SfcLint.Assembly

open Markup (Token TokenContent braces maskInterpolations nodesOfRun unmasked)

variable {source : Text} {state : State} {tokens : List Token}

/-- The token is found legible by reading its start tag. -/
def legible? (token : Token) : Bool :=
  match token.content with
  | .startTag name _ _ => (elementOf? token).any fun opened => Text.lower opened.tag == name
  | .selfClosing _ _ => (elementOf? token).isSome
  | _ => true

theorem legible?_iff {token : Token} : legible? token = true ↔ Legible token := by
  obtain ⟨n, position, content⟩ := token
  cases content with
  | startTag name attributes raw =>
    simp only [legible?, Legible, elementOf?]
    cases elementOf name raw position <;> simp [Except.toOption]
  | selfClosing name raw =>
    simp only [legible?, Legible, elementOf?]
    cases elementOf name raw position <;> simp [Except.toOption]
  | endTag _ | text _ | comment _ => simp [legible?, Legible]

instance : DecidablePred Legible := fun _ => decidable_of_iff _ legible?_iff

/-- The reading of a file goes on behind the block that is open. -/
theorem through_finish_eq_block (source : Text) (state : State) (tokens : List Token) :
    (through source state tokens).bind finish =
      (block source state tokens).bind fun ended =>
        (through source ended.1 ended.2).bind finish := by
  induction tokens generalizing state with
  | nil =>
    rw [block, through_nil]
    change finish state = _
    cases unfinished : finish state with
    | error failure => rfl
    | ok component => exact unfinished.symm
  | cons token tokens ih =>
    rw [block, through_cons]
    cases step source state token with
    | error failure => rfl
    | ok after =>
      have read := ih after
      obtain ⟨markup, scripts, plainSeen, setupSeen, region⟩ := after
      cases region with
      | outside => rfl
      | template draft => exact read
      | other name depth site attributes => exact read

theorem mem_consText {item : Item} {position : Position} {t : Text} {rest : List Item}
    (member : item ∈ consText position t rest) : (∃ t', item = .run position t') ∨ item ∈ rest := by
  rw [consText.eq_def] at member
  split at member
  · rcases List.mem_cons.mp member with rfl | later
    · exact .inl ⟨_, rfl⟩
    · exact .inr (List.mem_cons_of_mem _ later)
  · rcases List.mem_cons.mp member with rfl | later
    · exact .inl ⟨_, rfl⟩
    · exact .inr later

/-- The items that are no runs are tokens. -/
theorem mem_of_single_mem_items {token : Token} (member : .single token ∈ items tokens) :
    token ∈ tokens := by
  induction tokens with
  | nil => simp [items] at member
  | cons first later ih =>
    rw [items] at member
    split at member
    · rcases mem_consText member with ⟨_, same⟩ | member
      · contradiction
      · exact List.mem_cons_of_mem _ (ih member)
    · rcases List.mem_cons.mp member with same | member
      · exact List.mem_cons.mpr (.inl (Item.single.inj same))
      · exact List.mem_cons_of_mem _ (ih member)

/-- What an item adds to the outline when text opens no interpolations: a run is one text, unless
it is blank. -/
def Item.plainMarks : Item → List Mark
  | .run position t =>
      if Text.allBlank (unmasked t) then [] else [.text (unmasked t) position]
  | .single token => marksOf token

/-- A run of text opens no interpolation. -/
def Item.Plain : Item → Prop
  | .run _ t => ¬ braces <:+: t
  | .single _ => True

instance : DecidablePred Item.Plain
  | .run _ t => inferInstanceAs (Decidable (¬ braces <:+: t))
  | .single _ => inferInstanceAs (Decidable True)

theorem nodesOfRun_of_plain (position : Position) {t : Text} (plain : ¬ braces <:+: t) :
    nodesOfRun position (unmasked t) =
      .ok (if Text.allBlank (unmasked t) then [] else [.text (unmasked t) position]) :=
  Markup.nodesOfRun_of_no_braces position (mt Markup.braces_infix_unmasked_iff.mp plain)

theorem marks_eq_plainMarks {row : List Item} (plain : ∀ item ∈ row, item.Plain) :
    row.flatMap Item.marks = row.flatMap Item.plainMarks := by
  rw [List.flatMap_def, List.flatMap_def]
  refine congrArg List.flatten (List.map_congr_left ?_)
  rintro (⟨position, t⟩ | token) member
  · rw [Item.marks, runNodes, nodesOfRun_of_plain position (plain _ member), Item.plainMarks]
    split <;> rfl
  · rfl

theorem legible_of_mem_items (legible : ∀ token ∈ tokens, Legible token)
    (plain : ∀ item ∈ items tokens, item.Plain) : ∀ item ∈ items tokens, item.Legible := by
  rintro (⟨position, t⟩ | token) member
  · exact ⟨_, nodesOfRun_of_plain position (plain _ member)⟩
  · exact legible token (mem_of_single_mem_items member)

/-- Nothing that a template is read from enters a root. -/
theorem enterRoot_not_mem_plainMarks (item : Item) : .enterRoot ∉ item.plainMarks := by
  rcases item with ⟨position, t⟩ | token
  · rw [Item.plainMarks]
    split <;> simp
  · rw [Item.plainMarks, marksOf]
    split
    · cases elementOf? token with
      | none => simp
      | some opened =>
        simp only [Option.elim_some]
        split <;> simp [OpenElement.childless, OpenElement.enter, OpenElement.leave]
    · cases elementOf? token <;>
        simp [OpenElement.childless, OpenElement.enter, OpenElement.leave]
    · split <;> simp
    · simp
    · simp

theorem consText_append_single (position : Position) (t : Text) (row : List Item) (token : Token)
    (later : List Item) :
    consText position t (row ++ .single token :: later) =
      consText position t row ++ .single token :: later := by
  rcases row with _ | ⟨_ | _, _⟩ <;> rfl

/-- A token other than text ends the items before it. -/
theorem items_append {front later : List Token} {token : Token}
    (other : ∀ t, token.content ≠ .text t) :
    items (front ++ token :: later) = items front ++ .single token :: items later := by
  induction front with
  | nil => exact items_of_not_text other later
  | cons first front ih =>
    rw [List.cons_append, items, ih, items]
    split
    · exact consText_append_single _ _ _ _ _
    · rfl

/-- **Templates are well nested.** From its start tag on a template whose text opens no
interpolations is made exactly when its end tag follows on well nested tags; else a fault of its
structure is reported. The outline of its tree is what the tokens up to the end tag tell, in their
order, and only elements have children below the root. -/
theorem template_block (source : Text) {site : Site}
    (opened : state.region = .template ⟨site, [], [], none⟩)
    (legible : ∀ token ∈ tokens, Legible token) (plain : ∀ item ∈ items tokens, item.Plain) :
    ((∃ after later, block source state tokens = .ok (after, later)) ↔
        ∃ front closing later, tokens = front ++ closing :: later ∧
          closing.content = .endTag templateName ∧
            WellNested (front.filterMap nestingTag?)) ∧
      (∀ error, block source state tokens = .error error →
        ∃ fault position, error = .malformed fault position) ∧
      ∀ after later, block source state tokens = .ok (after, later) →
        ∃ front closing nodes, tokens = front ++ closing :: later ∧
          closing.content = .endTag templateName ∧
            after = state.closed source site nodes closing ∧
              Node.outlineAll nodes = (items front).flatMap Item.plainMarks ∧
                ∀ node ∈ Node.walkAll nodes, node.children ≠ [] → node.isElement = true := by
  have ends : BlockEnds source state ⟨site, [], [], none⟩ tokens (block source state tokens) :=
    blockEnds (by simp [Draft.Contentful, Draft.names]) opened (legible_of_mem_items legible plain)
  generalize block source state tokens = result at ends
  cases ends with
  | fails none =>
    refine ⟨⟨by simp, ?_⟩, ?_, by simp⟩
    · rintro ⟨front, closing, later, split, tag, nested⟩
      exact absurd ⟨split, tag, openAfter_eq_nil_iff.mpr nested⟩ (none front closing later)
    · rintro _ ⟨⟩
      exact ⟨_, _, rfl⟩
  | @closed front later closing nodes closedBy listed =>
    obtain ⟨rfl, tag, nested⟩ := closedBy
    refine ⟨⟨fun _ => ?_, fun _ => ⟨_, _, rfl⟩⟩, by simp, ?_⟩
    · exact ⟨front, closing, later, rfl, tag, openAfter_eq_nil_iff.mp nested⟩
    · rintro _ _ ⟨⟩
      have runs : ∀ item ∈ items front, item.Plain := by
        intro item member
        refine plain item ?_
        rw [items_append (by simp [tag])]
        exact List.mem_append_left _ member
      have outline : Node.outlineAll nodes = (items front).flatMap Item.plainMarks := by
        rw [listed, ← marks_eq_plainMarks runs]
        rfl
      refine ⟨front, closing, nodes, rfl, tag, rfl, outline, ?_⟩
      intro node member
      refine Node.isElement_of_children_ne_nil ?_ member
      rw [outline, List.mem_flatMap]
      rintro ⟨item, -, enters⟩
      exact enterRoot_not_mem_plainMarks item enters

/-- The tokens of a source text up to a failure. -/
def tokenRow (source : Text) : List Token :=
  (Markup.tokens (maskInterpolations source)).filterMap Except.toOption

/-- A template with an element that is closed in another letter case and an element without
content. -/
def mixedCase : Text := "<template><P>text<br></p></template>"

/-- The state in which a template is open whose start tag starts a file. -/
def templateAtStart : State :=
  { State.initial with region := .template ⟨⟨10, ⟨1, 1⟩⟩, [], [], none⟩ }

/-- The template is made: a paragraph is entered and left with a text and a break in it. -/
theorem template_block_mixedCase :
    ∃ after front closing nodes,
      block mixedCase templateAtStart (tokenRow mixedCase).tail = .ok (after, []) ∧
        (tokenRow mixedCase).tail = front ++ [closing] ∧
          after = templateAtStart.closed mixedCase ⟨10, ⟨1, 1⟩⟩ nodes closing ∧
            Node.outlineAll nodes =
              [.enter "P".toList [] ⟨1, 11⟩, .text "text".toList ⟨1, 14⟩,
                .enter "br".toList [] ⟨1, 18⟩, .leave "br".toList, .leave "p".toList] := by
  have read : (block mixedCase templateAtStart (tokenRow mixedCase).tail).toOption.map
      (fun ended => (ended.2, ended.1.markup.map fun markup => markup.root.outline)) =
        some ([], some (.enterRoot ::
          ([.enter "P".toList [] ⟨1, 11⟩, .text "text".toList ⟨1, 14⟩,
            .enter "br".toList [] ⟨1, 18⟩, .leave "br".toList, .leave "p".toList] ++
              [.leaveRoot]))) := by decide +kernel
  rw [Option.map_eq_some_iff] at read
  obtain ⟨⟨after, later⟩, made, read⟩ := read
  rw [Except.toOption_eq_some_iff] at made
  obtain ⟨rfl, outline⟩ := Prod.mk.inj read
  obtain ⟨-, -, tells⟩ := template_block mixedCase
    (show templateAtStart.region = .template ⟨⟨10, ⟨1, 1⟩⟩, [], [], none⟩ from rfl)
    (show ∀ token ∈ (tokenRow mixedCase).tail, Legible token by decide +kernel)
    (show ∀ item ∈ items (tokenRow mixedCase).tail, item.Plain by decide +kernel)
  obtain ⟨front, closing, nodes, split, -, closed, -, -⟩ := tells after [] made
  refine ⟨after, front, closing, nodes, made, split, closed, ?_⟩
  rw [closed] at outline
  exact List.append_cancel_right (List.cons.inj (Option.some.inj outline)).2

/-- Two single braces with markup between them that shows nothing. -/
def splitBraces : Text := "<template>\x7b<?x>\x7b</template>"

/-- The character that stands for hidden signs, in a text. -/
def maskInText : Text := "<template>".toList ++ Markup.mask :: "</template>".toList

/-- No stretch of text has two braces and the tags are well nested, but two stretches are a run that
opens an interpolation, and the file is at fault. In another template a character of a text is read
as another one. -/
theorem split_braces_open :
    ((tokenRow splitBraces).tail.map (·.content) =
          [.text ['\x7b'], .text ['\x7b'], .endTag templateName] ∧
        WellNested ((tokenRow splitBraces).tail.dropLast.filterMap nestingTag?) ∧
          Component.ofSource splitBraces =
            .error (.malformed .unclosedInterpolation ⟨1, 11⟩)) ∧
      (tokenRow maskInText).tail.map (·.content) =
          [.text [Markup.mask], .endTag templateName] ∧
        ∃ component, Component.ofSource maskInText = .ok component ∧
          component.template?.map Node.outline =
            some [.enterRoot, .text ['<'] ⟨1, 11⟩, .leaveRoot] := by
  have fault : (match Component.ofSource splitBraces with
      | .error failure => some failure
      | .ok _ => none) = some (.malformed .unclosedInterpolation ⟨1, 11⟩) := by decide +kernel
  refine ⟨⟨by decide +kernel, ?_, ?_⟩, by decide +kernel, ?_⟩
  · have neutral : (tokenRow splitBraces).tail.dropLast.filterMap nestingTag? = [] := by
      decide +kernel
    rw [neutral]
    exact .nil
  · generalize Component.ofSource splitBraces = result at fault
    cases result with
    | error failure => rw [Option.some.inj fault]
    | ok component => cases fault
  · have read : (Component.ofSource maskInText).toOption.map
        (fun component => component.template?.map Node.outline) =
          some (some [.enterRoot, .text ['<'] ⟨1, 11⟩, .leaveRoot]) := by decide +kernel
    rw [Option.map_eq_some_iff] at read
    obtain ⟨component, accepted, outline⟩ := read
    exact ⟨component, Except.toOption_eq_some_iff.mp accepted, outline⟩

end SfcLint.Assembly
