/-
# Bodies of functions

A function is written in one of several forms, and each has its body found: the block behind the
parameters and the return type, or what stands behind the arrow. Parameters and blocks may hold any
code, with arrows and braces of its own. Behind the colon of a return type the first arrow and the
first brace are looked for, and neither can come from the type itself.
-/

import SfcLint.Proofs.Script.Expressions
import SfcLint.Proofs.Script.FunctionHead
import SfcLint.Proofs.Script.Surroundings

namespace SfcLint.Script

variable {t after before blanks body expression rest : Text} {c : Char}

/-! ## Blocks and expressions -/

/-- A bracket of the kind before the text is closed by the one behind it. -/
def Bracket.Fits (kind : Bracket) (inner : Text) : Prop :=
  matching? (kind.opener :: (inner ++ [kind.closer])) 0 = .ok (some (inner.length + 1))

theorem spanAt?_fits {kind : Bracket} {inner : Text} (fits : kind.Fits inner)
    (before after : Text) :
    spanAt? (before ++ kind.opener :: (inner ++ kind.closer :: after)) before.length =
      some ⟨before.length, before.length + inner.length + 1, inner⟩ := by
  have whole : before ++ (kind.opener :: (inner ++ [kind.closer])) ++ after =
      before ++ kind.opener :: (inner ++ kind.closer :: after) := by simp
  have encloses := (matching?_eq_some_iff.mp fits).append before after
  rw [whole] at encloses
  refine spanAt?_eq_some_iff.mpr ⟨rfl, encloses, ?_⟩
  simp only [Text.slice]
  rw [← List.drop_drop, List.drop_left, List.drop_one, List.tail_cons]
  have width : before.length + inner.length + 1 - (before.length + 1) = inner.length := by omega
  rw [width, List.take_left]

theorem blankWidth_blanks (blank : ∀ c ∈ blanks, Text.isBlank c = true)
    (stops : ∀ c, rest.head? = some c → Text.isBlank c = false) :
    Text.blankWidth (blanks ++ rest) = blanks.length := by
  rw [Text.blankWidth, List.takeWhile_append_of_pos blank]
  cases rest with
  | nil => simp
  | cons c rest =>
    rw [List.takeWhile_cons_of_neg (by rw [stops c rfl]; decide), List.append_nil]

theorem pastBlanks_blanks (before : Text) (blank : ∀ c ∈ blanks, Text.isBlank c = true)
    (rest : Text) (stops : ∀ c, rest.head? = some c → Text.isBlank c = false) :
    pastBlanks (before ++ (blanks ++ rest)) before.length = (before ++ blanks).length := by
  rw [pastBlanks, List.drop_left, blankWidth_blanks blank stops, List.length_append]

/-- The span of a block behind some text. -/
def blockBehind (before body : Text) : Span :=
  ⟨before.length, before.length + body.length + 1, body⟩

theorem spanAt?_block (fits : Bracket.curly.Fits body) (before after : Text) :
    spanAt? (before ++ '\x7b' :: (body ++ '\x7d' :: after)) before.length =
      some (blockBehind before body) :=
  spanAt?_fits fits before after

theorem arrowBody?_block (blank : ∀ c ∈ blanks, Text.isBlank c = true)
    (fits : Bracket.curly.Fits body) (before after : Text) :
    arrowBody? (before ++ (blanks ++ '\x7b' :: (body ++ '\x7d' :: after))) before.length =
      some (.block (blockBehind (before ++ blanks) body)) := by
  have target := pastBlanks_blanks before blank ('\x7b' :: (body ++ '\x7d' :: after))
    (by rintro c ⟨⟩; decide)
  rw [arrowBody?, target, ← List.append_assoc, List.drop_left, List.head?_cons, if_pos rfl,
    spanAt?_block fits]
  rfl

/-- Behind the blanks of an expression stands neither a blank nor a brace, also where nothing else
of it is left. -/
theorem visible_of_head?_stripStart (noBlock : (Text.strip expression).head? ≠ some '\x7b')
    (ends : EndsExpression after) (here : (Text.stripStart expression ++ after).head? = some c) :
    Text.isBlank c = false ∧ c ≠ '\x7b' := by
  rcases Text.stripStart_head expression with none | ⟨d, core, starts, visible⟩
  · rw [none, List.nil_append] at here
    exact ends.visible here
  · rw [starts] at here
    obtain rfl := Option.some.inj here
    refine ⟨visible, ?_⟩
    rintro rfl
    have kept := Text.stripEnd_append visible [] core
    rw [List.nil_append, List.nil_append] at kept
    exact noBlock (by rw [Text.strip, starts, kept, List.head?_cons])

theorem arrowBody?_expression (closed : Closed [',', ';'] expression)
    (noBlock : (Text.strip expression).head? ≠ some '\x7b') (ends : EndsExpression after)
    (before : Text) :
    arrowBody? (before ++ (expression ++ after)) before.length =
      some (.expression (Text.strip expression)) := by
  obtain ⟨blanks, blank, split⟩ := Text.exists_blanks_stripStart expression
  have whole : expression ++ after = blanks ++ (Text.stripStart expression ++ after) := by
    rw [← List.append_assoc, ← split]
  have width : expression.length = blanks.length + (Text.stripStart expression).length := by
    rw [← List.length_append, ← split]
  -- The length is known from the blanks on, and the blanks are passed over before.
  have length := expressionLength_closed closed ends
  rw [whole, expressionLength_blanks blank, width, Nat.add_left_cancel_iff] at length
  have visible {c : Char} (here : (Text.stripStart expression ++ after).head? = some c) :=
    visible_of_head?_stripStart noBlock ends here
  have target := pastBlanks_blanks before blank _ fun c here => (visible here).1
  have again := Text.stripStart_blanks blank (Text.stripStart expression)
  rw [← split] at again
  rw [whole, arrowBody?, target, ← List.append_assoc, List.drop_left,
    if_neg fun here => (visible here).2 rfl, length, List.take_left, Text.strip, ← again]
  rfl

/-! ## Return types -/

/-- A text that can be a return type: without braces, signs that begin literals, and arrows. -/
structure TypeText (type : Text) : Prop where
  plain : ∀ c ∈ type, c ∉ "\x7b\x7d'\"`/".toList
  noArrow : ¬ "=>".toList <:+: type

/-- The colon and the return type, perhaps behind blanks, or nothing. -/
inductive Returns : Text → Prop
  | absent : Returns []
  | present {blanks type : Text} : (∀ c ∈ blanks, Text.isBlank c = true) → TypeText type →
      Returns (blanks ++ ':' :: type)

theorem beginsNoLiteral_of_other (other : ∀ d ∈ "\x7b'\"`/".toList, c ≠ d) :
    BeginsNoLiteral c ∧ c ≠ '\x7b' :=
  ⟨⟨other _ (by decide), other _ (by decide), other _ (by decide), other _ (by decide)⟩,
    other _ (by decide)⟩

theorem beginsNoLiteral_of_blank (blank : Text.isBlank c = true) :
    BeginsNoLiteral c ∧ c ≠ '\x7b' := by
  have visible : ∀ d ∈ "\x7b'\"`/".toList, Text.isBlank d = false :=
    List.all_iff_forall_prop.mp (by decide)
  refine beginsNoLiteral_of_other fun d sign => ?_
  rintro rfl
  rw [visible c sign] at blank
  contradiction

theorem TypeText.beginsNoLiteral {type : Text} (isType : TypeText type) (member : c ∈ type) :
    BeginsNoLiteral c ∧ c ≠ '\x7b' := by
  have listed : ∀ d ∈ "\x7b'\"`/".toList, d ∈ "\x7b\x7d'\"`/".toList :=
    List.all_iff_forall_prop.mp (by decide)
  refine beginsNoLiteral_of_other fun d sign => ?_
  rintro rfl
  exact isType.plain c member (listed c sign)

/-- No arrow is found in a text that has none, also where it ends. -/
theorem offsetOf?_arrow (noArrow : ¬ "=>".toList <:+: t) (next : after.head? ≠ some '>') :
    Text.offsetOf? "=>" (t ++ after) = (Text.offsetOf? "=>" after).map (· + t.length) := by
  induction t with
  | nil => simp
  | cons c t ih =>
    have elsewhere : ¬ "=>".toList.isPrefixOf (c :: (t ++ after)) = true := by
      rw [List.isPrefixOf_iff_prefix]
      rintro ⟨rest, same⟩
      change '=' :: '>' :: rest = c :: (t ++ after) at same
      obtain ⟨rfl, behind⟩ := List.cons.inj same
      -- The other sign of the arrow would be the next one, here or in what follows.
      cases t with
      | nil =>
        obtain rfl : '>' :: rest = after := behind
        exact next rfl
      | cons d t =>
        obtain ⟨rfl, -⟩ := List.cons.inj behind
        exact noArrow ⟨[], t, rfl⟩
    have behind : ¬ "=>".toList <:+: t :=
      fun inside => noArrow (inside.trans (List.suffix_cons c t).isInfix)
    rw [List.cons_append, Text.offsetOf?, if_neg elsewhere, ih behind, Option.map_map]
    congr 1

/-- A sign that is not among some marks is looked for behind them. -/
theorem markOffset?_marks (absent : c ∉ t) (later : List Lexeme) :
    markOffset? c (t.map .mark ++ later) = (markOffset? c later).map (· + t.length) := by
  induction t with
  | nil => simp
  | cons d t ih =>
    rw [List.mem_cons, not_or] at absent
    rw [List.map_cons, List.cons_append, markOffset?, if_neg (Ne.symm absent.1), ih absent.2,
      Option.map_map]
    rfl

/-- Behind a colon and a return type the first arrow and the first brace in code are those of what
follows. -/
theorem searches_behind_type {type : Text} (isType : TypeText type)
    (blank : ∀ c ∈ blanks, Text.isBlank c = true) (next : after.head? ≠ some '>') :
    Text.offsetOf? "=>" (':' :: (type ++ (blanks ++ after))) =
        (Text.offsetOf? "=>" after).map (· + (type.length + blanks.length + 1)) ∧
      markOffset? '\x7b' (lexemes (':' :: (type ++ (blanks ++ after)))) =
        (markOffset? '\x7b' (lexemes after)).map (· + (type.length + blanks.length + 1)) := by
  have noSign {d : Char} (visible : Text.isBlank d = false) : d ∉ blanks := by
    intro member
    rw [blank d member] at visible
    contradiction
  constructor
  · have noArrow : ¬ "=>".toList <:+: blanks :=
      fun inside => noSign (d := '=') (by decide) (inside.subset List.mem_cons_self)
    -- A type may end with the first sign of an arrow, so what follows it must not be the other one.
    have behindType : (blanks ++ after).head? ≠ some '>' := by
      cases blanks with
      | nil => exact next
      | cons d blanks =>
        rintro ⟨⟩
        exact noSign (d := '>') (by decide) List.mem_cons_self
    have colon (u : Text) :
        Text.offsetOf? "=>" (':' :: u) = (Text.offsetOf? "=>" u).map (· + 1) := rfl
    rw [colon, offsetOf?_arrow isType.noArrow behindType, offsetOf?_arrow noArrow next,
      Option.map_map, Option.map_map]
    congr 1
    funext n
    simp only [Function.comp_apply]
    omega
  · have plain : ∀ d ∈ ':' :: (type ++ blanks), BeginsNoLiteral d ∧ d ≠ '\x7b' := by
      rw [List.forall_mem_cons, List.forall_mem_append]
      exact ⟨by decide, fun d member => isType.beginsNoLiteral member,
        fun d member => beginsNoLiteral_of_blank (blank d member)⟩
    have marks := lexemes_append_of_beginsNoLiteral (fun d member => (plain d member).1) after
    have found := markOffset?_marks (c := '\x7b') (fun member => (plain _ member).2 rfl)
      (lexemes after)
    rw [← marks] at found
    simpa [Nat.add_assoc] using found

/-! ## Behind the parameters -/

variable {returns : Text}

theorem blockAfter?_block (fits : Bracket.curly.Fits body) (before after : Text) :
    blockAfter? (before ++ '\x7b' :: (body ++ '\x7d' :: after)) before.length '\x7b' =
      some (blockBehind before body) := by
  rw [blockAfter?, List.drop_left, lexemes_cons_of_beginsNoLiteral (by decide), markOffset?,
    if_pos rfl, Option.bind_some, Nat.add_zero, spanAt?_block fits]

theorem le_start_of_blockAfter? {offset : Nat} {opener : Char} {span : Span}
    (found : blockAfter? t offset opener = some span) : offset ≤ span.start := by
  obtain ⟨n, -, found⟩ := Option.bind_eq_some_iff.mp found
  rw [(spanAt?_eq_some_iff.mp found).1]
  exact Nat.le_add_right offset n

theorem bodyAt?_block (fits : Bracket.curly.Fits body) (before after : Text) :
    bodyAt? (before ++ '\x7b' :: (body ++ '\x7d' :: after)) before.length =
      some (.block (blockBehind before body)) := by
  rw [bodyAt?, List.drop_left, spanAt?_block fits]
  rfl

theorem bodyAt?_arrow (before rest : Text) :
    bodyAt? (before ++ ("=>".toList ++ rest)) before.length =
      arrowBody? (before ++ ("=>".toList ++ rest)) (before ++ "=>".toList).length := by
  have split : "=>".toList ++ rest = '=' :: '>' :: rest := rfl
  rw [bodyAt?, List.drop_left, split, List.length_append]
  rfl

/-- Without a colon behind the parameters the body stands behind the blanks. -/
theorem bodyAfterParameters?_absent (blank : ∀ c ∈ blanks, Text.isBlank c = true)
    (stops : ∀ c, rest.head? = some c → Text.isBlank c = false ∧ c ≠ ':') (before : Text) :
    bodyAfterParameters? (before ++ (blanks ++ rest))
        (pastBlanks (before ++ (blanks ++ rest)) before.length) =
      bodyAt? (before ++ blanks ++ rest) (before ++ blanks).length := by
  rw [pastBlanks_blanks before blank rest (fun c first => (stops c first).1), bodyAfterParameters?,
    ← List.append_assoc, List.drop_left, if_neg fun first => (stops ':' first).2 rfl]

/-- Behind a colon the searches start as well behind the return type. -/
theorem bodyAfterParameters?_type {type : Text} (isType : TypeText type)
    (blank : ∀ c ∈ blanks, Text.isBlank c = true) (next : after.head? ≠ some '>') (before : Text) :
    bodyAfterParameters? (before ++ ':' :: (type ++ (blanks ++ after))) before.length =
      let front := before ++ ':' :: (type ++ blanks)
      let block := blockAfter? (front ++ after) front.length '\x7b'
      match Text.offsetOf? "=>" after with
      | none => block.map .block
      | some n =>
          if block.any (·.start < front.length + n) then block.map .block
          else bodyAt? (front ++ after) (front.length + n) := by
  obtain ⟨arrow, brace⟩ := searches_behind_type isType blank next
  have whole : before ++ ':' :: (type ++ (blanks ++ after)) =
      before ++ ':' :: (type ++ blanks) ++ after := by simp
  have width (n : Nat) : before.length + (n + (type.length + blanks.length + 1)) =
      (before ++ ':' :: (type ++ blanks)).length + n := by
    simp
    omega
  have block : blockAfter? (before ++ ':' :: (type ++ (blanks ++ after))) before.length '\x7b' =
      blockAfter? (before ++ ':' :: (type ++ blanks) ++ after)
        (before ++ ':' :: (type ++ blanks)).length '\x7b' := by
    rw [blockAfter?, blockAfter?, List.drop_left, List.drop_left, brace, Option.bind_map]
    simp only [Function.comp_def, width, whole]
  rw [bodyAfterParameters?, block, List.drop_left, List.head?_cons, if_pos rfl, arrow, whole]
  cases Text.offsetOf? "=>" after with
  | none => rfl
  | some n => simp only [Option.map_some, width]

/-- A block behind the parameters and the return type is the body. -/
theorem bodyAfterParameters?_block (isReturns : Returns returns)
    (blank : ∀ c ∈ blanks, Text.isBlank c = true) (fits : Bracket.curly.Fits body)
    (before after : Text) :
    bodyAfterParameters? (before ++ (returns ++ (blanks ++ '\x7b' :: (body ++ '\x7d' :: after))))
        (pastBlanks (before ++ (returns ++ (blanks ++ '\x7b' :: (body ++ '\x7d' :: after))))
          before.length) =
      some (.block (blockBehind (before ++ (returns ++ blanks)) body)) := by
  cases isReturns with
  | absent =>
    rw [List.nil_append, bodyAfterParameters?_absent blank (by rintro c ⟨⟩; decide),
      bodyAt?_block fits]
    rfl
  | @present blanks' type blank' isType =>
    have target := pastBlanks_blanks before blank'
      (':' :: (type ++ (blanks ++ '\x7b' :: (body ++ '\x7d' :: after))))
      (by rintro c ⟨⟩; decide)
    have whole : before ++ (blanks' ++ ':' :: type ++ blanks) =
        before ++ blanks' ++ ':' :: (type ++ blanks) := by simp
    rw [List.append_assoc, List.cons_append, target, ← List.append_assoc,
      bodyAfterParameters?_type isType blank (by simp), whole]
    -- An arrow can only stand behind the brace.
    have arrow (t : Text) :
        Text.offsetOf? "=>" ('\x7b' :: t) = (Text.offsetOf? "=>" t).map (· + 1) := rfl
    dsimp only
    rw [blockAfter?_block fits, arrow]
    cases Text.offsetOf? "=>" (body ++ '\x7d' :: after) with
    | none => rfl
    | some n =>
      rw [Option.map_some]
      dsimp only
      rw [if_pos (by simp [blockBehind])]
      rfl

/-- Where an arrow stands behind the parameters and the return type, the body stands behind it. -/
theorem bodyAfterParameters?_arrow (isReturns : Returns returns)
    (blank : ∀ c ∈ blanks, Text.isBlank c = true) (before rest : Text) :
    bodyAfterParameters? (before ++ (returns ++ (blanks ++ ("=>".toList ++ rest))))
        (pastBlanks (before ++ (returns ++ (blanks ++ ("=>".toList ++ rest)))) before.length) =
      arrowBody? (before ++ (returns ++ (blanks ++ ("=>".toList ++ rest))))
        (before ++ (returns ++ (blanks ++ "=>".toList))).length := by
  cases isReturns with
  | absent =>
    rw [List.nil_append, bodyAfterParameters?_absent blank (by rintro c ⟨⟩; decide),
      bodyAt?_arrow]
    simp only [List.append_assoc, List.nil_append]
  | @present blanks' type blank' isType =>
    have target := pastBlanks_blanks before blank'
      (':' :: (type ++ (blanks ++ ("=>".toList ++ rest)))) (by rintro c ⟨⟩; decide)
    have whole : before ++ (blanks' ++ ':' :: type ++ (blanks ++ "=>".toList)) =
        before ++ blanks' ++ ':' :: (type ++ blanks) ++ "=>".toList := by simp
    -- A block, if there is one, starts behind the arrow.
    have here : Text.offsetOf? "=>" ("=>".toList ++ rest) = some 0 := rfl
    rw [List.append_assoc, List.cons_append, target, ← List.append_assoc,
      bodyAfterParameters?_type isType blank (by simp), whole, here]
    dsimp only
    rw [Nat.add_zero, if_neg, bodyAt?_arrow]
    · simp
    · rw [Option.any_eq_true]
      rintro ⟨span, found, before⟩
      have start := le_start_of_blockAfter? found
      rw [decide_eq_true_eq] at before
      omega

/-! ## The forms -/

/-- A function or a method up to its block. -/
inductive BlockFront : Text → Prop
  | parameters {async keyword parameters returns : Text} : AsyncWord async → Keyword keyword →
      Bracket.round.Fits parameters → Returns returns →
        BlockFront (async ++ keyword ++ '(' :: (parameters ++ [')']) ++ returns)

/-- An arrow function up to its arrow, with parameters in brackets or with a single name. -/
inductive ArrowFront : Text → Prop
  | parameters {async parameters returns blanks : Text} : AsyncWord async →
      Bracket.round.Fits parameters → Returns returns → (∀ c ∈ blanks, Text.isBlank c = true) →
        ArrowFront (async ++ '(' :: (parameters ++ [')']) ++ (returns ++ (blanks ++ "=>".toList)))
  | name {async name blanks : Text} : AsyncWord async → KeyForm.name.Proper name →
      (∀ c ∈ blanks, Text.isBlank c = true) →
        ArrowFront (async ++ (name ++ (blanks ++ "=>".toList)))

variable {async keyword parameters name : Text}

theorem blankWidth_of_visible (visible : Text.isBlank c = false) (t : Text) :
    Text.blankWidth (c :: t) = 0 :=
  blankWidth_blanks (List.forall_mem_nil _) fun _ first => Option.some.inj first ▸ visible

/-- The parameters in their brackets are passed. -/
theorem functionBody?_parameters (isAsync : AsyncWord async) (isKeyword : Keyword keyword)
    (fits : Bracket.round.Fits parameters) (rest : Text) :
    functionBody? (async ++ keyword ++ '(' :: (parameters ++ [')']) ++ rest) =
      bodyAfterParameters? (async ++ keyword ++ '(' :: (parameters ++ [')']) ++ rest)
        (pastBlanks (async ++ keyword ++ '(' :: (parameters ++ [')']) ++ rest)
          (async ++ keyword ++ '(' :: (parameters ++ [')'])).length) := by
  have whole : async ++ keyword ++ '(' :: (parameters ++ [')']) ++ rest =
      async ++ keyword ++ '(' :: (parameters ++ ')' :: rest) := by simp
  have first : Text.blankWidth (async ++ keyword ++ '(' :: (parameters ++ ')' :: rest)) = 0 := by
    cases isAsync with
    | present => exact blankWidth_of_visible (by decide) _
    | absent =>
      cases isKeyword with
      | absent => exact blankWidth_of_visible (by decide) _
      | nameless => exact blankWidth_of_visible (by decide) _
      | named => exact blankWidth_of_visible (by decide) _
  -- No blanks stand before the bracket that the word and the keyword have not taken.
  obtain ⟨hit, found, stop⟩ :=
    exists_leading?_functionHead isAsync isKeyword (parameters ++ ')' :: rest)
  have target := pastBlanks_blanks (async ++ keyword) (List.forall_mem_nil _)
    ('(' :: (parameters ++ ')' :: rest)) (by rintro c ⟨⟩; decide)
  rw [List.nil_append, List.append_nil] at target
  have span : spanAt? (async ++ keyword ++ '(' :: (parameters ++ ')' :: rest))
      (async ++ keyword).length = some ⟨(async ++ keyword).length,
        (async ++ keyword).length + parameters.length + 1, parameters⟩ :=
    spanAt?_fits fits (async ++ keyword) rest
  have width : (async ++ keyword).length + parameters.length + 1 + 1 =
      (async ++ keyword ++ '(' :: (parameters ++ [')'])).length := by
    simp only [List.length_append, List.length_cons, List.length_nil]
    omega
  rw [whole, functionBody?, first, List.drop_zero,
    leading?_arrowParameter_of_keyword isAsync isKeyword, found]
  simp only [Option.map_some, Option.getD_some, stop, Nat.zero_add, target, List.drop_left,
    List.head?_cons, if_true, span, Option.bind_some, width]

/-- A single parameter is passed with its arrow. -/
theorem functionBody?_name (isAsync : AsyncWord async) (proper : KeyForm.name.Proper name)
    (blank : ∀ c ∈ blanks, Text.isBlank c = true) (rest : Text) :
    functionBody? (async ++ (name ++ (blanks ++ "=>".toList)) ++ rest) =
      arrowBody? (async ++ (name ++ (blanks ++ "=>".toList)) ++ rest)
        (async ++ (name ++ (blanks ++ "=>".toList))).length := by
  have first : Text.blankWidth (async ++ (name ++ (blanks ++ "=>".toList)) ++ rest) = 0 := by
    cases isAsync with
    | present => exact blankWidth_of_visible (by decide) _
    | absent =>
      obtain ⟨c, name, rfl, starts, -⟩ := proper
      exact blankWidth_of_visible
        (not_isBlank_of_startsKey (by rw [startsKey, starts, Bool.true_or])) _
  obtain ⟨hit, found, stop⟩ := exists_leading?_arrowParameter isAsync proper blank rest
  rw [functionBody?, first, List.drop_zero, found]
  dsimp only
  rw [stop, Nat.zero_add]

/-- Behind the arrow of an arrow function stands its body. -/
theorem ArrowFront.functionBody?_eq {front : Text} (isFront : ArrowFront front) (rest : Text) :
    functionBody? (front ++ rest) = arrowBody? (front ++ rest) front.length := by
  cases isFront with
  | @parameters async parameters returns blanks isAsync fits isReturns blank =>
    have passed := functionBody?_parameters isAsync .absent fits
      (returns ++ (blanks ++ ("=>".toList ++ rest)))
    rw [List.append_nil, bodyAfterParameters?_arrow isReturns blank] at passed
    simpa only [List.append_assoc] using passed
  | name isAsync proper blank => exact functionBody?_name isAsync proper blank rest

/-- **The body of a function is found in every form.** -/
theorem functionBody?_forms :
    (∀ front blanks body after : Text, BlockFront front ∨ ArrowFront front →
      (∀ c ∈ blanks, Text.isBlank c = true) → Bracket.curly.Fits body →
        functionBody? (front ++ (blanks ++ '\x7b' :: (body ++ '\x7d' :: after))) =
          some (.block ⟨(front ++ blanks).length, (front ++ blanks).length + body.length + 1,
            body⟩)) ∧
      ∀ front expression after : Text, ArrowFront front → Closed [',', ';'] expression →
        (Text.strip expression).head? ≠ some '\x7b' → EndsExpression after →
          functionBody? (front ++ (expression ++ after)) =
            some (.expression (Text.strip expression)) := by
  constructor
  · rintro front blanks body after (isFront | isFront) blank fits
    · obtain ⟨isAsync, isKeyword, fits', isReturns⟩ := isFront
      rw [List.append_assoc, functionBody?_parameters isAsync isKeyword fits',
        bodyAfterParameters?_block isReturns blank fits]
      simp only [blockBehind, List.append_assoc]
    · rw [isFront.functionBody?_eq]
      exact arrowBody?_block blank fits front after
  · intro front expression after isFront closed noBlock ends
    rw [isFront.functionBody?_eq]
    exact arrowBody?_expression closed noBlock ends front

/-- A generator with a bracket in its parameters and with a return type. In its block stand an arrow
and a brace. -/
def generator : Text :=
  "async function* read(at = ')'): Map<K, V> \x7b () => '\x7d' \x7d, next: 1"

/-- An arrow function whose return type ends with the sign of its arrow. -/
def typedArrow : Text := "async (x): a= => f([x, y]), next"

theorem functionBody?_forms_generator :
    functionBody? generator = some (.block ⟨42, 54, " () => '\x7d' "⟩) ∧
      functionBody? typedArrow = some (.expression "f([x, y])") := by
  have blank : ∀ c ∈ [' '], Text.isBlank c = true := Text.isBlank_space
  have isAsync : AsyncWord ("async".toList ++ [' ']) :=
    .present (List.cons_ne_nil ' ' []) blank
  constructor
  · have named : KeyForm.name.Proper "read".toList := proper_of_all (by decide) (by decide)
    have isKeyword := @Keyword.named ['*'] [' '] "read".toList [] (.inr rfl)
      (List.cons_ne_nil ' ' []) blank named (List.forall_mem_nil _)
    have fits : Bracket.round.Fits "at = ')'" := by cbv
    have isType : TypeText " Map<K, V>" :=
      ⟨List.all_iff_forall_prop.mp (by decide), by simp [List.infix_cons_iff]⟩
    have isReturns := @Returns.present [] _ (List.forall_mem_nil _) isType
    have block : Bracket.curly.Fits " () => '\x7d' " := by cbv
    have found := functionBody?_forms.1 _ [' '] _ ", next: 1"
      (.inl (.parameters isAsync isKeyword fits isReturns)) blank block
    unfold generator
    simpa using found
  · have fits : Bracket.round.Fits "x" := by cbv
    have isType : TypeText " a=" :=
      ⟨List.all_iff_forall_prop.mp (by decide), by simp [List.infix_cons_iff]⟩
    have isReturns := @Returns.present [] _ (List.forall_mem_nil _) isType
    have isFront := @ArrowFront.parameters _ _ _ [' '] isAsync fits isReturns blank
    have call : Closed [',', ';'] " f".toList := closed_of_all (by decide)
    have list : Closed [] "x, y".toList := closed_of_all (by decide)
    have bracketed : Closed [] ('[' :: ("x, y".toList ++ [']'])) := list.group .square
    have closed : Closed [',', ';']
        (" f".toList ++ '(' :: ('[' :: ("x, y".toList ++ [']']) ++ [')'])) :=
      call.append (bracketed.group .round) (apart_of_not_mem (by decide) _)
    have ends : EndsExpression ", next".toList := by
      rintro c ⟨⟩
      exact .inl rfl
    have found := functionBody?_forms.2 _ _ ", next" isFront closed (by decide) ends
    have strip : Text.strip (" f".toList ++ '(' :: ('[' :: ("x, y".toList ++ [']']) ++ [')'])) =
        "f([x, y])".toList := by decide
    rw [strip] at found
    unfold typedArrow
    simpa using found

end SfcLint.Script
