/-
# Removals of listeners

A listener counts as removed where a hook begins a call that removes it: the pattern reads up to the
handler as it is written and looks at nothing behind it. So another handler that only begins as this
one does counts as well. Where the call stands as a whole, nothing else counts: its first argument
is the event and its second one the handler. And what removes the listener is always counted.
-/

import Mathlib
import SfcLint.Proofs.Pattern.Language
import SfcLint.Proofs.Script.ClosedLists
import SfcLint.Script.Listener

namespace SfcLint.Script

/-- The text is a string with the event in it. -/
def IsEventString (event t : Text) : Prop :=
  ∃ quote, isQuote quote = true ∧ t = quote :: (event ++ [quote]) ∧ ∀ after, Literal t after

/-- A function of the name, on any object, is called at the place with these arguments. -/
structure CalledAt (name body : Text) (place : Nat) (args : Span) : Prop where
  fresh : ∀ c, (body.take place).getLast? = some c → Text.isNameChar c = false
  called : ∃ blanks, (∀ c ∈ blanks, Text.isBlank c = true) ∧
    name ++ (blanks ++ ['(']) <+: body.drop place ∧
      spanAt? body (place + (name ++ blanks).length) = some args

/-- The function that removes a listener. -/
def removalName : Text := "removeEventListener".toList

/-- A call with these arguments removes the listener: the first one is the event, the second one the
handler. -/
structure RemovesBy (listener : Listener) (body : Text) (args : Span) : Prop where
  called : ∃ place, CalledAt removalName body place args
  given : ∃ first others, splitCommas args.body = first :: listener.handler :: others ∧
    IsEventString listener.event first

/-- Blanks, possibly none. -/
abbrev Blanks := { t : Text // ∀ c ∈ t, Text.isBlank c = true }

/-- One of the three quotes. -/
abbrev QuoteSign := { c : Char // isQuote c = true }

/-- What a text that begins a removal may have between its words. -/
structure RemovalPhrase (listener : Listener) where
  blanks : Blanks
  front : Blanks
  opening : QuoteSign
  closing : QuoteSign
  back : Blanks
  space : Blanks

namespace RemovalPhrase

variable {listener : Listener}

/-- The event between its quotes. -/
def event (phrase : RemovalPhrase listener) : Text :=
  phrase.opening.1 :: (listener.event ++ [phrase.closing.1])

/-- The arguments up to the handler. -/
def arguments (phrase : RemovalPhrase listener) : Text :=
  phrase.front.1 ++ (phrase.event ++ phrase.back.1) ++ ',' :: (phrase.space.1 ++ listener.handler)

/-- The text that begins a removal, up to the handler. -/
def text (phrase : RemovalPhrase listener) : Text :=
  removalName ++ (phrase.blanks.1 ++ '(' :: phrase.arguments)

/-- The words and signs of the text and what stands between them. -/
def parts (phrase : RemovalPhrase listener) : List Text :=
  [removalName, phrase.blanks.1, ['('], phrase.front.1, [phrase.opening.1],
    listener.event, [phrase.closing.1], phrase.back.1, [','], phrase.space.1, listener.handler]

theorem flatten_parts (phrase : RemovalPhrase listener) : phrase.parts.flatten = phrase.text := by
  simp [parts, text, arguments, event]

end RemovalPhrase

/-- Where the phrase stands the call is a whole one: no identifier character stands before it, the
event is a string, and behind the handler the argument ends and the parenthesis is closed. -/
structure StandsWhole {listener : Listener} (phrase : RemovalPhrase listener)
    (before after : Text) : Prop where
  fresh : ∀ c, before.getLast? = some c → Text.isNameChar c = false
  event : IsEventString listener.event phrase.event
  handler : Closed [','] listener.handler
  ends : ∃ blanks c rest, (∀ d ∈ blanks, Text.isBlank d = true) ∧ (c = ',' ∨ c = ')') ∧
    after = blanks ++ c :: rest
  closes : (spanAt? (before ++ (phrase.text ++ after))
    (before ++ removalName ++ phrase.blanks.1).length).isSome

open Pattern

variable {listener : Listener} {hooks : CleanupHooks} {body before after t : Text}

/-! ## What the pattern looks for -/

theorem accepts_removal (listener : Listener) :
    Accepts (removal listener)
      (.silent fun t => ∃ phrase : RemovalPhrase listener, t = phrase.text) := by
  -- Each part of the pattern, in its order, with the texts that it takes.
  have row := @Accepts.all_silent [
    ("removeEventListener", (· = removalName)),
    (blanks, fun t => ∀ c ∈ t, Text.isBlank c = true), ("(", (· = ['('])),
    (blanks, fun t => ∀ c ∈ t, Text.isBlank c = true),
    (quote, fun t => ∃ c, isQuote c = true ∧ t = [c]),
    (literal listener.event, (· = listener.event)),
    (quote, fun t => ∃ c, isQuote c = true ∧ t = [c]),
    (blanks, fun t => ∀ c ∈ t, Text.isBlank c = true), (",", (· = [','])),
    (blanks, fun t => ∀ c ∈ t, Text.isBlank c = true),
    (literal listener.handler, (· = listener.handler))] (by
      have blank := accepts_many Text.isBlank
      simp only [List.forall_mem_cons]
      exact ⟨accepts_literal _, blank, accepts_literal _, blank, accepts_one _, accepts_literal _,
        accepts_one _, blank, accepts_literal _, blank, accepts_literal _, List.forall_mem_nil _⟩)
  refine Accepts.congr (p := removal listener) row fun t aside => and_congr_left' ⟨?_, ?_⟩
  · rintro ⟨_, _ | ⟨rfl, _ | ⟨blank, _ | ⟨rfl, _ | ⟨blank', _ | ⟨⟨opening, quoted, rfl⟩, _ | ⟨rfl,
      _ | ⟨⟨closing, quoted', rfl⟩, _ | ⟨blankBack, _ | ⟨rfl, _ | ⟨blankSpace, _ | ⟨rfl,
        _ | _⟩⟩⟩⟩⟩⟩⟩⟩⟩⟩⟩, rfl⟩
    let phrase : RemovalPhrase listener := ⟨⟨_, blank⟩, ⟨_, blank'⟩, ⟨opening, quoted⟩,
      ⟨closing, quoted'⟩, ⟨_, blankBack⟩, ⟨_, blankSpace⟩⟩
    exact ⟨phrase, phrase.flatten_parts⟩
  · rintro ⟨phrase, rfl⟩
    refine ⟨phrase.parts, ?_, phrase.flatten_parts.symm⟩
    exact .cons rfl (.cons phrase.blanks.2 (.cons rfl (.cons phrase.front.2 (.cons
      ⟨_, phrase.opening.2, rfl⟩ (.cons rfl (.cons ⟨_, phrase.closing.2, rfl⟩ (.cons
        phrase.back.2 (.cons rfl (.cons phrase.space.2 (.cons rfl .nil))))))))))

theorem hasRemoval_iff :
    hasRemoval listener hooks = true ↔
      ∃ body ∈ hooks.bodies, ∃ phrase : RemovalPhrase listener, phrase.text <:+: body := by
  rw [hasRemoval, List.any_eq_true]
  refine exists_congr fun body => and_congr_right fun _ => ?_
  rw [(accepts_removal listener).occursIn_iff]
  constructor
  · rintro ⟨_, _, ⟨⟨phrase, rfl⟩, rfl⟩, inside⟩
    exact ⟨phrase, inside⟩
  · rintro ⟨phrase, inside⟩
    exact ⟨_, _, ⟨⟨phrase, rfl⟩, rfl⟩, inside⟩

/-! ## Calls that stand as a whole -/

theorem isBlank_of_isQuote {c : Char} (quoted : isQuote c = true) : Text.isBlank c = false := by
  simp only [isQuote, Bool.or_eq_true, beq_iff_eq] at quoted
  rcases quoted with (rfl | rfl) | rfl <;> decide

theorem IsEventString.trimmed {event : Text} (isString : IsEventString event t) :
    Text.Trimmed t := by
  obtain ⟨quote, quoted, rfl, -⟩ := isString
  exact Text.trimmed_between (isBlank_of_isQuote quoted) (isBlank_of_isQuote quoted) _

theorem IsEventString.closed {event signs : Text} (isString : IsEventString event t) :
    Closed signs t := by
  obtain ⟨quote, -, -, literal⟩ := isString
  exact closed_of_literal literal

/-- Two closed texts between blanks, and then nothing or a comma, are the first two parts. -/
theorem exists_splitCommas {first second front back space blanks tail : Text}
    (closed : Closed [','] first) (trimmed : Text.Trimmed first)
    (closed' : Closed [','] second) (trimmed' : Text.Trimmed second)
    (blank : ∀ t ∈ [front, back, space, blanks], ∀ c ∈ t, Text.isBlank c = true)
    (ends : tail = [] ∨ ∃ more, tail = ',' :: more) :
    ∃ others, splitCommas
        (front ++ (first ++ back) ++ ',' :: (space ++ (second ++ blanks) ++ tail)) =
      first :: second :: others := by
  simp only [List.forall_mem_cons] at blank
  obtain ⟨blankFront, blankBack, blankSpace, blank, -⟩ := blank
  have firstClosed := closed.around not_isBlank_comma blankFront blankBack
  have secondClosed := closed'.around not_isBlank_comma blankSpace blank
  -- Behind the second text comes nothing or a comma, so a stretch ends there as well.
  obtain ⟨others, split⟩ : ∃ others, stretches [','] (space ++ (second ++ blanks) ++ tail) =
      (space ++ (second ++ blanks)) :: others := by
    rcases ends with rfl | ⟨more, rfl⟩
    · rw [List.append_nil]
      exact ⟨[], secondClosed.stretches_eq⟩
    · exact ⟨_, secondClosed.stretches_cons more⟩
  rw [splitCommas_eq, firstClosed.stretches_cons, split, List.map_cons, List.map_cons,
    trimmed.strip_around blankFront blankBack, trimmed'.strip_around blankSpace blank,
    List.filter_cons_of_pos (by simpa using trimmed.nonempty),
    List.filter_cons_of_pos (by simpa using trimmed'.nonempty)]
  exact ⟨_, rfl⟩

/-- Behind a comma the argument ends or another one follows, and behind a parenthesis nothing. -/
theorem take_closing {c : Char} {rest : Text} {n : Nat} (sign : c = ',' ∨ c = ')')
    (closes : lexemeClosing [.round] (lexemes (c :: rest)) = some n) :
    (c :: rest).take (n - 1) = [] ∨ ∃ more, (c :: rest).take (n - 1) = ',' :: more := by
  rcases sign with rfl | rfl
  · cases n - 1 with
    | zero => exact .inl rfl
    | succ m => exact .inr ⟨rest.take m, rfl⟩
  · have closer : lexemes (')' :: rest) = .mark Bracket.round.closer :: lexemes rest :=
      lexemes_of_mark rfl
    rw [closer, lexemeClosing_closer, lexemeClosing] at closes
    obtain rfl : 1 = n := Option.some.inj closes
    exact .inl rfl

/-- A phrase that stands as a whole is a removal of the listener. -/
theorem StandsWhole.removes {phrase : RemovalPhrase listener}
    (whole : StandsWhole phrase before after) (trimmed : Text.Trimmed listener.handler) :
    ∃ args, RemovesBy listener (before ++ (phrase.text ++ after)) args := by
  obtain ⟨fresh, event, handler, ⟨blanks, c, rest, blank, sign, rfl⟩, closes⟩ := whole
  have firstClosed := event.closed.around not_isBlank_comma phrase.front.2 phrase.back.2
  have secondClosed := handler.around not_isBlank_comma phrase.space.2 blank
  -- What stands in the parentheses up to the end of the second argument is closed.
  have closed : Closed [] (phrase.arguments ++ blanks) := by
    have comma : Closed [] [','] := closed_of_all (by decide)
    have both := (firstClosed.weaken (List.nil_subset _)).append
      (comma.append (secondClosed.weaken (List.nil_subset _)) (apart_of_not_mem (by decide) _))
      (apart_comma _ _)
    simpa [RemovalPhrase.arguments] using both
  have apart : Apart (phrase.arguments ++ blanks) (c :: rest) := by
    rcases sign with rfl | rfl <;> exact apart_cons (by decide) (by decide) _ _
  have text : before ++ (phrase.text ++ (blanks ++ c :: rest)) =
      (before ++ removalName ++ phrase.blanks.1) ++ Bracket.round.opener ::
        ((phrase.arguments ++ blanks) ++ c :: rest) := by
    simp [RemovalPhrase.text, Bracket.opener]
  obtain ⟨args, spanned⟩ := Option.isSome_iff_exists.mp closes
  -- The span goes on from there to the parenthesis that closes it.
  obtain ⟨n, ends, body⟩ : ∃ n, lexemeClosing [.round] (lexemes (c :: rest)) = some n ∧
      args.body = phrase.arguments ++ blanks ++ (c :: rest).take (n - 1) := by
    rw [text, spanAt?_closed closed apart, Option.map_eq_some_iff] at spanned
    obtain ⟨n, ends, rfl⟩ := spanned
    exact ⟨n, ends, rfl⟩
  have between : ∀ t ∈ [phrase.front.1, phrase.back.1, phrase.space.1, blanks],
      ∀ c ∈ t, Text.isBlank c = true := by
    simp only [List.forall_mem_cons]
    exact ⟨phrase.front.2, phrase.back.2, phrase.space.2, blank, List.forall_mem_nil _⟩
  obtain ⟨others, parts⟩ := exists_splitCommas event.closed event.trimmed handler trimmed between
    (take_closing sign ends)
  refine ⟨args, ⟨before.length, ?_, phrase.blanks.1, phrase.blanks.2, ?_, ?_⟩,
    phrase.event, others, ?_, event⟩
  · rw [List.take_left]
    exact fresh
  · rw [List.drop_left]
    exact ⟨phrase.arguments ++ (blanks ++ c :: rest), by simp [RemovalPhrase.text]⟩
  · rw [← spanned]
    simp
  · rw [← parts, body]
    simp [RemovalPhrase.arguments]

/-! ## Removals are counted -/

theorem CalledAt.exists_prefix {name : Text} {place : Nat} {args : Span}
    (called : CalledAt name body place args) :
    ∃ blanks : Blanks, name ++ (blanks.1 ++ '(' :: args.body) <+: body.drop place := by
  obtain ⟨-, blanks, blank, ⟨rest, split⟩, spanned⟩ := called
  refine ⟨⟨blanks, blank⟩, ?_⟩
  obtain ⟨-, -, inner⟩ := spanAt?_eq_some_iff.mp spanned
  have width : (name ++ blanks).length + 1 = (name ++ (blanks ++ ['('])).length := by
    simp [Nat.add_assoc]
  have behind : body.drop (place + (name ++ blanks).length + 1) = rest := by
    rw [Nat.add_assoc, width, ← List.drop_drop, ← split, List.drop_left]
  have inside : args.body <+: rest := by
    rw [inner, Text.slice, behind]
    exact List.take_prefix _ rest
  obtain ⟨later, rfl⟩ := inside
  rw [← split]
  exact ⟨later, by simp⟩

/-- Where no argument is left out, what removes the listener begins with the phrase. -/
theorem RemovesBy.exists_phrase {args : Span} (removes : RemovesBy listener body args)
    (full : ∀ raw ∈ stretches [','] args.body, Text.strip raw ≠ []) :
    ∃ phrase : RemovalPhrase listener, phrase.text <:+: body := by
  obtain ⟨⟨place, called⟩, first, others, parts, quote, quoted, rfl, -⟩ := removes
  obtain ⟨blanks, starts⟩ := called.exists_prefix
  -- As no argument is left out, the first two parts are the first two stretches.
  have visible : ∀ part ∈ (stretches [','] args.body).map Text.strip,
      decide (part ≠ []) = true := by
    intro part member
    obtain ⟨raw, inside, rfl⟩ := List.mem_map.mp member
    exact decide_eq_true (full raw inside)
  rw [splitCommas_eq, List.filter_eq_self.mpr visible] at parts
  obtain ⟨raw, _, cut, stripped, parts⟩ := List.map_eq_cons_iff.mp parts
  obtain ⟨raw', later, rfl, stripped', -⟩ := List.map_eq_cons_iff.mp parts
  -- Joined with commas the stretches are the arguments again, and these begin with the phrase.
  have joined := @join_stretchesFrom [','] (by decide) 0 args.body
  rw [← stretches, cut, Text.join_cons_cons] at joined
  obtain ⟨front, back, blankFront, blankBack, split, -⟩ := Text.exists_blanks_strip raw
  obtain ⟨space, back', blankSpace, -, split', -⟩ := Text.exists_blanks_strip raw'
  rw [stripped] at split
  rw [stripped'] at split'
  let phrase : RemovalPhrase listener := ⟨blanks, ⟨front, blankFront⟩, ⟨quote, quoted⟩,
    ⟨quote, quoted⟩, ⟨back, blankBack⟩, ⟨space, blankSpace⟩⟩
  have inside : phrase.arguments <+: args.body := by
    obtain ⟨rest, more⟩ := Text.prefix_join [','] raw' later
    rw [← more, split, split'] at joined
    rw [← joined]
    exact ⟨back' ++ rest, by simp [phrase, RemovalPhrase.arguments, RemovalPhrase.event]⟩
  refine ⟨phrase, List.IsInfix.trans ?_ (List.drop_suffix place body).isInfix⟩
  obtain ⟨rest, more⟩ := inside
  rw [← more] at starts
  refine (List.IsPrefix.trans ⟨rest, ?_⟩ starts).isInfix
  simp [phrase, RemovalPhrase.text]

/-! ## Listeners of a script -/

theorem trimmed_handler (found : listener ∈ listeners t) : Text.Trimmed listener.handler := by
  obtain ⟨hit, -, read⟩ := List.mem_filterMap.mp found
  rw [listenerOf?, Option.bind_eq_some_iff] at read
  obtain ⟨args, -, read⟩ := read
  split at read
  next event handler others parts =>
    obtain ⟨event', -, rfl⟩ := Option.map_eq_some_iff.mp read
    have member : handler ∈ splitCommas args.body := by
      rw [parts]
      exact .tail _ (.head _)
    obtain ⟨piece, inside, rfl⟩ := List.mem_map.mp member
    exact trimmed_of_mem_splitSpans inside
  next => contradiction

/-- A listener of the script counts as removed exactly where a hook has the phrase of its removal.
Where the phrase stands as a whole the hook removes the listener, and a hook that removes the
listener and leaves no argument out has the phrase. -/
theorem hasRemoval_listener (t : Text) (found : listener ∈ listeners t) :
    (hasRemoval listener (cleanupHooks t) = true ↔
      ∃ body ∈ (cleanupHooks t).bodies, ∃ phrase : RemovalPhrase listener,
        phrase.text <:+: body) ∧
    (∀ (phrase : RemovalPhrase listener) (before after : Text), StandsWhole phrase before after →
      ∃ args, RemovesBy listener (before ++ (phrase.text ++ after)) args) ∧
    ∀ body ∈ (cleanupHooks t).bodies, ∀ args, RemovesBy listener body args →
      (∀ raw ∈ stretches [','] args.body, Text.strip raw ≠ []) →
        hasRemoval listener (cleanupHooks t) = true := by
  refine ⟨hasRemoval_iff, ?_, ?_⟩
  · intro phrase before after whole
    exact whole.removes (trimmed_handler found)
  · intro body member args removes full
    exact hasRemoval_iff.mpr ⟨body, member, removes.exists_phrase full⟩

/-- A script that adds a listener and removes it. -/
def removedListener : Text :=
  "a.addEventListener('x', on)\nonUnmounted(() => a.removeEventListener('x', on))".toList

/-- The listener of that script. -/
def shortListener : Listener := ⟨"a".toList, "x".toList, "on".toList, 0⟩

set_option maxRecDepth 10000 in
/-- What its hook has is a removal, so the listener counts as removed. -/
theorem hasRemoval_listener_removed :
    shortListener ∈ listeners removedListener ∧
      hasRemoval shortListener (cleanupHooks removedListener) = true ∧
        ∃ args, RemovesBy shortListener "a.removeEventListener('x', on)".toList args := by
  have found : shortListener ∈ listeners removedListener := by
    have all : listeners removedListener = [shortListener] := by cbv
    rw [all]
    exact .head []
  have hook : "a.removeEventListener('x', on)".toList ∈ (cleanupHooks removedListener).bodies := by
    have bodies : (cleanupHooks removedListener).bodies =
        ["a.removeEventListener('x', on)".toList] := by cbv
    rw [bodies]
    exact .head []
  let phrase : RemovalPhrase shortListener :=
    ⟨⟨[], by simp⟩, ⟨[], by simp⟩, ⟨'\'', rfl⟩, ⟨'\'', rfl⟩, ⟨[], by simp⟩,
      ⟨[' '], Text.isBlank_space⟩⟩
  have text : "a.removeEventListener('x', on)".toList = "a.".toList ++ (phrase.text ++ [')']) := rfl
  have whole : StandsWhole phrase "a.".toList [')'] := by
    refine ⟨?_, ?_, closed_of_all (by decide), ⟨[], ')', [], by simp, .inr rfl, rfl⟩, ?_⟩
    · rintro c ⟨⟩
      decide
    · refine ⟨'\'', rfl, rfl, fun after => .single ?_⟩
      exact quotedTail_of_plain (by decide) (by decide) (by decide) after
    · cbv
  obtain ⟨counts, removes, -⟩ := hasRemoval_listener removedListener found
  refine ⟨found, counts.mpr ⟨_, hook, phrase, "a.".toList, [')'], ?_⟩, ?_⟩
  · rw [text, List.append_assoc]
  · rw [text]
    exact removes phrase "a.".toList [')'] whole

/-- A script that adds a listener and removes another one, whose handler only begins as the first
one does. -/
def otherListenerRemoved : Text :=
  "a.addEventListener('x', on)\nonUnmounted(() => a.removeEventListener('x', onResize))".toList

set_option maxRecDepth 10000 in
/-- The removal of the other listener is counted as one of the first. -/
theorem otherRemoval_counts :
    shortListener ∈ listeners otherListenerRemoved ∧
      hasRemoval shortListener (cleanupHooks otherListenerRemoved) = true ∧
        ∀ body ∈ (cleanupHooks otherListenerRemoved).bodies, ∀ args,
          ¬ RemovesBy shortListener body args := by
  have all : listeners otherListenerRemoved = [shortListener] := by cbv
  have bodies : (cleanupHooks otherListenerRemoved).bodies =
      ["a.removeEventListener('x', onResize)".toList] := by cbv
  have counts : hasRemoval shortListener (cleanupHooks otherListenerRemoved) = true := by cbv
  refine ⟨?_, counts, ?_⟩
  · rw [all]
    exact .head []
  · rw [bodies, List.forall_mem_singleton]
    rintro args ⟨⟨place, -, blanks, -, -, spanned⟩, first, others, parts, -⟩
    -- Whichever bracket is taken, the second part is not the handler.
    have none : (List.range 36).all fun n =>
        (spanAt? "a.removeEventListener('x', onResize)".toList n).all fun args =>
          (splitCommas args.body)[1]? != some shortListener.handler := by cbv
    obtain ⟨-, encloses, -⟩ := spanAt?_eq_some_iff.mp spanned
    obtain ⟨before, within, -⟩ := encloses.brackets
    have inside : place + (removalName ++ blanks).length < 36 := Nat.lt_trans before within
    have other := List.all_eq_true.mp none _ (List.mem_range.mpr inside)
    rw [spanned, Option.all_some, parts] at other
    simp at other

end SfcLint.Script
