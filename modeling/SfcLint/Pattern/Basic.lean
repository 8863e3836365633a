/-
# Patterns

A pattern describes texts and is tried at a place in a text: it may look at the character before
the place and at what follows it. Of the ways in which it can match, the preferred one counts, so a
choice has an order, a repetition is eager or reluctant, and giving up a way means going back to
the latest choice. `Pattern.run` finds the preferred way that a given continuation accepts.

Repetition of single characters has a form of its own. A general repetition goes on only while it
consumes something, so the rest of the text bounds its rounds.
-/

import SfcLint.Text.Word

namespace SfcLint

/-- A part of a text that a pattern has set aside under a name. -/
structure Capture where
  name : String
  start : Nat
  text : Text

/-- A place in a text: how far it is from the start, the character before it, what follows, and
what has been set aside on the way, latest first. -/
structure Cursor where
  offset : Nat
  before : Option Char
  rest : Text
  captures : List Capture

namespace Cursor

/-- The place before the first character. -/
def atStart (t : Text) : Cursor := ⟨0, none, t, []⟩

/-- The place `n` characters further on. -/
def advance : Nat → Cursor → Cursor
  | n + 1, ⟨offset, _, c :: rest, captures⟩ => advance n ⟨offset + 1, some c, rest, captures⟩
  | _, cursor => cursor

/-- The text set aside last under a name. -/
def captured? (cursor : Cursor) (name : String) : Option Text :=
  (cursor.captures.find? (·.name == name)).map (·.text)

end Cursor

/-- A description of texts, with an order of preference among the ways to match it. -/
inductive Pattern where
  /-- Matches where it stands and consumes nothing. -/
  | empty
  /-- One character that passes the test. -/
  | one (test : Char → Bool)
  /-- The given text. -/
  | literal (t : Text)
  /-- One pattern, then another. -/
  | seq (first second : Pattern)
  /-- The first pattern, or else the second. -/
  | alt (first second : Pattern)
  /-- As many characters that pass the test as possible, or as few. -/
  | run (eager : Bool) (test : Char → Bool)
  /-- The pattern as many times as possible, each time consuming something. -/
  | star (body : Pattern)
  /-- The pattern, with what it matched set aside under a name. -/
  | capture (name : String) (body : Pattern)
  /-- The text set aside under a name. -/
  | again (name : String)
  /-- Whether there is a character before that passes the test. -/
  | behind (wanted : Bool) (test : Char → Bool)
  /-- Whether the pattern matches from here. Nothing is consumed. -/
  | ahead (wanted : Bool) (body : Pattern)
  /-- Between a word character and one that is none, or the end of the text. -/
  | edge
  /-- Before the first character. -/
  | start
  /-- At the end, or before a line break that ends the text. -/
  | stop

namespace Pattern

/-- What is to be matched after a pattern, from the place that it leads to. -/
abbrev Continuation := Cursor → Option Cursor

/-- As many characters as possible, and fewer only where the continuation asks for it. -/
def runEager (test : Char → Bool) (k : Continuation) (captures : List Capture) :
    Nat → Option Char → Text → Option Cursor
  | offset, before, [] => k ⟨offset, before, [], captures⟩
  | offset, before, c :: rest =>
      if test c then
        match runEager test k captures (offset + 1) (some c) rest with
        | some found => some found
        | none => k ⟨offset, before, c :: rest, captures⟩
      else k ⟨offset, before, c :: rest, captures⟩

/-- As few characters as possible, and more only where the continuation asks for it. -/
def runReluctant (test : Char → Bool) (k : Continuation) (captures : List Capture) :
    Nat → Option Char → Text → Option Cursor
  | offset, before, [] => k ⟨offset, before, [], captures⟩
  | offset, before, c :: rest =>
      match k ⟨offset, before, c :: rest, captures⟩ with
      | some found => some found
      | none =>
          if test c then runReluctant test k captures (offset + 1) (some c) rest else none

/-- Rounds of `body`, as many as possible. The text that was left at the first round bounds them,
for each consumes something. -/
def rounds (body : Cursor → Continuation → Option Cursor) (k : Continuation) :
    Text → Cursor → Option Cursor
  | [], cursor => k cursor
  | _ :: bound, cursor =>
      match body cursor fun next =>
        if cursor.offset < next.offset then rounds body k bound next else none with
      | some found => some found
      | none => k cursor

/-- The text and what follows it, when it stands at the cursor. -/
def afterText (t : Text) (cursor : Cursor) : Option Cursor :=
  match Text.dropFront? t cursor.rest with
  | none => none
  | some rest =>
      some ⟨cursor.offset + t.length, t.getLast?.or cursor.before, rest, cursor.captures⟩

/-- A word character on exactly one side of the cursor. -/
def atEdge (cursor : Cursor) : Bool :=
  cursor.before.any Text.isWordChar != cursor.rest.head?.any Text.isWordChar

/-- The cursor that the preferred way to match leads to, among those that the continuation
accepts, as the continuation gives it. -/
def match? : Pattern → Cursor → Continuation → Option Cursor
  | empty, cursor, k => k cursor
  | one test, cursor, k =>
      match cursor.rest with
      | c :: rest => if test c then k ⟨cursor.offset + 1, some c, rest, cursor.captures⟩ else none
      | [] => none
  | literal t, cursor, k => (afterText t cursor).bind k
  | seq first second, cursor, k => first.match? cursor fun next => second.match? next k
  | alt first second, cursor, k =>
      match first.match? cursor k with
      | some found => some found
      | none => second.match? cursor k
  | run true test, cursor, k =>
      runEager test k cursor.captures cursor.offset cursor.before cursor.rest
  | run false test, cursor, k =>
      runReluctant test k cursor.captures cursor.offset cursor.before cursor.rest
  | star body, cursor, k => rounds (fun c k => body.match? c k) k cursor.rest cursor
  | capture name body, cursor, k =>
      body.match? cursor fun next =>
        k { next with
          captures :=
            ⟨name, cursor.offset, cursor.rest.take (next.offset - cursor.offset)⟩ ::
              next.captures }
  | again name, cursor, k =>
      match cursor.captured? name with
      | some t => (afterText t cursor).bind k
      | none => none
  | behind wanted test, cursor, k => if cursor.before.any test == wanted then k cursor else none
  | ahead wanted body, cursor, k =>
      if (body.match? cursor some).isSome == wanted then k cursor else none
  | edge, cursor, k => if atEdge cursor then k cursor else none
  | start, cursor, k => if cursor.before.isNone then k cursor else none
  | stop, cursor, k =>
      match cursor.rest with
      | [] => k cursor
      | ['\n'] => k cursor
      | _ => none

/-! ## Ways to write patterns -/

instance : Coe String Pattern := ⟨fun s => literal s.toList⟩

instance : Append Pattern := ⟨seq⟩

/-- Several patterns one after the other. -/
def all : List Pattern → Pattern
  | [] => empty
  | [p] => p
  | p :: ps => seq p (all ps)

/-- The first of several patterns that leads on. -/
def any : List Pattern → Pattern
  | [] => one fun _ => false
  | [p] => p
  | p :: ps => alt p (any ps)

/-- The first of several words that leads on. -/
def words (ws : List String) : Pattern := any (ws.map fun w => literal w.toList)

/-- The pattern, or else nothing. -/
def optional (p : Pattern) : Pattern := alt p empty

/-- The pattern at least once and as many times as possible. -/
def plus (p : Pattern) : Pattern := seq p (star p)

/-- Any number of characters that pass the test. -/
def many (test : Char → Bool) : Pattern := run true test

/-- At least one character that passes the test. -/
def some1 (test : Char → Bool) : Pattern := seq (one test) (run true test)

/-- At least one character that passes the test, and as few as possible. -/
def few1 (test : Char → Bool) : Pattern := seq (one test) (run false test)

/-- The character is one of those in the text. -/
def among (t : String) (c : Char) : Bool := t.toList.contains c

/-- The character is none of those in the text. -/
def outside (t : String) (c : Char) : Bool := !t.toList.contains c

/-- Blanks, possibly none. -/
def blanks : Pattern := many Text.isBlank

/-- At least one blank. -/
def blanks1 : Pattern := some1 Text.isBlank

/-- An identifier. -/
def identifier : Pattern := seq (one Text.isNameStart) (many Text.isNameChar)

/-- No identifier character stands before. -/
def freshName : Pattern := behind false Text.isNameChar

/-- Neither an identifier character nor a dot stands before. -/
def freshRoot : Pattern := behind false fun c => Text.isNameChar c || c == '.'

/-- What follows does not continue an identifier. -/
def nameEnds : Pattern := ahead false (one Text.isNameChar)

/-- The text as a whole identifier. -/
def whole (t : Text) : Pattern := all [freshName, literal t, nameEnds]

/-- The characters beside the capital letter that fold to a small letter: the long `s`, the sign of
the unit kelvin, and the letters `i` that keep or lack their dot. -/
def foldedTo (letter : Char) : List Char :=
  match letter with
  | 's' => ['ſ']
  | 'k' => ['\u212a']
  | 'i' => ['\u0130', '\u0131']
  | _ => []

/-- A text of small letters in any mixture of cases. -/
def caseless (t : String) : Pattern :=
  all (t.toList.map fun letter => one fun c =>
    c.toLower == letter || (foldedTo letter).contains c)

end Pattern

end SfcLint
