/-
# Reading by rounds

The scans of script text, written as loops: a place moves over the text, round by round, until one
of the rounds has the answer. What such a loop takes for granted can fail here and is told apart: a
loop that goes on for too many rounds, a bracket that is looked for where none opens, calls that are
nested too deeply, and a character that is asked for behind the end of the text.

The length of a literal and the closing bracket are found by two loops that use each other. A
template string leaves each of its groups to the search for the bracket, and that search passes
over the literals within the group.
-/

import SfcLint.Script.Blanking
import SfcLint.Script.Span
import SfcLint.Script.Split

namespace SfcLint.Script.Rounds

/-- Why a reading comes to no answer. -/
inductive Halt
  | noOpening (failure : NoOpening)
  | outside (place : Nat)
  | tooManyRounds
  | tooDeep
  deriving DecidableEq, Repr

/-- What a round comes to: where the next one starts, or the answer. -/
inductive Round (State Answer : Type)
  | next (state : State)
  | done (answer : Answer)

/-- Rounds from a state on until one has an answer, no more than a number of them. -/
def loop {State Answer : Type} (round : State → Except Halt (Round State Answer)) :
    Nat → State → Except Halt Answer
  | 0, _ => .error .tooManyRounds
  | rounds + 1, state => do
      match ← round state with
      | .next state => loop round rounds state
      | .done answer => .ok answer

/-! ## Literals and brackets -/

/-- A round in a quoted string. A backslash takes a character with it, be there one or not. -/
def quotedRound (t : Text) (quote : Char) (place : Nat) : Except Halt (Round Nat Nat) :=
  match t[place]? with
  | none => .ok (.done t.length)
  | some c =>
      if c = '\\' then .ok (.next (place + 2))
      else if c = quote then .ok (.done (place + 1))
      else if c = '\n' then .ok (.done place)
      else .ok (.next (place + 1))

/-- A round in a template string. The search for the end of a group is handed in. -/
def templateRound (find : Nat → Except Halt (Option Nat)) (t : Text) (place : Nat) :
    Except Halt (Round Nat Nat) :=
  match t[place]? with
  | none => .ok (.done t.length)
  | some c =>
      if c = '\\' then .ok (.next (place + 2))
      else if c = '\x60' then .ok (.done (place + 1))
      else if c = '$' ∧ t[place + 1]? = some '{' then do
        match ← find (place + 1) with
        | none => .ok (.done t.length)
        | some close => .ok (.next (close + 1))
      else .ok (.next (place + 1))

/-- The first place from another one on where a part stands. -/
def search? (part t : Text) (start : Nat) : Option Nat :=
  (Text.offsetOf? part (t.drop start)).map (start + ·)

/-- The place behind the literal that starts at a place, or that place when none does. The search
for the end of a group in a template string is handed in. -/
def literalEndWith (find : Nat → Except Halt (Option Nat)) (rounds : Nat) (t : Text)
    (place : Nat) : Except Halt Nat :=
  match t[place]? with
  | none => .error (.outside place)
  | some c =>
      if c = '\'' ∨ c = '"' then loop (quotedRound t c) rounds (place + 1)
      else if c = '\x60' then loop (templateRound find t) rounds (place + 1)
      else if c = '/' ∧ t[place + 1]? = some '/' then
        .ok ((search? ['\n'] t place).getD t.length)
      else if c = '/' ∧ t[place + 1]? = some '*' then
        .ok (((search? ['*', '/'] t (place + 2)).map (· + 2)).getD t.length)
      else .ok place

/-- A round outside literals: the text has ended, a literal is passed over, or a character of code
is looked at. -/
def codeRound {State Answer : Type} (skip : Nat → Except Halt Nat) (t : Text) (place : Nat)
    (atEnd : Answer) (onLiteral : Nat → State) (onMark : Char → Except Halt (Round State Answer)) :
    Except Halt (Round State Answer) :=
  match t[place]? with
  | none => .ok (.done atEnd)
  | some c => do
      let past ← skip place
      if past ≠ place then .ok (.next (onLiteral past)) else onMark c

/-- A round of the search for the closing bracket, with the brackets that are still open. -/
def matchingRound (skip : Nat → Except Halt Nat) (t : Text) :
    List Bracket × Nat → Except Halt (Round (List Bracket × Nat) (Option Nat))
  | (opened, place) =>
      codeRound skip t place none (fun past => (opened, past)) fun c =>
        match Bracket.opened? c, Bracket.closed? c, opened with
        | some kind, _, _ => .ok (.next (kind :: opened, place + 1))
        | none, none, _ => .ok (.next (opened, place + 1))
        | none, some _, [] => .ok (.done none)
        | none, some kind, latest :: below =>
            if latest ≠ kind then .ok (.done none)
            else if below = [] then .ok (.done (some place))
            else .ok (.next (below, place + 1))

/-- The place of the bracket that closes the one at a place, if any does. Searches for the ends of
groups within are nested no deeper than a number. -/
def matching (rounds : Nat) (t : Text) : Nat → Nat → Except Halt (Option Nat)
  | 0, _ => .error .tooDeep
  | depth + 1, place =>
      if (t[place]?.bind Bracket.opened?).isSome then
        loop (matchingRound (literalEndWith (matching rounds t depth) rounds t) t) rounds
          ([], place)
      else .error (.noOpening ⟨place⟩)

/-- How many rounds a loop may take and how deeply searches may be nested. -/
structure Limits where
  rounds : Nat
  depth : Nat
  deriving DecidableEq, Repr

/-- The limits leave a round and a level for each character of the text, and one more. -/
structure Limits.Cover (limits : Limits) (t : Text) : Prop where
  rounds : t.length < limits.rounds
  depth : t.length < limits.depth

/-- The place of the bracket that closes the one at a place, if any does. -/
def closer (limits : Limits) (t : Text) (place : Nat) : Except Halt (Option Nat) :=
  matching limits.rounds t limits.depth place

/-- The place behind the literal that starts at a place, or that place when none does. -/
def literalEnd (limits : Limits) (t : Text) (place : Nat) : Except Halt Nat :=
  literalEndWith (closer limits t) limits.rounds t place

/-! ## Blocks, pieces, expressions and comments -/

/-- The bracketed part that starts at a place, unless it never closes. -/
def spanFrom (limits : Limits) (t : Text) (place : Nat) : Except Halt (Option Span) :=
  (closer limits t place).map fun close =>
    close.map fun stop => ⟨place, stop, t.slice (place + 1) stop⟩

/-- A round of the search for a block: it starts with the first such bracket in code. -/
def blockRound (limits : Limits) (t : Text) (opener : Char) (place : Nat) :
    Except Halt (Round Nat (Option Span)) :=
  codeRound (literalEnd limits t) t place none id fun c =>
    if c = opener then (spanFrom limits t place).map .done else .ok (.next (place + 1))

/-- The bracketed part that the first such bracket in code opens, from a place on. -/
def blockFrom (limits : Limits) (t : Text) (start : Nat) (opener : Char) :
    Except Halt (Option Span) :=
  loop (blockRound limits t opener) limits.rounds start

/-- Where splitting has come to: how many brackets are open, where the stretch began, the place,
and the pieces before the stretch. -/
structure Splitting where
  depth : Nat
  start : Nat
  place : Nat
  pieces : List Piece

/-- The pieces with the one between two places, unless that is blank. -/
def Splitting.upTo (state : Splitting) (t : Text) (stop : Nat) : List Piece :=
  state.pieces ++ piecesFrom 0 state.start [t.slice state.start stop]

/-- A round of splitting. -/
def splitRound (limits : Limits) (t separator : Text) (state : Splitting) :
    Except Halt (Round Splitting (List Piece)) :=
  codeRound (literalEnd limits t) t state.place (state.upTo t t.length)
    (fun past => { state with place := past }) fun c =>
      if (Bracket.opened? c).isSome then
        .ok (.next { state with depth := state.depth + 1, place := state.place + 1 })
      else if (Bracket.closed? c).isSome then
        .ok (.next { state with depth := state.depth - 1, place := state.place + 1 })
      else if state.depth = 0 ∧ separator.isPrefixOf (t.drop state.place) then
        let behind := state.place + separator.length
        .ok (.next ⟨state.depth, behind, behind, state.upTo t state.place⟩)
      else .ok (.next { state with place := state.place + 1 })

/-- The pieces of a text between separators outside brackets and literals. -/
def pieces (limits : Limits) (t separator : Text) : Except Halt (List Piece) :=
  loop (splitRound limits t separator) limits.rounds ⟨0, 0, 0, []⟩

/-- A round in an expression. Its groups in brackets are passed over at once. -/
def expressionRound (limits : Limits) (t : Text) (place : Nat) : Except Halt (Round Nat Nat) :=
  codeRound (literalEnd limits t) t place t.length id fun c =>
    if (Bracket.opened? c).isSome then
      (closer limits t place).map fun
        | none => .done t.length
        | some close => .next (close + 1)
    else if (Bracket.closed? c).isSome || c == ',' || c == ';' then .ok (.done place)
    else .ok (.next (place + 1))

/-- The end of the expression that starts at a place. -/
def expressionEnd (limits : Limits) (t : Text) (start : Nat) : Except Halt Nat :=
  loop (expressionRound limits t) limits.rounds start

/-- A round of the search for comments, with the stretches that are found already. -/
def commentRound (limits : Limits) (t : Text) :
    Nat × List (Int × Int) → Except Halt (Round (Nat × List (Int × Int)) Text)
  | (place, found) =>
      codeRound (literalEnd limits t) t place (blankSpans t found)
        (fun past =>
          (past, if isComment (t.drop place) then found ++ [(↑place, ↑past)] else found))
        fun _ => .ok (.next (place + 1, found))

/-- The text with its comments blanked. -/
def withoutComments (limits : Limits) (t : Text) : Except Halt Text :=
  loop (commentRound limits t) limits.rounds (0, [])

end SfcLint.Script.Rounds
