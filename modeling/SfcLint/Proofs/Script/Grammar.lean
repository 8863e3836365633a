/-
# A grammar of literals and brackets

What the literals of a script are, said without a walk over the text: which characters a quoted
string, a comment or a template string takes from what follows it. A template string holds groups
of code, and whether such a group closes depends on the lexemes of that code, so template strings
and lexemes are described together. Lexemes are nested when every bracket among them is closed by
one of its kind, the latest open bracket first.
-/

import SfcLint.Script.Span

namespace SfcLint.Script

namespace Bracket

/-- The character that opens a bracket. -/
def opener : Bracket → Char
  | round => '('
  | square => '['
  | curly => '{'

/-- The character that closes a bracket. -/
def closer : Bracket → Char
  | round => ')'
  | square => ']'
  | curly => '}'

theorem opened?_eq_some_iff {c : Char} {kind : Bracket} :
    opened? c = some kind ↔ c = kind.opener := by
  constructor
  · intro opens
    unfold opened? at opens
    split at opens <;> cases opens <;> rfl
  · rintro rfl
    cases kind <;> rfl

theorem closed?_eq_some_iff {c : Char} {kind : Bracket} :
    closed? c = some kind ↔ c = kind.closer := by
  constructor
  · intro closes
    unfold closed? at closes
    split at closes <;> cases closes <;> rfl
  · rintro rfl
    cases kind <;> rfl

@[simp]
theorem opened?_opener (kind : Bracket) : opened? kind.opener = some kind :=
  opened?_eq_some_iff.mpr rfl

@[simp]
theorem closed?_closer (kind : Bracket) : closed? kind.closer = some kind :=
  closed?_eq_some_iff.mpr rfl

@[simp]
theorem opened?_closer (kind : Bracket) : opened? kind.closer = none := by
  cases kind <;> rfl

@[simp]
theorem closed?_opener (kind : Bracket) : closed? kind.opener = none := by
  cases kind <;> rfl

end Bracket

/-- The characters of some lexemes. -/
def textOf (lexemes : List Lexeme) : Text := lexemes.flatMap Lexeme.text

@[simp]
theorem textOf_nil : textOf [] = [] := rfl

@[simp]
theorem textOf_cons (lexeme : Lexeme) (later : List Lexeme) :
    textOf (lexeme :: later) = lexeme.text ++ textOf later := rfl

@[simp]
theorem textOf_append (earlier later : List Lexeme) :
    textOf (earlier ++ later) = textOf earlier ++ textOf later :=
  List.flatMap_append

/-- The lexeme is a bracket in code. -/
def Lexeme.isBracket : Lexeme → Bool
  | mark c => (Bracket.opened? c).isSome || (Bracket.closed? c).isSome
  | literal _ => false

/-- Every bracket is closed by one of its kind, the latest open one first, and nothing else is
closed. -/
inductive Nested : List Lexeme → Prop
  | nil : Nested []
  | pass {lexeme : Lexeme} {later : List Lexeme} :
      lexeme.isBracket = false → Nested later → Nested (lexeme :: later)
  | group (kind : Bracket) {inner later : List Lexeme} :
      Nested inner → Nested later →
        Nested (.mark kind.opener :: (inner ++ .mark kind.closer :: later))

/-- Some lexemes after an opening bracket start with `inner`, which is nested, and then close the
bracket. -/
def Closes (kind : Bracket) (lexemes inner : List Lexeme) : Prop :=
  Nested inner ∧ (inner ++ [.mark kind.closer]) <+: lexemes

/-- What a quoted string takes after its opening quote, and what follows it. It ends with the next
quote of its kind, before a line break, or with the text; a backslash takes a character with it. -/
inductive QuotedTail (quote : Char) : Text → Text → Prop
  | closed (after : Text) : QuotedTail quote [quote] after
  | beforeBreak (after : Text) : QuotedTail quote [] ('\n' :: after)
  | textEnds : QuotedTail quote [] []
  | escape (c : Char) {taken after : Text} :
      QuotedTail quote taken after → QuotedTail quote ('\\' :: c :: taken) after
  | escapeEnds : QuotedTail quote ['\\'] []
  | other {c : Char} {taken after : Text} :
      c ≠ '\\' → c ≠ quote → c ≠ '\n' → QuotedTail quote taken after →
        QuotedTail quote (c :: taken) after

/-- What a line comment takes after its two slashes: all up to the line break or the end. -/
def LineTail (taken after : Text) : Prop :=
  '\n' ∉ taken ∧ (after = [] ∨ after.head? = some '\n')

/-- What a block comment takes after its first two characters: all through the first closing
sign, or to the end when there is none. -/
inductive BlockTail : Text → Text → Prop
  | closed {body : Text} (after : Text) :
      ¬ ['*', '/'] <:+: body ++ ['*'] → BlockTail (body ++ ['*', '/']) after
  | textEnds {body : Text} : ¬ ['*', '/'] <:+: body → BlockTail body []

/-- A quoted string, a template string or a comment starts here. -/
def startsLiteral : Text → Bool
  | '\'' :: _ => true
  | '"' :: _ => true
  | '\x60' :: _ => true
  | '/' :: '/' :: _ => true
  | '/' :: '*' :: _ => true
  | _ => false

mutual

/-- The text falls into the lexemes: a literal wherever one starts, single characters elsewhere. -/
inductive Lexing : Text → List Lexeme → Prop
  | nil : Lexing [] []
  | mark {c : Char} {after : Text} {later : List Lexeme} :
      startsLiteral (c :: after) = false → Lexing after later →
        Lexing (c :: after) (.mark c :: later)
  | literal {taken after : Text} {later : List Lexeme} :
      Literal taken after → Lexing after later →
        Lexing (taken ++ after) (.literal taken :: later)

/-- The first text is a literal when it stands before the second. -/
inductive Literal : Text → Text → Prop
  | single {taken after : Text} : QuotedTail '\'' taken after → Literal ('\'' :: taken) after
  | double {taken after : Text} : QuotedTail '"' taken after → Literal ('"' :: taken) after
  | line {taken after : Text} : LineTail taken after → Literal ('/' :: '/' :: taken) after
  | block {taken after : Text} : BlockTail taken after → Literal ('/' :: '*' :: taken) after
  | template {taken after : Text} : TemplateTail taken after → Literal ('\x60' :: taken) after

/-- What a template string takes after its opening sign, and what follows it. It ends with the
next such sign outside its groups. It takes everything when there is none, or when one of its
groups does not close. -/
inductive TemplateTail : Text → Text → Prop
  | closed (after : Text) : TemplateTail ['\x60'] after
  | textEnds : TemplateTail [] []
  | escape (c : Char) {taken after : Text} :
      TemplateTail taken after → TemplateTail ('\\' :: c :: taken) after
  | escapeEnds : TemplateTail ['\\'] []
  | group {taken after : Text} {lexemes inner : List Lexeme} :
      Lexing (textOf inner ++ '}' :: (taken ++ after)) lexemes → Closes .curly lexemes inner →
        TemplateTail taken after →
          TemplateTail ('$' :: '{' :: (textOf inner ++ '}' :: taken)) after
  | groupOpen {taken : Text} {lexemes : List Lexeme} :
      Lexing taken lexemes → (∀ inner, ¬ Closes .curly lexemes inner) →
        TemplateTail ('$' :: '{' :: taken) []
  | other {c : Char} {taken after : Text} :
      c ≠ '\\' → c ≠ '\x60' → ¬ ['$', '{'] <+: c :: (taken ++ after) →
        TemplateTail taken after → TemplateTail (c :: taken) after

end

/-- The bracket at the first offset is closed at the second: from the first one on the lexemes are
the opening bracket, nested ones, and the closing bracket of its kind. -/
def Encloses (t : Text) (start stop : Nat) : Prop :=
  ∃ (kind : Bracket) (lexemes inner : List Lexeme),
    Lexing (t.drop start) (.mark kind.opener :: lexemes) ∧ Closes kind lexemes inner ∧
      stop = start + (textOf inner).length + 1

end SfcLint.Script
