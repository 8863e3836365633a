/-
# Files of variables

A file of variables has one definition on a line: a name, an equals sign and a value, which may
stand between quotes and then go over several lines. The word `export` may stand before the name,
and a number sign starts a comment. A value may refer to variables that were defined before it, or
to those of the environment. A line that is no definition is passed over.
-/

import SfcLint.Text.Case

namespace SfcLint.VariableFile

/-- A name and its value, if it has one. -/
abbrev Definition := Text × Option Text

/-- A blank within a line. -/
def isInnerBlank (c : Char) : Bool := Text.isBlank c && c != '\n'

/-- The text from its first character on that is no blank within a line. -/
def skipBlanks (t : Text) : Text := t.dropWhile isInnerBlank

/-- The content of a quoted value up to its closing quote, and what follows. A quote after a
backslash belongs to the value if a closing one follows it. -/
def quotedContent? (quote : Char) : Text → Option (Text × Text)
  | [] => none
  | [c] => if c = quote then some ([], []) else none
  | c :: d :: t =>
      if c = quote then some ([], d :: t)
      else if c = '\\' ∧ d = quote then
        match quotedContent? quote t with
        | some (content, after) => some (c :: d :: content, after)
        | none => some ([c], t)
      else (quotedContent? quote (d :: t)).map fun (content, after) => (c :: content, after)

/-- The characters that may stand after a backslash between single quotes. -/
def singleEscapes : List (Char × Char) := [('\\', '\\'), ('\'', '\'')]

/-- The characters that may stand after a backslash between double quotes. -/
def doubleEscapes : List (Char × Char) :=
  [('\\', '\\'), ('\'', '\''), ('"', '"'), ('a', '\x07'), ('b', '\x08'), ('f', '\x0c'),
    ('n', '\n'), ('r', '\r'), ('t', '\t'), ('v', '\x0b')]

/-- The text with every escape replaced by what it stands for. -/
def unescape (escapes : List (Char × Char)) : Text → Text
  | '\\' :: e :: t =>
      match escapes.lookup e with
      | some c => c :: unescape escapes t
      | none => '\\' :: unescape escapes (e :: t)
  | c :: t => c :: unescape escapes t
  | [] => []
termination_by t => t.length

/-- A value without quotes up to a comment, which starts with a blank and a number sign. The first
argument says whether the character before is a blank. -/
def beforeComment (afterBlank : Bool) : Text → Text
  | [] => []
  | c :: t =>
      if afterBlank && c == '#' then [] else c :: beforeComment (Text.isBlank c) t

/-- The value at the start of a text, and what follows. -/
def readValue? (t : Text) : Option (Text × Text) :=
  match t with
  | '\'' :: rest =>
      (quotedContent? '\'' rest).map fun (content, after) =>
        (unescape singleEscapes content, after)
  | '"' :: rest =>
      (quotedContent? '"' rest).map fun (content, after) =>
        (unescape doubleEscapes content, after)
  | _ =>
      some (Text.stripEnd (beforeComment false (t.takeWhile (· != '\n'))),
        t.dropWhile (· != '\n'))

/-- The text after the word `export` and blanks, or all of it. -/
def skipExport (t : Text) : Text :=
  match Text.dropFront? "export".toList t with
  | some rest => if rest.head?.any isInnerBlank then skipBlanks rest else t
  | none => t

/-- The name at the start of a text, none before a comment, and what follows. -/
def readName? (t : Text) : Option (Option Text × Text) :=
  match t with
  | '#' :: _ => some (none, t)
  | '\'' :: rest =>
      let name := rest.takeWhile (· != '\'')
      match rest.dropWhile (· != '\'') with
      | _ :: after => if name.isEmpty then none else some (some name, after)
      | [] => none
  | _ =>
      let ends (c : Char) : Bool := c == '=' || c == '#' || Text.isBlank c
      let name := t.takeWhile fun c => !ends c
      if name.isEmpty then none else some (some name, t.dropWhile fun c => !ends c)

/-- What follows the end of a line, after blanks and a comment. -/
def lineEnd? (t : Text) : Option Text :=
  let t :=
    match skipBlanks t with
    | '#' :: rest => rest.dropWhile (· != '\n')
    | _ => t
  match skipBlanks t with
  | [] => some []
  | '\n' :: rest => some rest
  | _ => none

/-- What follows the first line break. -/
def nextLine (t : Text) : Text := (t.dropWhile (· != '\n')).drop 1

/-- The definition at the start of a text, if it is one, and what follows; or what follows when it
is none. -/
def readDefinition (t : Text) : Option Definition × Text :=
  match readName? (skipExport t) with
  | none => (none, nextLine (skipExport t))
  | some (name, rest) =>
      let rest := skipBlanks rest
      match rest with
      | '=' :: after =>
          match readValue? (skipBlanks after) with
          | none => (none, nextLine (skipBlanks after))
          | some (value, rest) =>
              match lineEnd? rest with
              | some rest => (name.map fun name => (name, some value), rest)
              | none => (none, nextLine rest)
      | _ =>
          match lineEnd? rest with
          | some rest => (name.map fun name => (name, none), rest)
          | none => (none, nextLine rest)

/-- The definitions of a text. The first argument bounds their number. -/
def readAll : Nat → Text → List Definition
  | 0, _ => []
  | fuel + 1, t =>
      match Text.stripStart t with
      | [] => []
      | t =>
          let (definition, rest) := readDefinition t
          definition.toList ++ readAll fuel rest

/-- A name in braces at the start of a text, its value when it has none otherwise, and what
follows. -/
def reference? (t : Text) : Option (Text × Text × Text) :=
  let name := t.takeWhile fun c => c != '}' && c != ':'
  match t.dropWhile fun c => c != '}' && c != ':' with
  | '}' :: rest => some (name, [], rest)
  | ':' :: '-' :: rest =>
      match rest.dropWhile (· != '}') with
      | _ :: after => some (name, rest.takeWhile (· != '}'), after)
      | [] => none
  | _ => none

/-- The text with every reference replaced by what its name stands for. The first argument counts
the characters of a reference that are still to be passed over. -/
def expandFrom (value? : Text → Option Text) : Nat → Text → Text
  | _, [] => []
  | skip + 1, _ :: t => expandFrom value? skip t
  | 0, c :: t =>
      match c, t with
      | '$', '{' :: rest =>
          match reference? rest with
          | some (name, standard, after) =>
              (value? name).getD standard ++ expandFrom value? (t.length - after.length) t
          | none => c :: expandFrom value? 0 t
      | _, _ => c :: expandFrom value? 0 t

/-- The definitions with all references replaced, given those before and the environment. A name
that was defined without a value stands for nothing. -/
def expandAll (environment : List (Text × Text)) :
    List Definition → List Definition → List Definition
  | _, [] => []
  | before, (name, value) :: rest =>
      let value? (name : Text) : Option Text :=
        match before.lookup name with
        | some value => some (value.getD [])
        | none => environment.lookup name
      let definition := (name, value.map (expandFrom value? 0))
      definition :: expandAll environment (definition :: before) rest

/-- The variables that a file defines in an environment. -/
def read (environment : List (Text × Text)) (t : Text) : List Definition :=
  expandAll environment [] (readAll (t.length + 1) t)

end SfcLint.VariableFile
