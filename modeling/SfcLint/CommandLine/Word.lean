/-
# Words of a command line

A word of a command line is a flag, an unknown flag, a plain word, or the two hyphens after which
every word is plain. A flag may be shortened as long as no other begins like it. Its value follows
it or stands in the same word: after an equals sign, or right behind a flag of one letter. Flags of
one letter that take no value may share a word. A word that writes a negative number is plain, and
so is an unknown one that holds a space.
-/

import SfcLint.Text.Digit

namespace SfcLint

/-- A flag of a command: what it stands for, its names, and whether it takes a value. -/
structure Flag (α : Type) where
  id : α
  names : List String
  takesValue : Bool

/-- Why a command line is not carried out. -/
inductive Stop
  /-- It asks how to use the command. -/
  | help
  /-- It is not understood. -/
  | refused
  deriving DecidableEq, Repr

/-- What a word of a command line is. -/
inductive WordKind (α : Type)
  | plain
  | separator
  /-- A flag under one of its names, with what stands behind it in the same word. -/
  | flag (flag : Flag α) (name : Text) (attached : Option Text)
  | unknown

/-- A word of a command line. -/
structure Word (α : Type) where
  text : Text
  kind : WordKind α

namespace Word

variable {α : Type}

/-- The flags by all their names. -/
def flagNames (flags : List (Flag α)) : List (Text × Flag α) :=
  flags.flatMap fun flag => flag.names.map fun name => (name.toList, flag)

/-- The flag of a name. -/
def flagOf? (flags : List (Flag α)) (name : Text) : Option (Flag α) :=
  (flagNames flags).lookup name

/-- What stands before the first equals sign, and what stands after it if there is one. -/
def splitEquals (t : Text) : Text × Option Text :=
  (t.takeWhile (· != '='),
    match t.dropWhile (· != '=') with
    | _ :: value => some value
    | [] => none)

/-- The flags that a word which names none in full may mean. -/
def readings (flags : List (Flag α)) (t : Text) : List (WordKind α) :=
  (flagNames flags).filterMap fun (name, flag) =>
    match t with
    | '-' :: '-' :: _ =>
        let (beginning, attached) := splitEquals t
        if name.startsWith beginning then some (.flag flag name attached) else none
    | _ =>
        if name = t.take 2 then some (.flag flag name (some (t.drop 2)))
        else if name.startsWith t then some (.flag flag name none)
        else none

/-- The text writes a negative number, with or without places after a point. -/
def isNegativeNumber (t : Text) : Bool :=
  match t with
  | '-' :: rest =>
      let rest := if rest.getLast? = some '\n' then rest.dropLast else rest
      match rest.dropWhile Text.isDigit with
      | [] => !rest.isEmpty
      | '.' :: places => !places.isEmpty && places.all Text.isDigit
      | _ => false
  | _ => false

/-- What a word is that names no flag in full. -/
def kindOfOther (flags : List (Flag α)) (t : Text) : Except Stop (WordKind α) :=
  match readings flags t with
  | _ :: _ :: _ => .error .refused
  | [reading] => .ok reading
  | [] =>
      if isNegativeNumber t || t.contains ' ' then .ok .plain else .ok .unknown

/-- What a word is. -/
def kindOf (flags : List (Flag α)) (t : Text) : Except Stop (WordKind α) :=
  if t.head? ≠ some '-' then .ok .plain
  else
    match flagOf? flags t with
    | some flag => .ok (.flag flag t none)
    | none =>
        if t.length = 1 then .ok .plain
        else
          match splitEquals t with
          | (name, some value) =>
              match flagOf? flags name with
              | some flag => .ok (.flag flag name (some value))
              | none => kindOfOther flags t
          | (_, none) => kindOfOther flags t

/-- The words of a command line. -/
def readAll (flags : List (Flag α)) : List Text → Except Stop (List (Word α))
  | [] => .ok []
  | t :: rest =>
      if t = "--".toList then
        .ok (⟨t, .separator⟩ :: rest.map fun t => ⟨t, .plain⟩)
      else do
        let kind ← kindOf flags t
        return ⟨t, kind⟩ :: (← readAll flags rest)

end Word

/-- The flags in one word, in order, and the one that still waits for its value. -/
structure Cluster (α : Type) where
  given : List (α × Option Text)
  waiting : Option α

namespace Cluster

variable {α : Type}

/-- A flag without anything behind it. -/
def alone (flag : Flag α) : Cluster α :=
  if flag.takesValue then ⟨[], some flag.id⟩ else ⟨[(flag.id, none)], none⟩

/-- A flag with something behind it. `short` says that its name has one letter, so that further
flags may stand behind it. -/
def attached (flags : List (Flag α)) (flag : Flag α) (short : Bool) :
    Text → Except Stop (Cluster α)
  | [] => if flag.takesValue then .ok ⟨[(flag.id, some [])], none⟩ else .error .refused
  | c :: rest =>
      if flag.takesValue then .ok ⟨[(flag.id, some (c :: rest))], none⟩
      else
        match if short then Word.flagOf? flags ['-', c] else none with
        | none => .error .refused
        | some next =>
            let more := if rest.isEmpty then .ok (alone next) else attached flags next true rest
            more.map fun cluster => { cluster with given := (flag.id, none) :: cluster.given }

/-- The flags in a word that starts with a flag. -/
def ofFlag (flags : List (Flag α)) (flag : Flag α) (name : Text) :
    Option Text → Except Stop (Cluster α)
  | none => .ok (alone flag)
  | some t => attached flags flag (name.drop 1 |>.head? |>.any (· != '-')) t

end Cluster

/-- What has been read of a command line: what its flags say, whether some word has no place, and
the flags of a word whose last one waits for its value. -/
structure Reading (α σ : Type) where
  state : σ
  stray : Bool
  waiting : Option (List (α × Option Text) × α)

namespace Reading

variable {α σ : Type}

/-- What the flags say after some more of them, in order. -/
def applyAll (apply : σ → α → Option Text → Except Stop σ) (state : σ)
    (given : List (α × Option Text)) : Except Stop σ :=
  given.foldlM (fun state (id, value) => apply state id value) state

/-- The reading after the flags of one word. -/
def take (flags : List (Flag α)) (apply : σ → α → Option Text → Except Stop σ)
    (reading : Reading α σ) (flag : Flag α) (name : Text) (attached : Option Text) :
    Except Stop (Reading α σ) := do
  let cluster ← Cluster.ofFlag flags flag name attached
  match cluster.waiting with
  | some id => return { reading with waiting := some (cluster.given, id) }
  | none => return { reading with state := ← applyAll apply reading.state cluster.given }

/-- Reads flags up to the first word that is none, or all words. In the second case a plain word
has no place. -/
def readFlags (flags : List (Flag α)) (apply : σ → α → Option Text → Except Stop σ) (all : Bool) :
    Reading α σ → List (Word α) → Except Stop (Reading α σ × List (Word α))
  | reading, [] => if reading.waiting.isSome then .error .refused else .ok (reading, [])
  | reading, word :: rest =>
      match reading.waiting with
      | some (given, id) =>
          match word.kind with
          | .plain => do
              let state ← applyAll apply reading.state (given ++ [(id, some word.text)])
              readFlags flags apply all { reading with state, waiting := none } rest
          | _ => .error .refused
      | none =>
          match word.kind with
          | .flag flag name attached => do
              readFlags flags apply all (← take flags apply reading flag name attached) rest
          | .unknown => readFlags flags apply all { reading with stray := true } rest
          | _ =>
              if all then readFlags flags apply all { reading with stray := true } rest
              else .ok (reading, word :: rest)

end Reading

/-- The word is no flag of any kind. -/
def Word.isPlain {α : Type} (word : Word α) : Bool :=
  match word.kind with
  | .plain | .separator => true
  | _ => false

/-- The texts of the plain words in a row. -/
def Word.plainTexts {α : Type} (words : List (Word α)) : List Text :=
  words.filterMap fun word =>
    match word.kind with
    | .plain => some word.text
    | _ => none

end SfcLint
