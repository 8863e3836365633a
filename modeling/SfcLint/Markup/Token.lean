/-
# Markup tokens

Source text is cut into start tags, end tags, comments and stretches of text, each with the place
where it starts. Inside `script` and `style` elements everything up to their end tag is text. What
looks like a tag but does not end is text too, declarations and processing instructions are passed
over, and a marked section of an unknown kind ends the reading with a failure.

Every step takes at least one character, and the walk counts down the characters of the step it is
in, so it is a recursion on the text.
-/

import SfcLint.Markup.CharacterReference
import SfcLint.Pattern.Search
import SfcLint.Text.Case
import SfcLint.Text.Position
import SfcLint.Text.Quoted

namespace SfcLint.Markup

/-- An attribute of a start tag as the tokenizer reads it. -/
structure Attribute where
  name : Text
  value : Option Text
  deriving DecidableEq, Repr

/-- What a token is. Names are in lower case; `raw` is the text of the tag as written. -/
inductive TokenContent
  | startTag (name : Text) (attributes : List Attribute) (raw : Text)
  | selfClosing (name : Text) (raw : Text)
  | endTag (name : Text)
  | text (t : Text)
  | comment (t : Text)
  deriving DecidableEq, Repr

/-- A token and the place where it starts. -/
structure Token where
  offset : Nat
  position : Position
  content : TokenContent
  deriving DecidableEq, Repr

/-- Why the reading of tokens stops before the end of the text. -/
inductive TokenFailure
  /-- A marked section of a kind that is not known. -/
  | unknownSection (name : Text)
  /-- A marked section without a kind. -/
  | missingSection (declaration : Text)
  /-- A character's number has too many digits. -/
  | longNumeral (failure : Text.LongNumeral)
  deriving DecidableEq, Repr

/-- How a failure is reported. -/
def TokenFailure.message : TokenFailure → String
  | unknownSection name =>
      "unknown status keyword " ++ String.ofList (Text.quoted name) ++ " in marked section"
  | missingSection declaration =>
      "expected name token at " ++ String.ofList (Text.quoted declaration)
  | longNumeral failure => failure.message

/-- One step of the tokenizer: the token that it reads, if it reads one, how many characters it
takes, and the element whose content is plain text from there on. -/
structure Step where
  content : Option TokenContent
  length : Nat
  element : Option Text

open Pattern

/-- Character references replaced, as part of reading tokens. -/
def decoded (t : Text) : Except TokenFailure Text := (unescape t).mapError .longNumeral

/-! ## Start tags -/

/-- A character that ends the name of a tag. -/
def endsTagName (c : Char) : Bool := among "\t\n\r\x0c />\x00" c

/-- The name of a tag. -/
def tagName : Pattern := seq (one Text.isLetter) (many fun c => !endsTagName c)

/-- What may stand between attributes: blanks, and slashes that do not end the tag. -/
def attributeGap : Pattern :=
  star (alt (one Text.isBlank) (seq "/" (ahead false ">")))

/-- The name of an attribute, which follows a quote, a blank or a slash. -/
def attributeName : Pattern :=
  all [
    behind true (fun c => Text.isBlank c || among "'\"/" c),
    one (fun c => !Text.isBlank c && outside "/>" c),
    many (fun c => !Text.isBlank c && outside "/=>" c)]

/-- The equals signs before the value of an attribute. -/
def equalsSigns : Pattern := all [blanks, some1 (· == '='), blanks]

/-- The value of an attribute, quoted or bare. -/
def attributeValue : Pattern :=
  any [
    all ["'", capture "value" (many (outside "'")), "'"],
    all ["\"", capture "value" (many (outside "\"")), "\""],
    all [
      ahead false (one (among "'\"")),
      capture "value" (many fun c => !Text.isBlank c && c != '>')]]

/-- A start tag up to where it should end. -/
def startTagExtent : Pattern :=
  all [
    "<", tagName,
    optional (all [
      many (fun c => Text.isBlank c || c == '/'),
      star (all [
        attributeName,
        optional (all [equalsSigns, attributeValue, blanks]),
        attributeGap])]),
    blanks]

/-- The length of the start tag at the start of the text, unless the text ends in it. -/
def startTagLength? (t : Text) : Option Nat :=
  (startTagExtent.leading? t).bind fun hit =>
    match hit.rest with
    | '>' :: _ => some (hit.stop + 1)
    | '/' :: '>' :: _ => some (hit.stop + 2)
    | [] => none
    | c :: _ => if c == '/' || c == '=' || Text.isLetter c then none else some hit.stop

/-- One attribute and the gap after it. -/
def attributeItem : Pattern :=
  all [
    capture "name" attributeName,
    optional (all [equalsSigns, attributeValue]),
    attributeGap]

/-- The attributes from a place in a start tag of the given length, and the place after them. The
first argument bounds their number. -/
def attributesFrom (stop : Nat) :
    Nat → Cursor → Except TokenFailure (List Attribute × Cursor)
  | 0, cursor => .ok ([], cursor)
  | fuel + 1, cursor =>
      if cursor.offset < stop then
        match attributeItem.match? { cursor with captures := [] } some with
        | none => .ok ([], cursor)
        | some next => do
            let name := Text.lower ((next.captured? "name").getD [])
            let value ← (next.captured? "value").mapM decoded
            let (later, last) ← attributesFrom stop fuel next
            return (⟨name, value⟩ :: later, last)
      else .ok ([], cursor)

/-- The elements whose content is plain text. -/
def plainTextElements : List Text := ["script".toList, "style".toList]

/-- Reads a start tag, unless the text ends in it. A tag with something odd before its end is
text. -/
def startTagStep? (t : Text) : Except TokenFailure (Option Step) :=
  match startTagLength? t with
  | none => .ok none
  | some length =>
      match (all ["<", capture "tag" tagName, attributeGap]).match? (.atStart t) some with
      | none => .ok none
      | some cursor => do
          let name := Text.lower ((cursor.captured? "tag").getD [])
          let (attributes, last) ← attributesFrom length length cursor
          let raw := t.take length
          match Text.strip (raw.drop last.offset) with
          | ['/', '>'] => return some ⟨some (.selfClosing name raw), length, none⟩
          | ['>'] =>
              let element := if plainTextElements.contains name then some name else none
              return some ⟨some (.startTag name attributes raw), length, element⟩
          | _ => return some ⟨some (.text raw), length, none⟩

/-! ## End tags, comments and declarations -/

/-- An end tag with nothing but blanks beside its name. -/
def plainEndTag : Pattern :=
  all ["</", blanks,
    capture "name" (seq (one Text.isLetter) (many fun c =>
      Text.isLetter c || ('0' ≤ c && c ≤ '9') || among "-.:_" c)),
    blanks, ">"]

/-- The length of the text up to the first `>` after its first two characters. -/
def throughAngle? (t : Text) : Option Nat := (Text.offsetOf? ['>'] (t.drop 2)).map (· + 3)

/-- Reads what starts like an end tag, unless the text ends in it. Inside an element with plain
text only its own end tag ends it. -/
def endTagStep? (element : Option Text) (t : Text) : Option Step :=
  (throughAngle? t).map fun length =>
    match plainEndTag.leading? t, element with
    | some hit, none => ⟨some (.endTag (Text.lower (hit.group "name"))), length, none⟩
    | some hit, some name =>
        if Text.lower (hit.group "name") = name then ⟨some (.endTag name), length, none⟩
        else ⟨some (.text (t.take length)), length, some name⟩
    | none, some name => ⟨some (.text (t.take length)), length, some name⟩
    | none, none =>
        match tagName.leading? (t.drop 2) with
        | some hit => ⟨some (.endTag (Text.lower hit.text)), length, none⟩
        | none =>
            if length = 3 then ⟨none, 3, none⟩
            else ⟨some (.comment ((t.take (length - 1)).drop 2)), length, none⟩

/-- Reads a comment, unless the text ends in it. -/
def commentStep? (t : Text) : Option Step :=
  ((all ["--", blanks, ">"]).first? (t.drop 4)).map fun hit =>
    ⟨some (.comment ((t.drop 4).take hit.start)), hit.stop + 4, none⟩

/-- The kind of a marked section. -/
def sectionName : Pattern :=
  seq (one Text.isLetter)
    (seq (many fun c => Text.isLetter c || ('0' ≤ c && c ≤ '9') || among "-_." c) blanks)

/-- Passes over a marked section, unless the text ends in it. -/
def markedSectionStep? (t : Text) : Except TokenFailure (Option Step) :=
  let inner := t.drop 3
  if inner.isEmpty then .ok none
  else
    match sectionName.leading? inner with
    | none => .error (.missingSection (t.take 20))
    | some hit =>
        if hit.rest.isEmpty then .ok none
        else
          let name := String.ofList (Text.lower (Text.strip hit.text))
          let past (closing : Pattern) : Option Step :=
            (closing.first? inner).map fun hit => ⟨none, hit.stop + 3, none⟩
          if ["temp", "cdata", "ignore", "include", "rcdata"].contains name then
            .ok (past (all ["]", blanks, "]", blanks, ">"]))
          else if ["if", "else", "endif"].contains name then
            .ok (past (all ["]", blanks, ">"]))
          else .error (.unknownSection hit.text)

/-- Reads a declaration, unless the text ends in it. One of unknown kind is a comment. -/
def declarationStep? (t : Text) : Except TokenFailure (Option Step) :=
  if t.startsWith "<!--" then .ok (commentStep? t)
  else if t.startsWith "<![" then markedSectionStep? t
  else
    let doctype := (caseless "<!doctype").leading? t
    .ok ((throughAngle? t).map fun length =>
      if doctype.isSome then ⟨none, length, none⟩
      else ⟨some (.comment ((t.take (length - 1)).drop 2)), length, none⟩)

/-! ## The whole text -/

/-- Reads what starts with `<`, unless the text ends in it. -/
def angleStep? (element : Option Text) (t : Text) : Except TokenFailure (Option Step) :=
  match t with
  | _ :: '/' :: _ => .ok (endTagStep? element t)
  | _ :: '!' :: _ => declarationStep? t
  | _ :: '?' :: _ => .ok ((throughAngle? t).map fun length => ⟨none, length, none⟩)
  | _ :: c :: _ =>
      if Text.isLetter c then startTagStep? t else .ok (some ⟨some (.text ['<']), 1, none⟩)
  | _ => .ok (some ⟨some (.text t), 1, none⟩)

/-- How much of a text that ends in a tag is text: up to the next `>` and with it, or else up to
the next `<`, or else one character. -/
def brokenLength (t : Text) : Nat :=
  match Text.offsetOf? ['>'] (t.drop 1) with
  | some n => n + 2
  | none =>
      match Text.offsetOf? ['<'] (t.drop 1) with
      | some n => n + 1
      | none => 1

/-- The end tag of an element with plain text. -/
def elementEnd (name : Text) : Pattern :=
  all ["</", blanks, caseless (String.ofList name), blanks, ">"]

/-- The next step, if the element with plain text that it is in ever ends. -/
def step? (element : Option Text) (t : Text) : Except TokenFailure (Option Step) :=
  match element with
  | some name =>
      match (elementEnd name).first? t with
      | none => .ok none
      | some hit =>
          if 0 < hit.start then .ok (some ⟨some (.text (t.take hit.start)), hit.start, some name⟩)
          else .ok (endTagStep? element t)
  | none =>
      if t.head? = some '<' then do
        match ← angleStep? none t with
        | some step => return some step
        | none =>
            let length := brokenLength t
            return some ⟨some (.text (← decoded (t.take length))), length, none⟩
      else do
        let run := t.takeWhile (· != '<')
        return some ⟨some (.text (← decoded run)), run.length, none⟩

/-- The tokens of what follows a place. A failure is the last of them. The first argument counts
the characters of the latest step that are still to be passed over. -/
def tokensFrom :
    Nat → Option Text → Nat → Position → Text → List (Except TokenFailure Token)
  | _, _, _, _, [] => []
  | passing + 1, element, offset, position, c :: t =>
      tokensFrom passing element (offset + 1) (position.advance c) t
  | 0, element, offset, position, c :: t =>
      match step? element (c :: t) with
      | .error failure => [.error failure]
      | .ok none => []
      | .ok (some step) =>
          (step.content.map fun content => .ok ⟨offset, position, content⟩).toList ++
            tokensFrom (step.length - 1) step.element (offset + 1) (position.advance c) t

/-- The tokens of a text. A failure is the last of them. -/
def tokens (t : Text) : List (Except TokenFailure Token) :=
  tokensFrom 0 none 0 Position.start t

end SfcLint.Markup
