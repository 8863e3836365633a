/-
# Upper and lower case

Full case conversion: one character may become several, and a capital sigma that ends a word
becomes the final form of the small letter.
-/

import SfcLint.Text.CaseTable

namespace SfcLint.Text

/-- The partner of a character above the seven-bit range, which may be a longer text. -/
def partner (long : List (Nat × List Nat)) (runs : List CaseRun) (c : Char) : Text :=
  match long.lookup c.toNat with
  | some codes => codes.map Char.ofNat
  | none => [Char.ofNat ((runs.findSome? (·.partner? c.toNat)).getD c.toNat)]

/-- The upper-case form of one character. -/
def upperChar (c : Char) : Text :=
  if c.toNat < 128 then [c.toUpper] else partner upperLong upperRuns c

/-- The lower-case form of one character, wherever it stands. -/
def lowerChar (c : Char) : Text :=
  if c.toNat < 128 then [c.toLower] else partner lowerLong lowerRuns c

/-- Of a row of characters, the first that a word's case does not look through has a case. -/
def nextIsCased : Text → Bool
  | [] => false
  | c :: t => if caseIgnorable.contains c then nextIsCased t else cased.contains c

/-- The text in upper case. -/
def upper (t : Text) : Text := t.flatMap upperChar

/-- The text in lower case, given the characters before it, nearest first. A capital sigma after a
cased character and before none is written in its final form. -/
def lowerAfter (before : Text) : Text → Text
  | [] => []
  | c :: t =>
      (if c = 'Σ' then
        if nextIsCased before && !nextIsCased t then ['ς'] else ['σ']
      else lowerChar c) ++ lowerAfter (c :: before) t

/-- The text in lower case. -/
def lower (t : Text) : Text := lowerAfter [] t

end SfcLint.Text
