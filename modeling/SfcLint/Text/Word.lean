/-
# Words

The characters that make up words and identifiers. A word character is a letter or numeral of any
script or an underscore; an identifier also takes the dollar sign and starts with a letter of the
basic alphabet, an underscore or a dollar sign.
-/

import SfcLint.Text.Alphanumeric

namespace SfcLint.Text

/-- A letter, a numeral or an underscore. -/
def isWordChar (c : Char) : Bool := isAlphanumeric c || c == '_'

/-- A character that may continue an identifier. -/
def isNameChar (c : Char) : Bool := isWordChar c || c == '$'

/-- A letter of the basic alphabet. -/
def isLetter (c : Char) : Bool := ('a' ≤ c && c ≤ 'z') || ('A' ≤ c && c ≤ 'Z')

/-- A character that may start an identifier. -/
def isNameStart (c : Char) : Bool := isLetter c || c == '_' || c == '$'

end SfcLint.Text
