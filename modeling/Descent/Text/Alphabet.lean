import Descent.Text.Blank

/-!
# Alphabets

Which characters a word is made of, and which of them an identifier may start with, is looked up
in tables of Unicode that change from year to year.  Nothing that is said about reading a source
depends on these tables, with one exception: a word ends before a blank.  So lexemes are read over
any alphabet that has this one property, and the tables come in where the program is put together.
-/

namespace Descent.Text

/-- The characters that words are made of. -/
class Alphabet where
  /-- Whether a character has the property `XID_Start`. -/
  isXidStart : Char → Bool
  /-- Whether a character has the property `XID_Continue`. -/
  isXidContinue : Char → Bool
  /-- No blank has the property `XID_Continue`. -/
  not_isXidContinue_of_isBlank (c : Char) : isBlank c → ¬ isXidContinue c

variable [Alphabet] {c : Char}

/-- A character that may start an identifier: an underscore, or one with the property
`XID_Start`. -/
def isIdentifierStart (c : Char) : Bool := c = '_' || Alphabet.isXidStart c

/-- A character that words are made of. -/
def isWordPart (c : Char) : Bool := Alphabet.isXidContinue c

/-- No blank is a part of a word. -/
theorem not_isWordPart_of_isBlank (blank : isBlank c) : ¬ isWordPart c :=
  Alphabet.not_isXidContinue_of_isBlank c blank

end Descent.Text
