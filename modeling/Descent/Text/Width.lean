import Descent.Text.Width.Following
import Descent.Text.Width.Wide

/-!
# Columns that a text takes up

The width of a text is the sum of the widths of its characters, with two kinds of exceptions.
Pictures that are put together from several characters are two columns wide, and letters that some
scripts write as one are one column wide.  What a character adds thus depends on what follows it,
so a text is read from its end, with a note of what was just read.

For this reason the beginning of a text can be wider than the whole of it: a picture that is asked
to be drawn as text is narrower with the sign that asks than without.
-/

namespace Descent.Text

/-- Whether a character is a control character. -/
def isControl (c : Char) : Bool :=
  c.toNat < 0x20 || (0x7F ≤ c.toNat && c.toNat < 0xA0)

/-- The columns of a character that is no control character. -/
def printedWidth (c : Char) : Nat :=
  if c.toNat < 0x7F then 1
  else if c = '\u17A4' then 2
  else if c = '\u17D8' then 3
  else if inRanges zeroWidths c then 0
  else if inRanges doubleWidths c then 2
  else 1

/-- The columns of a character by itself.  Control characters have none. -/
def charWidth (c : Char) : Nat :=
  if isControl c then 0 else printedWidth c

/-- The columns of a character within a text.  Control characters take up one. -/
def textCharWidth (c : Char) : Nat :=
  if isControl c then 1 else printedWidth c

/-- Reads one more character, from the end of a text. -/
def widthStep (c : Char) (read : Int × Following) : Int × Following :=
  match read.2.before? c with
  | some (columns, following) => (read.1 + columns, following)
  | none => (read.1 + textCharWidth c, { follower := Follower.ofChar c })

/-- The columns that a text takes up. -/
def unicodeWidth (text : List Char) : Nat :=
  (text.foldr widthStep (0, Following.plain)).1.toNat

end Descent.Text
