/-!
# Ranges of code points

The tables of Unicode are lists of ranges, and a character is looked up by going through them.
-/

namespace Descent.Text

/-- The first and the last code point of a range. -/
abbrev CodeRange := Nat × Nat

/-- Whether a character lies in one of the ranges. -/
def inRanges (ranges : List CodeRange) (c : Char) : Bool :=
  ranges.any fun range => range.1 ≤ c.toNat && c.toNat ≤ range.2

end Descent.Text
