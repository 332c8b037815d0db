import Descent.Proofs.Text.Width
import Descent.Text.Alphabet
import Descent.Text.Identifier.Continue
import Descent.Text.Identifier.Start
import Descent.Text.Wrapped

/-!
# Unicode

The alphabet and the typography of the program, both from the tables of Unicode.  Blanks are few
enough to be looked up one by one, which shows that none of them is a part of a word.
-/

namespace Descent.Text

/-- Whether a character has the property `XID_Start`. -/
def hasXidStart (c : Char) : Bool := inRanges identifierStarts c

/-- Whether a character has the property `XID_Continue`. -/
def hasXidContinue (c : Char) : Bool := hasXidStart c || inRanges identifierOnlyContinues c

/-- The code points of the blanks. -/
def blankCodes : List Nat :=
  [0x9, 0xA, 0xB, 0xC, 0xD, 0x20, 0x85, 0xA0, 0x1680, 0x2000, 0x2001, 0x2002, 0x2003, 0x2004,
    0x2005, 0x2006, 0x2007, 0x2008, 0x2009, 0x200A, 0x2028, 0x2029, 0x202F, 0x205F, 0x3000]

theorem toNat_mem_blankCodes {c : Char} (blank : isBlank c) : c.toNat ∈ blankCodes := by
  simp only [isBlank, Bool.or_eq_true, Bool.and_eq_true, decide_eq_true_eq, beq_iff_eq] at blank
  simp only [blankCodes, List.mem_cons, List.not_mem_nil, or_false]
  omega

theorem not_hasXidContinue_of_isBlank (c : Char) (blank : isBlank c) : ¬ hasXidContinue c := by
  have each : ∀ code ∈ blankCodes, ¬ hasXidContinue (Char.ofNat code) := by decide +kernel
  have found := each c.toNat (toNat_mem_blankCodes blank)
  rwa [Char.ofNat_toNat] at found

/-- The letters and digits of all scripts. -/
instance unicodeAlphabet : Alphabet where
  isXidStart := hasXidStart
  isXidContinue := hasXidContinue
  not_isXidContinue_of_isBlank := not_hasXidContinue_of_isBlank

/-- Columns by the width of characters, and lines that are broken evenly. -/
instance unicodeTypography : Typography where
  columns := unicodeWidth
  lines := wrapEvenly
  columns_of_printed _ := unicodeWidth_of_printed

end Descent.Text
