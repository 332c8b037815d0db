/-!
# Typographies

How many columns a text takes up on a terminal, and where a line is broken that is too long for
it, is the business of a library and of the tables that it comes with.  A report relies on little
of it: what is printed in ASCII takes up a column for each character.  So reports are laid out in
any typography of which this is true.
-/

namespace Descent.Text

/-- Whether a character is printed in ASCII. -/
def isPrinted (c : Char) : Bool := 0x20 ≤ c.toNat && c.toNat < 0x7F

/-- Letters are printed. -/
theorem isPrinted_of_mem_replicate {count : Nat} {c : Char} (h : c ∈ List.replicate count 'a') :
    isPrinted c := by
  rw [List.eq_of_mem_replicate h]
  decide

/-- Columns and lines of texts. -/
class Typography where
  /-- The columns that a text takes up. -/
  columns : List Char → Nat
  /-- The lines of a text, each at most so many columns wide where that is possible. -/
  lines : Nat → List Char → List (List Char)
  /-- Printed characters take up a column each. -/
  columns_of_printed (text : List Char) : (∀ c ∈ text, isPrinted c) → columns text = text.length

variable [Typography] {text : List Char}

/-- The columns that a text takes up. -/
def displayWidth (text : List Char) : Nat := Typography.columns text

/-- The lines of a text, each at most `limit` columns wide where that is possible. -/
def wrapped (limit : Nat) (text : List Char) : List (List Char) := Typography.lines limit text

/-- **Printed characters take up a column each.** -/
theorem displayWidth_of_printed (h : ∀ c ∈ text, isPrinted c) : displayWidth text = text.length :=
  Typography.columns_of_printed text h

end Descent.Text
