import Descent.Text.Typography
import Descent.Text.Width

/-!
# Columns of printed characters

How many columns a character takes up can depend on what is behind it.  For a character that is
printed in ASCII it does not, unless it is asked to be a picture: it is one column wide, and what is
drawn together behind it ends there.  This is what a typography has to grant, and a little more: a
text of such characters adds its columns to whatever stands behind it, as long as that does not
start with the sign that asks for a picture.
-/

namespace Descent.Text

variable {text : List Char} {read : Int × Following}

/-- A printed character takes up one column, unless a sign behind it asks for a picture. -/
theorem widthStep_of_printed {c : Char} (h : isPrinted c) (still : read.2.asPicture = false) :
    widthStep c read = (read.1 + 1, .plain) := by
  obtain ⟨low, high⟩ : 0x20 ≤ c.toNat ∧ c.toNat < 0x7F := by simpa [isPrinted] using h
  have feed : c ≠ '\n' := by rintro rfl; exact absurd low (by decide)
  have ending : c ≠ '\r' := by rintro rfl; exact absurd low (by decide)
  have alone : read.2.before? c = none := by
    simp [Following.before?, still, ending, show c.toNat ≤ 0xA0 by omega]
  have width : textCharWidth c = 1 := by
    have printed : isControl c = false := by
      simp only [isControl, Bool.or_eq_false_iff, Bool.and_eq_false_iff, decide_eq_false_iff_not]
      omega
    simp [textCharWidth, printed, printedWidth, high]
  have follower : Follower.ofChar c = .plain := by
    simp [Follower.ofChar, feed, show c.toNat ≤ 0xA0 by omega]
  simp only [widthStep, alone, width, follower]
  rfl

/-- Printed characters add a column each to what is read behind them. -/
theorem foldr_widthStep_of_printed (h : ∀ c ∈ text, isPrinted c)
    (still : read.2.asPicture = false) :
    (text.foldr widthStep read).1 = read.1 + text.length ∧
      (text.foldr widthStep read).2.asPicture = false := by
  induction text with
  | nil => exact ⟨(Int.add_zero _).symm, still⟩
  | cons c text ih =>
    obtain ⟨first, others⟩ := List.forall_mem_cons.mp h
    obtain ⟨columns, still⟩ := ih others
    rw [List.foldr_cons, widthStep_of_printed first still, columns, List.length_cons]
    exact ⟨by push_cast; omega, rfl⟩

/-- **Printed characters add a column each** to a text behind them that does not ask for a
picture. -/
theorem unicodeWidth_append_of_printed (h : ∀ c ∈ text, isPrinted c)
    {rest : List Char} {columns : Nat} {following : Following}
    (behind : rest.foldr widthStep (0, .plain) = ((columns : Int), following))
    (still : following.asPicture = false) :
    unicodeWidth (text ++ rest) = text.length + columns := by
  rw [unicodeWidth, List.foldr_append, behind, (foldr_widthStep_of_printed h still).1]
  omega

/-- **Printed characters take up a column each.** -/
theorem unicodeWidth_of_printed (h : ∀ c ∈ text, isPrinted c) :
    unicodeWidth text = text.length := by
  have behind : [].foldr widthStep (0, .plain) = (((0 : Nat) : Int), Following.plain) := rfl
  have whole := unicodeWidth_append_of_printed h behind rfl
  rwa [List.append_nil, Nat.add_zero] at whole

end Descent.Text
