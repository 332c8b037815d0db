/-!
# Padding

A text is brought to a number of characters with spaces.  One that is long enough stays as it is.
Characters are counted here and not columns of a terminal: only tables and traces are padded,
whose rows need not line up for wide characters.
-/

namespace Descent.Text

/-- A number of spaces. -/
def spaces (count : Nat) : String := String.ofList (List.replicate count ' ')

/-- A text with spaces before it, so that it has at least `width` characters. -/
def padLeft (width : Nat) (text : String) : String :=
  spaces (width - text.length) ++ text

/-- A text with spaces after it, so that it has at least `width` characters. -/
def padRight (width : Nat) (text : String) : String :=
  text ++ spaces (width - text.length)

@[simp] theorem length_spaces (count : Nat) : (spaces count).length = count := by
  simp [spaces]

@[simp] theorem length_padLeft (width : Nat) (text : String) :
    (padLeft width text).length = max width text.length := by
  simp only [padLeft, String.length_append, length_spaces]
  omega

@[simp] theorem length_padRight (width : Nat) (text : String) :
    (padRight width text).length = max width text.length := by
  simp only [padRight, String.length_append, length_spaces]
  omega

end Descent.Text
