import Descent.Text.Pieces

/-!
# Blanks and words

The 25 characters with the Unicode property `White_Space`, and the words that they separate.  This
set has been stable for many years and is small enough to be spelled out; the properties that
change with every version of Unicode are kept apart, in `Text.Alphabet`.
-/

namespace Descent.Text

/-- A character with the Unicode property `White_Space`. -/
def isBlank (c : Char) : Bool :=
  let n := c.toNat
  (0x9 ≤ n && n ≤ 0xD) || n == 0x20 || n == 0x85 || n == 0xA0 || n == 0x1680 ||
    (0x2000 ≤ n && n ≤ 0x200A) || n == 0x2028 || n == 0x2029 || n == 0x202F ||
    n == 0x205F || n == 0x3000

/-- A text without the blanks at its two ends. -/
def trim (text : List Char) : List Char :=
  ((text.dropWhile isBlank).reverse.dropWhile isBlank).reverse

/-- The maximal runs without a blank, from left to right. -/
def words (text : List Char) : List (List Char) :=
  (pieces isBlank text).filter fun piece => !piece.isEmpty

/-- No word goes on over a blank. -/
theorem words_append_blank {c : Char} (h : isBlank c) (text rest : List Char) :
    words (text ++ c :: rest) = words text ++ words rest := by
  simp [words, pieces_append_cut h]

/-- Characters without a blank among them are one word. -/
theorem words_of_forall_not_blank {text : List Char} (nonempty : text ≠ [])
    (h : ∀ c ∈ text, ¬ isBlank c) : words text = [text] := by
  simp [words, pieces_of_forall_not h, nonempty]

/-- No word is empty. -/
theorem ne_nil_of_mem_words {text word : List Char} (h : word ∈ words text) : word ≠ [] := by
  simp only [words, List.mem_filter] at h
  rintro rfl
  simp at h

end Descent.Text
