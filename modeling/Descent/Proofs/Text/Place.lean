import Mathlib.Data.List.DropRight
import Mathlib.Data.List.Infix
import Descent.Caret

/-!
# Places in a text

The caret after a text can be said without counting: there are as many lines before it as the text
has line feeds, and its column is what is left after the last of these.  `Caret.after_start` shows
that counting character by character comes to that.

It also says which texts have places beyond the last one.  A text is `Caret.Countable` if its
lines are not too many and none of them is too long, and then every place in it is counted.
-/

namespace Descent.Caret

variable {text before rest : List Char} {caret : Caret}

/-! ### The place after a text -/

/-- The place after a text: the number of its line feeds, and the number of characters after the
last of them. -/
def ofText (text : List Char) : Caret :=
  ⟨text.count '\n', (text.rtakeWhile (· ≠ '\n')).length⟩

theorem ofText_concat (text : List Char) (c : Char) :
    ofText (text ++ [c]) = (ofText text).advance c := by
  rw [ofText, List.count_append, List.rtakeWhile_concat]
  by_cases feed : c = '\n'
  · simp [feed, advance, ofText]
  · simp [feed, advance, ofText]

/-- **The caret after a text is the place after it.** -/
theorem after_start (text : List Char) : start.after text = ofText text := by
  induction text using List.reverseRecOn with
  | nil => rfl
  | append_singleton text c ih => rw [after_append, ih, after_cons, after_nil, ofText_concat]

/-- Going on from the place after a text leads to the place after more of it. -/
theorem after_ofText (text more : List Char) :
    (ofText text).after more = ofText (text ++ more) := by
  rw [← after_start, ← after_start, after_append]

theorem le_advance (caret : Caret) (c : Char) : caret ≤ caret.advance c := by
  rw [le_iff, advance]
  split
  · exact .inl (Nat.lt_succ_self _)
  · exact .inr ⟨rfl, Nat.le_succ _⟩

/-- Carets only move forward. -/
theorem le_after (caret : Caret) (text : List Char) : caret ≤ caret.after text := by
  induction text generalizing caret with
  | nil => exact le_refl caret
  | cons c text ih => exact le_trans (le_advance caret c) (ih (caret.advance c))

/-- More of a text does not end before it. -/
theorem ofText_le_append (text more : List Char) : ofText text ≤ ofText (text ++ more) := by
  rw [← after_ofText]
  exact le_after (ofText text) more

/-! ### Places that can be counted -/

/-- The lines of a text are not too many and not too long for their places to be counted. -/
structure Countable (text : List Char) : Prop where
  /-- There are not too many lines. -/
  lines : text.count '\n' < last
  /-- No line is too long. -/
  lengths : ∀ line ∈ Text.pieces (· == '\n') text, line.length < last

/-- The line of a place goes on to the end of the first line of what follows. -/
theorem exists_length_eq_column_add {piece : List Char} {others : List (List Char)}
    (split : Text.pieces (· == '\n') rest = piece :: others) (before : List Char) :
    ∃ line ∈ Text.pieces (· == '\n') (before ++ rest),
      line.length = (ofText before).column + piece.length := by
  induction before using List.reverseRecOn generalizing rest piece others with
  | nil =>
    rw [List.nil_append, split]
    exact ⟨piece, List.mem_cons_self, by simp [ofText]⟩
  | append_singleton before c ih =>
    rw [List.append_assoc, List.singleton_append, ofText_concat, advance]
    split
    · rename_i feed
      have cut : Text.pieces (· == '\n') (before ++ c :: rest) =
          Text.pieces (· == '\n') before ++ Text.pieces (· == '\n') rest :=
        Text.pieces_append_cut (by simpa using feed) before rest
      refine ⟨piece, ?_, (Nat.zero_add _).symm⟩
      rw [cut, split]
      exact List.mem_append_right _ List.mem_cons_self
    · rename_i other
      have longer : Text.pieces (· == '\n') (c :: rest) = (c :: piece) :: others := by
        rw [Text.pieces, if_neg (by simpa using other), split]
      obtain ⟨line, mem, length⟩ := ih longer
      exact ⟨line, mem, length.trans (Nat.succ_add_eq_add_succ _ _).symm⟩

/-- The places in a countable text can be counted. -/
theorem Countable.ofText_le (h : Countable (before ++ rest)) :
    (ofText before).line ≤ last ∧ (ofText before).column ≤ last := by
  obtain ⟨piece, others, split⟩ := List.exists_cons_of_ne_nil (Text.pieces_ne_nil (· == '\n') rest)
  obtain ⟨line, mem, length⟩ := exists_length_eq_column_add split before
  have lines := h.lines
  have lengths := h.lengths line mem
  rw [List.count_append] at lines
  exact ⟨Nat.le_of_lt (Nat.lt_of_le_of_lt (Nat.le_add_right _ _) lines), by omega⟩

/-- The carets on the way through the rest of a countable text are the places in it. -/
theorem Countable.path?_ofText (h : Countable (before ++ rest)) :
    (ofText before).path? rest = some (rest.inits.map fun more => ofText (before ++ more)) := by
  induction rest generalizing before with
  | nil => simp [path?]
  | cons c rest ih =>
    rw [List.append_cons] at h
    have counted : (ofText before).advance? c = some (ofText (before ++ [c])) := by
      rw [advance?, ← ofText_concat]
      exact if_pos h.ofText_le
    rw [path?, counted, Option.bind_eq_bind, Option.bind_some, ih h]
    simp [Function.comp_def]

/-- **Every place in a countable text is counted.** -/
theorem Countable.path?_eq (h : Countable text) :
    start.path? text = some (text.inits.map ofText) := by
  rw [← List.nil_append text] at h
  exact h.path?_ofText

end Descent.Caret
