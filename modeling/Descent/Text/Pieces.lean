/-!
# Cutting a list into pieces

A list is cut at every element that a test picks out.  The picked elements are dropped, and what
stands between them, before the first and after the last, are the pieces, empty ones included.  So
`pieces` never gives the empty list, and a list without a cut is one piece.  The words of a text
and the alternatives of a production line are made from it.

The lines of a text are not.  A line feed *ends* a line instead of separating two, so a text that
ends in one has no further, empty line after it; and a carriage return belongs to the line ending
right before a line feed, but to the line anywhere else.  Hence `lines` has a recursion of its
own, `feeds`.
-/

namespace Descent.Text

/-- The pieces between the elements where `cut` holds. -/
def pieces {α : Type} (cut : α → Bool) : List α → List (List α)
  | [] => [[]]
  | a :: rest =>
    if cut a then [] :: pieces cut rest
    else
      match pieces cut rest with
      | [] => [[a]]
      | piece :: others => (a :: piece) :: others

/-- Drops every carriage return that stands right before a line feed. -/
def dropReturns : List Char → List Char
  | [] => []
  | '\r' :: '\n' :: rest => '\n' :: dropReturns rest
  | c :: rest => c :: dropReturns rest

/-- The stretches that a line feed or the end of the text ends. -/
def feeds : List Char → List (List Char)
  | [] => []
  | c :: rest =>
    if c = '\n' then [] :: feeds rest
    else
      match feeds rest with
      | [] => [[c]]
      | line :: others => (c :: line) :: others

/-- The lines of a text, without their line endings. -/
def lines (text : List Char) : List (List Char) :=
  feeds (dropReturns text)

@[simp] theorem pieces_nil {α : Type} (cut : α → Bool) : pieces cut [] = [[]] := rfl

/-- Every list has a piece. -/
theorem pieces_ne_nil {α : Type} (cut : α → Bool) (l : List α) : pieces cut l ≠ [] := by
  cases l with
  | nil => simp
  | cons a rest =>
    rw [pieces]
    split
    · simp
    · split <;> simp

/-- At a cut the pieces of what is before it end, and those of what is after it start. -/
theorem pieces_append_cut {α : Type} {cut : α → Bool} {a : α} (h : cut a) (l rest : List α) :
    pieces cut (l ++ a :: rest) = pieces cut l ++ pieces cut rest := by
  induction l with
  | nil => simp [pieces, h]
  | cons b l ih =>
    rw [List.cons_append, pieces, pieces, ih]
    by_cases hb : cut b
    · simp [hb]
    · obtain ⟨piece, others, split⟩ := List.exists_cons_of_ne_nil (pieces_ne_nil cut l)
      simp [hb, split]

/-- A list without a cut is one piece. -/
theorem pieces_of_forall_not {α : Type} {cut : α → Bool} {l : List α} (h : ∀ a ∈ l, ¬ cut a) :
    pieces cut l = [l] := by
  induction l with
  | nil => rfl
  | cons a l ih =>
    rw [List.forall_mem_cons] at h
    simp [pieces, h.1, ih h.2]

end Descent.Text
