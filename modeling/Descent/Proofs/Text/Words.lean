import Mathlib.Data.List.DropRight
import Descent.Text.Blank

/-!
# Words and lines

Whatever is written by this library is read back by it somewhere, grammars and normalised sources
alike.  What this needs of a text is little: words that are written with a space between
neighbours are read back, and so are lines that are each ended by a line feed.

Lines are trimmed before it is asked what they start with, while their words are found in the
whole line.  `Text.prefix_trim_iff` says that this makes no difference: without its outer blanks a
text starts as its first word does.
-/

namespace Descent.Text

variable {text word rest : List Char}

/-! ### Pieces -/

/-- The pieces of a list are those into which the library splits it. -/
theorem pieces_eq_splitOnP {α : Type} (cut : α → Bool) (l : List α) :
    pieces cut l = l.splitOnP cut := by
  induction l with
  | nil => rw [pieces_nil, List.splitOnP_nil]
  | cons a l ih =>
    rw [pieces, List.splitOnP_cons_eq_if_modifyHead, ← ih]
    obtain ⟨piece, others, split⟩ := List.exists_cons_of_ne_nil (pieces_ne_nil cut l)
    rw [split]
    rfl

/-- No piece contains a cut. -/
theorem not_of_mem_pieces {α : Type} {cut : α → Bool} {l piece : List α} {a : α}
    (h : piece ∈ pieces cut l) (mem : a ∈ piece) : ¬ cut a := by
  induction l generalizing piece with
  | nil =>
    rw [pieces_nil, List.mem_singleton] at h
    rw [h] at mem
    cases mem
  | cons b l ih =>
    rw [pieces] at h
    split at h
    · rcases List.mem_cons.mp h with rfl | h
      · cases mem
      · exact ih h mem
    · rename_i kept
      obtain ⟨first, others, split⟩ := List.exists_cons_of_ne_nil (pieces_ne_nil cut l)
      rw [split] at h ih
      rcases List.mem_cons.mp h with rfl | h
      · rcases List.mem_cons.mp mem with rfl | mem
        · exact kept
        · exact ih List.mem_cons_self mem
      · exact ih (List.mem_cons_of_mem first h) mem

/-- What stands between lists is the only thing that is added to them. -/
theorem eq_or_exists_of_mem_intercalate {α : Type} {between a : α} {list : List (List α)}
    (h : a ∈ [between].intercalate list) : a = between ∨ ∃ part ∈ list, a ∈ part := by
  induction list with
  | nil => cases h
  | cons part others ih =>
    cases others with
    | nil =>
      rw [List.intercalate_singleton] at h
      exact .inr ⟨part, List.mem_cons_self, h⟩
    | cons second others =>
      rw [List.intercalate_cons_cons, List.append_assoc] at h
      rcases List.mem_append.mp h with mem | mem
      · exact .inr ⟨part, List.mem_cons_self, mem⟩
      · rcases List.mem_cons.mp mem with same | mem
        · exact .inl same
        · exact (ih mem).imp_right fun ⟨other, inside, mem⟩ =>
            ⟨other, List.mem_cons_of_mem part inside, mem⟩

theorem mem_intercalate_of_mem {α : Type} {between a : α} {part : List α} {list : List (List α)}
    (h : part ∈ list) (inside : a ∈ part) : a ∈ [between].intercalate list := by
  induction list with
  | nil => cases h
  | cons first others ih =>
    cases others with
    | nil =>
      rw [List.mem_singleton.mp h] at inside
      rwa [List.intercalate_singleton]
    | cons second others =>
      rw [List.intercalate_cons_cons, List.append_assoc, List.mem_append]
      rcases List.mem_cons.mp h with rfl | h
      · exact .inl inside
      · exact .inr (List.mem_cons_of_mem between (ih h))

/-! ### Words -/

/-- Characters are a word if there are some, and no blank is among them. -/
def IsWord (text : List Char) : Prop :=
  text ≠ [] ∧ ∀ c ∈ text, ¬ isBlank c

instance (text : List Char) : Decidable (IsWord text) :=
  decidable_of_iff (text ≠ [] ∧ text.all (!isBlank ·) = true) (by simp [IsWord])

/-- A word does not go on over the end of a line. -/
theorem IsWord.ne_of_mem (h : IsWord word) {c : Char} (mem : c ∈ word) : c ≠ '\n' ∧ c ≠ '\r' := by
  have solid := h.2 c mem
  constructor <;> rintro rfl <;> exact solid (by decide)

/-- A text that starts with a word does not start with a blank. -/
theorem IsWord.not_isBlank_head (h : IsWord word) (rest : List Char) :
    ∀ c ∈ (word ++ rest).head?, ¬ isBlank c := by
  obtain ⟨first, others, rfl⟩ := List.exists_cons_of_ne_nil h.1
  exact fun c mem => h.2 c (Option.mem_some.mp mem ▸ List.mem_cons_self)

/-- What is read as a word is one. -/
theorem isWord_of_mem_words (h : word ∈ words text) : IsWord word :=
  ⟨ne_nil_of_mem_words h, fun _ mem => not_of_mem_pieces (List.mem_filter.mp h).1 mem⟩

@[simp] theorem words_nil : words [] = [] := rfl

theorem words_cons_blank {c : Char} (h : isBlank c) (text : List Char) :
    words (c :: text) = words text := by
  rw [← List.nil_append (c :: text), words_append_blank h, words_nil, List.nil_append]

/-- A character that is no blank is part of a word. -/
theorem words_cons_ne_nil {c : Char} (h : ¬ isBlank c) (text : List Char) :
    words (c :: text) ≠ [] := by
  obtain ⟨piece, others, split⟩ := List.exists_cons_of_ne_nil (pieces_ne_nil isBlank text)
  simp [words, pieces, h, split]

/-- A word ends where a blank follows, or nothing. -/
theorem IsWord.words_append (h : IsWord word) (ends : ∀ c ∈ rest.head?, isBlank c) :
    words (word ++ rest) = word :: words rest := by
  cases rest with
  | nil => rw [List.append_nil, words_of_forall_not_blank h.1 h.2, words_nil]
  | cons c rest =>
    have blank : isBlank c := ends c rfl
    rw [words_append_blank blank, words_of_forall_not_blank h.1 h.2, words_cons_blank blank,
      List.singleton_append]

/-- **Words that are written with a space between neighbours are read back.** -/
theorem words_intercalate {list : List (List Char)} (h : ∀ word ∈ list, IsWord word) :
    words ([' '].intercalate list) = list := by
  induction list with
  | nil => rfl
  | cons word others ih =>
    rw [List.forall_mem_cons] at h
    cases others with
    | nil => rw [List.intercalate_singleton, words_of_forall_not_blank h.1.1 h.1.2]
    | cons second others =>
      rw [List.intercalate_cons_cons, List.append_assoc,
        h.1.words_append (by simpa using by decide), List.singleton_append,
        words_cons_blank (by decide), ih h.2]

theorem words_dropWhile (text : List Char) : words (text.dropWhile isBlank) = words text := by
  induction text with
  | nil => rfl
  | cons c text ih =>
    by_cases blank : isBlank c
    · rw [List.dropWhile_cons_of_pos blank, ih, words_cons_blank blank]
    · rw [List.dropWhile_cons_of_neg blank]

theorem words_rdropWhile (text : List Char) : words (text.rdropWhile isBlank) = words text := by
  induction text using List.reverseRecOn with
  | nil => rfl
  | append_singleton text c ih =>
    by_cases blank : isBlank c
    · rw [List.rdropWhile_concat_pos _ _ _ blank, ih, words_append_blank blank, words_nil,
        List.append_nil]
    · rw [List.rdropWhile_concat_neg _ _ _ blank]

/-! ### Outer blanks -/

/-- The outer blanks are no part of a word. -/
theorem words_trim (text : List Char) : words (trim text) = words text :=
  (words_rdropWhile (text.dropWhile isBlank)).trans (words_dropWhile text)

/-- A text without the blanks at its end, if it starts with a word. -/
theorem IsWord.rdropWhile_append (h : IsWord word) (rest : List Char) :
    (word ++ rest).rdropWhile isBlank = word ++ rest.rdropWhile isBlank := by
  have kept : word.rdropWhile isBlank = word :=
    List.rdropWhile_eq_self_iff.mpr fun nonempty => h.2 _ (List.getLast_mem nonempty)
  simp only [List.rdropWhile, List.reverse_append] at kept ⊢
  rw [List.dropWhile_append]
  split
  · rename_i none
    rw [kept, List.isEmpty_iff.mp none, List.reverse_nil, List.append_nil]
  · rw [List.reverse_append, List.reverse_reverse]

/-- Without the outer blanks, a text starts with its first word. -/
theorem exists_trim_eq {others : List (List Char)} (h : words text = word :: others) :
    ∃ rest, trim text = word ++ rest ∧ ∀ c ∈ rest.head?, isBlank c := by
  have front := List.head?_dropWhile_not isBlank text
  have read := words_dropWhile text
  have trimmed : trim text = (text.dropWhile isBlank).rdropWhile isBlank := rfl
  rw [h] at read
  rw [trimmed]
  generalize text.dropWhile isBlank = shorter at front read
  -- The first word goes as far as there is no blank.
  have split := List.takeWhile_append_dropWhile (p := fun c => !isBlank c) (l := shorter)
  have first : IsWord (shorter.takeWhile fun c => !isBlank c) := by
    refine ⟨fun none => ?_, fun c mem => by simpa using List.mem_takeWhile_imp mem⟩
    cases shorter with
    | nil => cases read
    | cons c shorter => simp_all
  have ends : ∀ c ∈ (shorter.dropWhile fun c => !isBlank c).head?, isBlank c := by
    intro c mem
    have stop := List.head?_dropWhile_not (fun c => !isBlank c) shorter
    rw [Option.mem_def.mp mem] at stop
    simpa using stop
  rw [← split, first.words_append ends, List.cons.injEq] at read
  refine ⟨(shorter.dropWhile fun c => !isBlank c).rdropWhile isBlank, ?_, fun c mem => ?_⟩
  · rw [← read.1, ← first.rdropWhile_append, split]
  · refine ends c ?_
    obtain ⟨cut, whole⟩ := List.rdropWhile_prefix isBlank (shorter.dropWhile fun c => !isBlank c)
    rw [← whole, List.head?_append, Option.mem_def.mp mem]
    rfl

/-- **Without the outer blanks, a text starts as its first word does**, as far as there is no
blank. -/
theorem prefix_trim_iff {others : List (List Char)} {front : List Char}
    (h : words text = word :: others) (solid : ∀ c ∈ front, ¬ isBlank c) :
    front <+: trim text ↔ front <+: word := by
  obtain ⟨rest, trimmed, ends⟩ := exists_trim_eq h
  rw [trimmed]
  refine ⟨fun start => ?_, fun start => start.trans (List.prefix_append word rest)⟩
  rcases List.prefix_or_prefix_of_prefix start (List.prefix_append word rest) with short | long
  · exact short
  · -- What goes on after the word starts with a blank.
    obtain ⟨more, rfl⟩ := long
    cases more with
    | nil => exact (List.append_nil word).symm ▸ List.prefix_rfl
    | cons c more =>
      obtain ⟨after, whole⟩ := (List.prefix_append_right_inj word).mp start
      rw [← whole] at ends
      exact absurd (ends c rfl) (solid c (by simp))

/-- Without the outer blanks nothing is left exactly if there is no word. -/
theorem trim_eq_nil_iff : trim text = [] ↔ words text = [] := by
  cases read : words text with
  | nil =>
    refine iff_of_true ?_ rfl
    have read := (words_dropWhile text).trans read
    have front := List.head?_dropWhile_not isBlank text
    rw [trim]
    cases shorter : text.dropWhile isBlank with
    | nil => rfl
    | cons c rest =>
      rw [shorter] at read front
      have solid : ¬ isBlank c := by simpa using front
      exact absurd read (words_cons_ne_nil solid rest)
  | cons word others =>
    obtain ⟨rest, trimmed, -⟩ := exists_trim_eq read
    have nonempty : word ≠ [] := ne_nil_of_mem_words (read ▸ List.mem_cons_self)
    rw [trimmed]
    exact iff_of_false (by simp [nonempty]) (List.cons_ne_nil _ _)

/-! ### Lines -/

theorem dropReturns_cons {c : Char} (h : c ≠ '\r') (text : List Char) :
    dropReturns (c :: text) = c :: dropReturns text := by
  rw [dropReturns]
  rintro rest rfl
  exact absurd rfl h

/-- A line that is ended by a line feed is read back. -/
theorem lines_append {line : List Char} (h : ∀ c ∈ line, c ≠ '\n' ∧ c ≠ '\r') (rest : List Char) :
    lines (line ++ '\n' :: rest) = line :: lines rest := by
  induction line with
  | nil =>
    rw [List.nil_append, lines, dropReturns_cons (by decide), feeds, if_pos rfl]
    rfl
  | cons c line ih =>
    rw [List.forall_mem_cons] at h
    have ih := ih h.2
    rw [lines] at ih ⊢
    rw [List.cons_append, dropReturns_cons h.1.2, feeds, if_neg h.1.1, ih]

/-- **Lines that are each ended by a line feed are read back.** -/
theorem lines_flatMap {list : List (List Char)}
    (h : ∀ line ∈ list, ∀ c ∈ line, c ≠ '\n' ∧ c ≠ '\r') :
    lines (list.flatMap (· ++ ['\n'])) = list := by
  induction list with
  | nil => rfl
  | cons line others ih =>
    rw [List.forall_mem_cons] at h
    rw [List.flatMap_cons, List.append_assoc, List.singleton_append, lines_append h.1, ih h.2]

end Descent.Text
