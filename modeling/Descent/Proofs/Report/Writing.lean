import Mathlib.Data.List.Forall2
import Mathlib.Tactic.MkIffOfInductiveProp
import Descent.Report.Emission

/-!
# Writing diagnostics

Writing stops at a number that cannot be written, or where there is no more room.  Which
diagnostics hold such a number is decided by where they start: a line or column that cannot be
counted on, or too many columns before the underline.  All others are written one after the other.

There are two ways in which less is written than there was to write, and they do not mix well.  So
what would be written with enough room is found first, as one text; and then what is written with
too little room is a beginning of it, by `writtenUpTo_write`, whatever the pieces are.
-/

namespace Descent.Report

variable {pieces rest : List Piece} {text whole : String}

/-! ### Numbers that can be written -/

/-- Only a place can keep a headline from being written. -/
theorem headline?_eq_none_iff (sources : Sources) (diagnostic : Diagnostic) :
    headline? sources diagnostic = none ↔
      ¬ ∀ caret ∈ diagnostic.location, caret.line < Caret.last ∧ caret.column < Caret.last := by
  unfold headline?
  cases diagnostic.location with
  | none => simp; split <;> simp
  | some caret =>
    by_cases counted : caret.line < Caret.last ∧ caret.column < Caret.last
    · simp [Caret.render?, counted]
    · simp [Caret.render?, counted]

/-- Only the columns before it can keep an underline from being written. -/
theorem overflow_mem_underline_iff (layout : Layout) (excerpt : Excerpt) :
    .overflow ∈ layout.underline excerpt ↔ maxPadding < excerpt.pad := by
  cases layout with
  | plain =>
    rw [Layout.underline]
    split <;> simp [*]
  | wrapped width =>
    rw [Layout.underline, padding]
    split <;> simp [*]

section Showable

variable [Text.Typography]

/-- Every number of a diagnostic can be written. -/
@[mk_iff]
structure Diagnostic.Showable (sources : Sources) (diagnostic : Diagnostic) : Prop where
  /-- Line and column of the start can be counted from one. -/
  counted : ∀ caret ∈ diagnostic.location, caret.line < Caret.last ∧ caret.column < Caret.last
  /-- The columns before the underline can be padded. -/
  narrow : ∀ excerpt ∈ Excerpt.of? sources diagnostic, excerpt.pad ≤ maxPadding

instance (sources : Sources) (diagnostic : Diagnostic) :
    Decidable (diagnostic.Showable sources) :=
  decidable_of_iff _ (Diagnostic.showable_iff sources diagnostic).symm

/-- A diagnostic about no place can be shown. -/
theorem Diagnostic.Showable.of_span_eq_none {diagnostic : Diagnostic} (h : diagnostic.span = none)
    (sources : Sources) : diagnostic.Showable sources where
  counted := by simp [Diagnostic.location, h]
  narrow := by simp [Excerpt.of?, h]

/-- If a diagnostic can be shown, what its line has before its span can be padded. -/
theorem Diagnostic.Showable.displayWidth_le {sources : Sources} {diagnostic : Diagnostic}
    {span : Span} {source : SourceId} {line : String} (h : diagnostic.Showable sources)
    (placed : diagnostic.span = some span) (sourced : diagnostic.source = some source)
    (quoted : sources.line? source span.start.line = some line) :
    Text.displayWidth (Excerpt.before line span.start.column) ≤ maxPadding := by
  refine h.narrow ⟨span.start.line + 1, line, _, Excerpt.underlineLength line span⟩ ?_
  rw [Excerpt.of?, placed, sourced, Option.bind_eq_bind, Option.bind_some, Option.bind_eq_bind,
    Option.bind_some, quoted]
  rfl

/-- A diagnostic cannot be shown behind too many columns of the line that it is about. -/
theorem Diagnostic.not_showable_of_wide {source : Source} {line : List Char}
    {others : List (List Char)} {column : Nat}
    (lines : Text.lines source.text.toList = line :: others)
    (wide : maxPadding < Text.displayWidth (line.take column)) (text : String) :
    ¬ Showable #[source] { text, source := some 0, span := some (Span.point ⟨0, column⟩) } := by
  have quoted : Sources.line? #[source] 0 0 = some (String.ofList line) := by
    show ((Text.lines source.text.toList)[0]?.bind fun line => some (String.ofList line)) = _
    rw [lines]
    rfl
  intro showable
  have narrow := showable.displayWidth_le rfl rfl quoted
  rw [Excerpt.before, String.toList_ofList] at narrow
  exact absurd wide (Nat.not_lt.mpr narrow)

/-- **What is written for a diagnostic** holds a number that cannot be written exactly if the
diagnostic does. -/
theorem overflow_mem_pieces_iff (layout : Layout) (sources : Sources) (diagnostic : Diagnostic) :
    .overflow ∈ layout.pieces sources diagnostic ↔ ¬ diagnostic.Showable sources := by
  have excerpt : .overflow ∈ layout.excerptPieces (Excerpt.of? sources diagnostic) ↔
      ¬ ∀ excerpt ∈ Excerpt.of? sources diagnostic, excerpt.pad ≤ maxPadding := by
    cases Excerpt.of? sources diagnostic with
    | none => simp [Layout.excerptPieces]
    | some excerpt => simp [Layout.excerptPieces, overflow_mem_underline_iff]
  rw [Diagnostic.showable_iff, not_and_or, ← headline?_eq_none_iff, ← excerpt]
  cases headline : headline? sources diagnostic <;> simp [Layout.pieces, headline]

end Showable

/-! ### Enough room -/

/-- Where every number can be written, so is everything. -/
theorem exists_write_eq_complete (h : .overflow ∉ pieces) :
    ∃ text, write none pieces = .complete text := by
  induction pieces with
  | nil => exact ⟨"", rfl⟩
  | cons piece pieces ih =>
    rw [List.mem_cons, not_or] at h
    obtain ⟨text, rest⟩ := ih h.2
    cases piece with
    | text first => exact ⟨first ++ text, by rw [write, rest, Written.prepend]⟩
    | overflow => exact absurd rfl h.1

/-- A number that cannot be written stops the writing. -/
theorem exists_write_eq_overflow (h : .overflow ∈ pieces) :
    ∃ text, write none pieces = .overflow text := by
  induction pieces with
  | nil => exact absurd h List.not_mem_nil
  | cons piece pieces ih =>
    cases piece with
    | overflow => exact ⟨"", rfl⟩
    | text first =>
      obtain ⟨text, rest⟩ := ih (by simpa using h)
      exact ⟨first ++ text, by rw [write, rest, Written.prepend]⟩

/-- Everything is written exactly if the first piece is a text and everything behind it is
written. -/
theorem write_cons_eq_complete_iff {piece : Piece} :
    write none (piece :: pieces) = .complete whole ↔
      ∃ first rest, piece = .text first ∧ write none pieces = .complete rest ∧
        whole = first ++ rest := by
  cases piece with
  | overflow => simp [write]
  | text first =>
    rw [write]
    cases write none pieces <;> simp [Written.prepend, eq_comm]

/-- Where there is enough room, something that is written leaves enough. -/
theorem write_append_of_complete (h : write none pieces = .complete text) :
    write none (pieces ++ rest) = (write none rest).prepend text := by
  rw [write_append, h]
  rfl

/-- One part behind another is written exactly if both are. -/
theorem write_append_eq_complete_iff :
    write none (pieces ++ rest) = .complete whole ↔
      ∃ first last, write none pieces = .complete first ∧ write none rest = .complete last ∧
        whole = first ++ last := by
  constructor
  · intro h
    have sound : .overflow ∉ pieces := fun overflow => by
      obtain ⟨text, stopped⟩ := exists_write_eq_overflow (List.mem_append_left rest overflow)
      exact absurd (h.symm.trans stopped) nofun
    obtain ⟨first, written⟩ := exists_write_eq_complete sound
    rw [write_append_of_complete written] at h
    cases behind : write none rest with
    | complete last =>
      rw [behind, Written.prepend, Written.complete.injEq] at h
      exact ⟨first, last, written, rfl, h.symm⟩
    | full last => simp [behind, Written.prepend] at h
    | overflow last => simp [behind, Written.prepend] at h
  · rintro ⟨first, last, written, behind, rfl⟩
    rw [write_append_of_complete written, behind, Written.prepend]

/-- **What is written one after the other** is the one text after the other. -/
theorem write_flatMap {α : Type} {f : α → List Piece} {list : List α} {texts : List String}
    (h : List.Forall₂ (fun a text => write none (f a) = .complete text) list texts) :
    write none (list.flatMap f) = .complete (String.join texts) := by
  induction h with
  | nil => rfl
  | cons first _ ih =>
    rw [List.flatMap_cons, write_append_of_complete first, ih, Written.prepend, String.join_cons]

/-! ### Too little room -/

/-- What fits is a beginning. -/
theorem isPrefix_fitting (room : Nat) (chars : List Char) : fitting room chars <+: chars := by
  induction chars generalizing room with
  | nil => exact List.nil_prefix
  | cons c chars ih =>
    rw [fitting]
    split
    · exact List.cons_prefix_cons.mpr ⟨rfl, ih _⟩
    · exact List.nil_prefix

/-- What fits takes up no more than there is room for. -/
theorem utf8ByteSize_fitting_le (room : Nat) (chars : List Char) :
    (String.ofList (fitting room chars)).utf8ByteSize ≤ room := by
  induction chars generalizing room with
  | nil => exact Nat.zero_le room
  | cons c chars ih =>
    rw [fitting]
    split
    · have rest := ih (room - c.utf8Size)
      rw [String.ofList_cons, String.utf8ByteSize_append, String.utf8ByteSize_singleton]
      omega
    · exact Nat.zero_le room

/-- `WrittenUpTo whole room written` says that `written` is what comes of writing `whole`: all of
it, or as much of its beginning as there is room for. -/
inductive WrittenUpTo (whole : String) : Option Nat → Written → Prop
  /-- There is room for all of it. -/
  | complete {room : Option Nat} (fits : ∀ bytes ∈ room, whole.utf8ByteSize ≤ bytes) :
    WrittenUpTo whole room (.complete whole)
  /-- There is too little room. -/
  | full {bytes : Nat} {text : String} (short : bytes < whole.utf8ByteSize)
    (start : text.toList <+: whole.toList) (fits : text.utf8ByteSize ≤ bytes) :
    WrittenUpTo whole (some bytes) (.full text)

/-- A text that there is room for is written before whatever is written behind it. -/
theorem WrittenUpTo.prepend {bytes : Nat} {written : Written} (fits : text.utf8ByteSize ≤ bytes)
    (h : WrittenUpTo whole (some (bytes - text.utf8ByteSize)) written) :
    WrittenUpTo (text ++ whole) (some bytes) (written.prepend text) := by
  have size : (text ++ whole).utf8ByteSize = text.utf8ByteSize + whole.utf8ByteSize :=
    String.utf8ByteSize_append
  cases h with
  | complete rest =>
    have rest := rest _ rfl
    refine .complete fun bytes' same => ?_
    obtain rfl := Option.some.inj same
    omega
  | @full _ start short isStart within =>
    refine .full (by omega) ?_ ?_
    · rw [String.toList_append, String.toList_append]
      exact (List.prefix_append_right_inj _).mpr isStart
    · rw [String.utf8ByteSize_append]
      omega

/-- **What is written where there may be too little room** is a beginning of what is written where
there is enough. -/
theorem writtenUpTo_write (h : write none pieces = .complete whole) (room : Option Nat) :
    WrittenUpTo whole room (write room pieces) := by
  cases room with
  | none => exact h ▸ .complete (by simp)
  | some bytes =>
    induction pieces generalizing whole bytes with
    | nil =>
      obtain rfl : "" = whole := by simpa [write] using h
      exact .complete fun _ _ => Nat.zero_le _
    | cons piece pieces ih =>
      obtain ⟨first, rest, rfl, written, rfl⟩ := write_cons_eq_complete_iff.mp h
      rw [write]
      split
      · exact (ih written _).prepend ‹_›
      · have short : bytes < (first ++ rest).utf8ByteSize := by
          rw [String.utf8ByteSize_append]
          omega
        refine .full short ?_ (utf8ByteSize_fitting_le bytes first.toList)
        rw [String.toList_ofList, String.toList_append]
        exact (isPrefix_fitting bytes first.toList).trans (List.prefix_append _ _)

end Descent.Report
