import Mathlib.Data.List.Infix
import Descent.Proofs.Except
import Descent.Proofs.Report.Writing
import Descent.Proofs.Text.Words
import Descent.Text.Unicode

/-!
# Arithmetic in a report

Four numbers of a diagnostic are computed in 32 bits: line, column and the number of the quoted
line are counted from one, and the columns of a span are counted from its start to its end.  The
first three can be too large, the last would be below zero for a span that ends before it starts;
and the two paddings of an excerpt can be too wide.

Here each of these operations is carried out only if it has a result, in the order in which a
diagnostic is emitted, and the text comes out the same.  Two of the operations never stop it: a
span on one line does not end at a column before its start, and the number of the quoted line is
needed only after the same line was shown as part of the place.

## Lines and their beginnings

What is padded is as wide as the beginning of a line, which can be wider than the line: a picture
of two columns followed by the sign that asks for text takes up only one.  So it is not enough
that a line has few columns, as `overflow_of_narrow_line` shows.
-/

namespace Descent

/-! ### Carets and spans of 32 bits -/

/-- Line and column of a caret are numbers of 32 bits. -/
structure Caret.Bounded (caret : Caret) : Prop where
  /-- The line is not beyond the last one. -/
  line_le : caret.line ≤ last
  /-- The column is not beyond the last one. -/
  column_le : caret.column ≤ last

/-- A span is made from two carets of 32 bits, given in any order. -/
def Span.Bounded (span : Span) : Prop :=
  ∃ a b : Caret, a.Bounded ∧ b.Bounded ∧ span = between a b

theorem Span.Bounded.start {span : Span} (h : span.Bounded) : span.start.Bounded := by
  obtain ⟨a, b, ha, hb, rfl⟩ := h
  rw [start_between, Caret.earlier]
  split
  · exact ha
  · exact hb

/-- On one line, a span does not end at a column before its start. -/
theorem Span.column_le_column {span : Span} (h : span.isSingleLine) :
    span.start.column ≤ span.stop.column := by
  have order := Caret.le_iff.mp span.start_le_stop
  rw [isSingleLine, beq_iff_eq] at h
  omega

namespace Report

/-! ### Checked operations -/

/-- An operation that may have no result. -/
inductive Operation where
  /-- The line of a place, counted from one. -/
  | line
  /-- The column of a place, counted from one. -/
  | column
  /-- The columns of a span, from its start to its end. -/
  | selection
  /-- The number of a quoted line, counted from one. -/
  | number
  /-- The padding of an excerpt. -/
  | padding
deriving DecidableEq, Repr

/-- A number counted from one, if it is a number of 32 bits then. -/
def fromOne (operation : Operation) (n : Nat) : Except Operation Nat :=
  if n < Caret.last then .ok (n + 1) else .error operation

/-- How much a number is above another one, if it is not below it. -/
def difference (operation : Operation) (m n : Nat) : Except Operation Nat :=
  if n ≤ m then .ok (m - n) else .error operation

/-- A number of spaces, if so many columns can be padded. -/
def padded (columns : Nat) : Except Operation String :=
  if columns ≤ maxPadding then .ok (Text.spaces columns) else .error .padding

/-- Line and column of a caret, counted from one. -/
def checkedPlace (caret : Caret) : Except Operation String := do
  let line ← fromOne .line caret.line
  let column ← fromOne .column caret.column
  .ok s!"{line}:{column}"

/-- The text of a diagnostic with the name of its source and its place before it. -/
def headlineAt (sources : Sources) (diagnostic : Diagnostic) (place : Option String) : String :=
  match (diagnostic.source.bind sources.name?).toList ++ place.toList with
  | [] => diagnostic.text
  | origin => ":".intercalate origin ++ " - " ++ diagnostic.text

/-- The headline of a diagnostic. -/
def checkedHeadline (sources : Sources) (diagnostic : Diagnostic) : Except Operation String :=
  match diagnostic.location with
  | none => .ok (headlineAt sources diagnostic none)
  | some caret => do
    let place ← checkedPlace caret
    .ok (headlineAt sources diagnostic (some place))

variable [Text.Typography] in
/-- The columns that a span takes up on its line.  Over several lines there are none. -/
def checkedWidth (line : String) (span : Span) : Except Operation Nat :=
  if span.isSingleLine then do
    let columns ← difference .selection span.stop.column span.start.column
    .ok (Text.displayWidth ((line.toList.drop span.start.column).take columns))
  else .ok 0

variable [Text.Typography] in
/-- The excerpt of a diagnostic. -/
def checkedExcerpt (sources : Sources) (diagnostic : Diagnostic) :
    Except Operation (Option Excerpt) :=
  match diagnostic.span with
  | none => .ok none
  | some span =>
    match diagnostic.source.bind (sources.line? · span.start.line) with
    | none => .ok none
    | some text => do
      let width ← checkedWidth text span
      let number ← fromOne .number span.start.line
      let pad := Text.displayWidth (Excerpt.before text span.start.column)
      .ok (some { number, text, pad, length := max 1 width })

/-- The two lines of an excerpt. -/
def checkedLines (layout : Layout) : Option Excerpt → Except Operation String
  | none => .ok ""
  | some excerpt => do
    let gutter ← padded excerpt.gutter
    let pad ← padded excerpt.pad
    .ok (s!"{excerpt.number}{layout.bar}{excerpt.text}\n" ++
      (gutter ++ layout.bar ++ pad ++ String.ofList (List.replicate excerpt.length '^') ++ "\n"))

variable [Text.Typography] in
/-- What is written for a diagnostic, with every operation checked. -/
def checkedText (layout : Layout) (sources : Sources) (diagnostic : Diagnostic) :
    Except Operation String := do
  let headline ← checkedHeadline sources diagnostic
  let excerpt ← checkedExcerpt sources diagnostic
  let lines ← checkedLines layout excerpt
  .ok (layout.levelText diagnostic.level ++ (layout.headlineText diagnostic.level headline ++
    (lines ++ String.join (diagnostic.notes.map noteLine))))

variable {sources : Sources} {diagnostic : Diagnostic} {operation failed : Operation}
  {caret : Caret} {span : Span} {excerpt : Excerpt} {text : String} {n m : Nat}

/-! ### When an operation has a result -/

theorem fromOne_eq_ok_iff : fromOne operation n = .ok m ↔ n < Caret.last ∧ n + 1 = m := by
  rw [fromOne]
  split <;> simp [*]

theorem fromOne_eq_error_iff :
    fromOne operation n = .error failed ↔ Caret.last ≤ n ∧ failed = operation := by
  rw [fromOne, ← Nat.not_lt]
  split <;> simp [*, eq_comm]

/-! ### The headline -/

/-- A place is shown if both of its numbers can be counted from one. -/
theorem checkedPlace_eq_ok_iff : checkedPlace caret = .ok text ↔ caret.render? = some text := by
  simp only [checkedPlace, Except.bind_eq_ok_iff, fromOne_eq_ok_iff, Caret.render?,
    Option.ite_none_right_eq_some, Except.ok.injEq, Option.some.injEq]
  constructor
  · rintro ⟨_, ⟨line, rfl⟩, _, ⟨column, rfl⟩, shown⟩
    exact ⟨⟨line, column⟩, shown⟩
  · rintro ⟨⟨line, column⟩, shown⟩
    exact ⟨_, ⟨line, rfl⟩, _, ⟨column, rfl⟩, shown⟩

/-- The line of a place is counted before its column. -/
theorem checkedPlace_eq_error_iff :
    checkedPlace caret = .error failed ↔
      Caret.last ≤ caret.line ∧ failed = .line ∨
        caret.line < Caret.last ∧ Caret.last ≤ caret.column ∧ failed = .column := by
  simp [checkedPlace, Except.bind_eq_error_iff, fromOne_eq_ok_iff, fromOne_eq_error_iff]

/-- A headline is what is put before the text if the place can be shown. -/
theorem headline?_eq (sources : Sources) (diagnostic : Diagnostic) :
    headline? sources diagnostic =
      match diagnostic.location with
      | none => some (headlineAt sources diagnostic none)
      | some caret =>
        caret.render?.map fun place => headlineAt sources diagnostic (some place) := by
  unfold headline? headlineAt
  cases diagnostic.location with
  | none =>
    dsimp only
    cases diagnostic.source.bind sources.name? <;> rfl
  | some caret =>
    dsimp only
    cases caret.render? <;> cases diagnostic.source.bind sources.name? <;> rfl

/-- A headline is shown if its place is. -/
theorem checkedHeadline_eq_ok_iff :
    checkedHeadline sources diagnostic = .ok text ↔ headline? sources diagnostic = some text := by
  rw [headline?_eq, checkedHeadline]
  cases diagnostic.location with
  | none => simp
  | some caret => simp [Except.bind_eq_ok_iff, checkedPlace_eq_ok_iff]

/-- Nothing but its place keeps a headline from being shown. -/
theorem checkedHeadline_eq_error_iff :
    checkedHeadline sources diagnostic = .error failed ↔
      ∃ caret ∈ diagnostic.location, checkedPlace caret = .error failed := by
  rw [checkedHeadline]
  cases diagnostic.location with
  | none => simp
  | some caret => simp [Except.bind_eq_error_iff]

/-- Where a headline is shown, its place can be counted from one. -/
theorem counted_of_headline? {headline : String}
    (h : headline? sources diagnostic = some headline) :
    ∀ caret ∈ diagnostic.location, caret.line < Caret.last ∧ caret.column < Caret.last :=
  not_not.mp fun edge => by
    rw [(headline?_eq_none_iff sources diagnostic).mpr edge] at h
    cases h

/-! ### The lines -/

/-- The number of a line that is counted has few digits. -/
theorem gutter_le (h : excerpt.number ≤ Caret.last) : excerpt.gutter ≤ maxPadding := by
  have digits : (Nat.repr excerpt.number).length ≤ 10 := by
    rw [Nat.length_repr_le_iff (by decide)]
    exact Nat.lt_of_le_of_lt h (by decide)
  exact Nat.le_trans digits (by decide)

/-- The two lines of an excerpt are what is written for it, if they can be padded. -/
theorem checkedLines_eq {layout : Layout} {excerpt : Option Excerpt}
    (counted : ∀ e ∈ excerpt, e.number ≤ Caret.last) :
    checkedLines layout excerpt =
      match write none (layout.excerptPieces excerpt) with
      | .complete text => .ok text
      | _ => .error .padding := by
  cases excerpt with
  | none => rfl
  | some excerpt =>
    rw [checkedLines, padded, if_pos (gutter_le (counted _ rfl)), Layout.excerptPieces]
    by_cases pad : excerpt.pad ≤ maxPadding
    · rw [padded, if_pos pad]
      cases layout with
      | plain =>
        rw [Layout.underline, if_neg (Nat.not_lt.mpr pad)]
        simp [write, Written.prepend, bind, Except.bind, String.append_assoc]
      | wrapped width =>
        rw [Layout.underline, padding, if_neg (Nat.not_lt.mpr pad)]
        simp [write, Written.prepend, bind, Except.bind, String.append_assoc]
    · rw [padded, if_neg pad]
      cases layout with
      | plain =>
        rw [Layout.underline, if_pos (Nat.not_le.mp pad)]
        rfl
      | wrapped width =>
        rw [Layout.underline, padding, if_pos (Nat.not_le.mp pad)]
        rfl

/-- The text that is written for the notes. -/
theorem write_notes (notes : List String) :
    write none (notes.map fun note => .text (noteLine note)) =
      .complete (String.join (notes.map noteLine)) := by
  rw [List.map_eq_flatMap]
  refine write_flatMap (List.forall₂_map_right_iff.mpr (List.forall₂_same.mpr fun note _ => ?_))
  simp [write, Written.prepend]

/-- What is quoted is a line of a source. -/
theorem exists_of_line? {source : SourceId} (h : sources.line? source n = some text) :
    ∃ source ∈ sources, text.toList ∈ Text.lines source.text.toList := by
  simp only [Sources.line?, Sources.text?, Option.bind_eq_bind, Option.bind_eq_some_iff,
    Option.map_eq_some_iff] at h
  obtain ⟨_, ⟨origin, stored, rfl⟩, line, found, made⟩ := h
  obtain rfl := Option.some.inj made
  rw [String.toList_ofList]
  exact ⟨origin, Array.mem_of_getElem? stored, List.mem_of_getElem? found⟩

section Excerpt

variable [Text.Typography]

/-! ### The excerpt -/

/-- The columns of a span are not below zero. -/
theorem checkedWidth_eq (line : String) (span : Span) :
    checkedWidth line span =
      .ok (if span.isSingleLine then Text.displayWidth (Excerpt.selected line span) else 0) := by
  rw [checkedWidth]
  split
  · rw [difference, if_pos (Span.column_le_column ‹_›)]
    rfl
  · rfl

/-- Only its number keeps an excerpt from being made, if it cannot be counted. -/
theorem checkedExcerpt_eq (sources : Sources) (diagnostic : Diagnostic) :
    checkedExcerpt sources diagnostic =
      match Excerpt.of? sources diagnostic with
      | none => .ok none
      | some excerpt =>
        if excerpt.number ≤ Caret.last then .ok (some excerpt) else .error .number := by
  unfold checkedExcerpt Excerpt.of?
  cases diagnostic.span with
  | none => rfl
  | some span =>
    cases diagnostic.source with
    | none => rfl
    | some source =>
      dsimp only [Option.bind_eq_bind, Option.bind_some]
      cases sources.line? source span.start.line with
      | none => rfl
      | some text =>
        dsimp only [Option.bind_some]
        rw [checkedWidth_eq]
        show (fromOne .number span.start.line >>= _) = _
        rw [fromOne]
        split
        · exact (if_pos (Nat.succ_le_of_lt ‹_›)).symm
        · exact (if_neg (Nat.not_le.mpr (Nat.lt_succ_of_le (Nat.not_lt.mp ‹_›)))).symm

/-- **The columns of a span are never below zero.** -/
theorem checkedExcerpt_ne_selection (sources : Sources) (diagnostic : Diagnostic) :
    checkedExcerpt sources diagnostic ≠ .error .selection := by
  rw [checkedExcerpt_eq]
  split
  · nofun
  · split <;> nofun

/-- An excerpt is made of the line where the span starts. -/
theorem exists_of_mem_of? (h : excerpt ∈ Excerpt.of? sources diagnostic) :
    ∃ span ∈ diagnostic.span, excerpt.number = span.start.line + 1 ∧
      ∃ source, sources.line? source span.start.line = some excerpt.text ∧
        excerpt.pad = Text.displayWidth (Excerpt.before excerpt.text span.start.column) := by
  simp only [Excerpt.of?, Option.bind_eq_bind, Option.mem_def, Option.bind_eq_some_iff] at h
  obtain ⟨span, placed, source, -, text, line, made⟩ := h
  obtain rfl := Option.some.inj made
  exact ⟨span, placed, rfl, source, line, rfl⟩

/-! ### The text -/

/-- A line can be counted from one if it is shown as part of a place. -/
theorem number_le_of_headline? {headline : String}
    (h : headline? sources diagnostic = some headline) :
    ∀ excerpt ∈ Excerpt.of? sources diagnostic, excerpt.number ≤ Caret.last := by
  intro excerpt made
  obtain ⟨span, placed, number, -⟩ := exists_of_mem_of? made
  rw [number]
  exact (counted_of_headline? h span.start (Option.mem_map_of_mem _ placed)).1

/-- An excerpt whose number can be counted is made. -/
theorem checkedExcerpt_of_number_le
    (counted : ∀ excerpt ∈ Excerpt.of? sources diagnostic, excerpt.number ≤ Caret.last) :
    checkedExcerpt sources diagnostic = .ok (Excerpt.of? sources diagnostic) := by
  rw [checkedExcerpt_eq]
  cases made : Excerpt.of? sources diagnostic with
  | none => rfl
  | some excerpt => exact if_pos (counted excerpt made)

/-- **What is written is what comes of checked operations.** -/
theorem checkedText_eq_ok_iff {layout : Layout} :
    checkedText layout sources diagnostic = .ok text ↔
      write none (layout.pieces sources diagnostic) = .complete text := by
  simp only [checkedText, Except.bind_eq_ok_iff, checkedHeadline_eq_ok_iff, Layout.pieces,
    write_cons_eq_complete_iff, write_append_eq_complete_iff, write_notes]
  cases shown : headline? sources diagnostic with
  | none => simp
  | some headline =>
    have counted := number_le_of_headline? shown
    simp only [checkedExcerpt_of_number_le counted, Except.ok.injEq, exists_eq_left',
      checkedLines_eq counted]
    cases written : write none (layout.excerptPieces (Excerpt.of? sources diagnostic)) <;>
      simp [eq_comm]

/-! ### What stops the writing -/

/-- `sources.Narrow` says that the beginnings of all lines can be padded. -/
def Sources.Narrow (sources : Sources) : Prop :=
  ∀ source ∈ sources, ∀ line ∈ Text.lines source.text.toList, ∀ start ∈ line.inits,
    Text.displayWidth start ≤ maxPadding

/-- Among narrow lines every excerpt can be padded. -/
theorem Sources.Narrow.pad_le (h : sources.Narrow) :
    ∀ excerpt ∈ Excerpt.of? sources diagnostic, excerpt.pad ≤ maxPadding := by
  intro excerpt made
  obtain ⟨span, -, -, source, line, pad⟩ := exists_of_mem_of? made
  obtain ⟨source, stored, mem⟩ := exists_of_line? line
  rw [pad]
  exact h source stored _ mem _ ((List.mem_inits _ _).mpr (List.take_prefix _ _))

/-- Lines that are printed in ASCII are as narrow as they are long, and so are their beginnings. -/
theorem Sources.narrow_of_printed
    (h : ∀ source ∈ sources, ∀ line ∈ Text.lines source.text.toList,
      line.all Text.isPrinted ∧ Text.displayWidth line ≤ maxPadding) :
    sources.Narrow := by
  intro source stored line mem start initial
  have isPrefix := (List.mem_inits _ _).mp initial
  obtain ⟨printed, narrow⟩ := h source stored line mem
  rw [List.all_eq_true] at printed
  rw [Text.displayWidth_of_printed printed] at narrow
  rw [Text.displayWidth_of_printed fun c mem => printed c (isPrefix.mem mem)]
  exact isPrefix.length_le.trans narrow

/-- The writing stops exactly where an operation has no result. -/
theorem exists_overflow_iff {layout : Layout} :
    (∃ text, write none (layout.pieces sources diagnostic) = .overflow text) ↔
      ∃ operation, checkedText layout sources diagnostic = .error operation := by
  cases checked : checkedText layout sources diagnostic with
  | ok text =>
    rw [checkedText_eq_ok_iff.mp checked]
    exact iff_of_false nofun nofun
  | error operation =>
    refine iff_of_true (exists_write_eq_overflow ?_) ⟨operation, rfl⟩
    by_contra absent
    obtain ⟨text, written⟩ := exists_write_eq_complete absent
    rw [checkedText_eq_ok_iff.mpr written] at checked
    cases checked

/-- Where the excerpt can be padded, only a place that cannot be shown stops the writing. -/
theorem checkedText_eq_error_iff {layout : Layout}
    (narrow : ∀ excerpt ∈ Excerpt.of? sources diagnostic, excerpt.pad ≤ maxPadding) :
    checkedText layout sources diagnostic = .error failed ↔
      ∃ caret ∈ diagnostic.location, checkedPlace caret = .error failed := by
  rw [← checkedHeadline_eq_error_iff]
  cases checked : checkedHeadline sources diagnostic with
  | error operation =>
    rw [checkedText, checked]
    exact Iff.rfl
  | ok headline =>
    have showable : diagnostic.Showable sources :=
      ⟨counted_of_headline? (checkedHeadline_eq_ok_iff.mp checked), narrow⟩
    obtain ⟨text, written⟩ := exists_write_eq_complete fun overflow =>
      (overflow_mem_pieces_iff layout sources diagnostic).mp overflow showable
    rw [checkedText_eq_ok_iff.mpr written]
    exact iff_of_false nofun nofun

/-- **A diagnostic is written, unless its place cannot be counted from one.**  Whatever a diagnostic
says and whatever it is about, if the quoted line can be padded up to the start of its span then the
writing stops exactly if the span starts on the last line or in the last column that are counted.
What is written is what comes of checked operations, of which only those on the place can be without
result: the line before the column, and neither the columns of the span nor the number of the quoted
line. -/
theorem stopped_exact (sources : Sources) (diagnostic : Diagnostic)
    (narrow : ∀ excerpt ∈ Excerpt.of? sources diagnostic, excerpt.pad ≤ maxPadding)
    (bounded : ∀ span ∈ diagnostic.span, span.Bounded) :
    ((∃ text, write none (Layout.plain.pieces sources diagnostic) = .overflow text) ↔
        ∃ span ∈ diagnostic.span,
          span.start.line = Caret.last ∨ span.start.column = Caret.last) ∧
      (∀ text, checkedText .plain sources diagnostic = .ok text ↔
        write none (Layout.plain.pieces sources diagnostic) = .complete text) ∧
      (∀ operation, checkedText .plain sources diagnostic = .error operation ↔
        ∃ span ∈ diagnostic.span,
          span.start.line = Caret.last ∧ operation = .line ∨
            span.start.line < Caret.last ∧ span.start.column = Caret.last ∧
              operation = .column) ∧
      checkedExcerpt sources diagnostic ≠ .error .selection := by
  have stops (operation : Operation) : checkedText .plain sources diagnostic = .error operation ↔
      ∃ span ∈ diagnostic.span,
        span.start.line = Caret.last ∧ operation = .line ∨
          span.start.line < Caret.last ∧ span.start.column = Caret.last ∧ operation = .column := by
    rw [checkedText_eq_error_iff narrow, Diagnostic.location]
    cases placed : diagnostic.span with
    | none => simp
    | some span =>
      obtain ⟨line, column⟩ := (bounded span placed).start
      simp [checkedPlace_eq_error_iff, line.ge_iff_eq, column.ge_iff_eq]
  refine ⟨?_, fun text => checkedText_eq_ok_iff, stops, checkedExcerpt_ne_selection _ _⟩
  rw [exists_overflow_iff]
  constructor
  · rintro ⟨operation, stopped⟩
    obtain ⟨span, placed, ⟨line, -⟩ | ⟨-, column, -⟩⟩ := (stops operation).mp stopped
    · exact ⟨span, placed, .inl line⟩
    · exact ⟨span, placed, .inr column⟩
  · rintro ⟨span, placed, edge⟩
    by_cases line : span.start.line = Caret.last
    · exact ⟨.line, (stops .line).mpr ⟨span, placed, .inl ⟨line, rfl⟩⟩⟩
    · have before := lt_of_le_of_ne (bounded span placed).start.line_le line
      have column := edge.resolve_left line
      exact ⟨.column, (stops .column).mpr ⟨span, placed, .inr ⟨before, column, rfl⟩⟩⟩

end Excerpt

/-- A span that ends in the last column that is counted, with its ends in the other order. -/
theorem stopped_exact_reversed :
    let sources : Sources := #[⟨.argument, "let x = $;\n"⟩]
    let diagnostic : Diagnostic :=
      { text := "unknown lexeme", source := some 0, notes := ["not in the vocabulary"],
        span := some (Span.between ⟨0, Caret.last⟩ ⟨0, 8⟩) }
    (∀ excerpt ∈ Excerpt.of? sources diagnostic, excerpt.pad ≤ maxPadding) ∧
      (∀ span ∈ diagnostic.span, span.Bounded) ∧
      ((∃ text, write none (Layout.plain.pieces sources diagnostic) = .overflow text) ↔
          ∃ span ∈ diagnostic.span,
            span.start.line = Caret.last ∨ span.start.column = Caret.last) ∧
        (∀ text, checkedText .plain sources diagnostic = .ok text ↔
          write none (Layout.plain.pieces sources diagnostic) = .complete text) ∧
        (∀ operation, checkedText .plain sources diagnostic = .error operation ↔
          ∃ span ∈ diagnostic.span,
            span.start.line = Caret.last ∧ operation = .line ∨
              span.start.line < Caret.last ∧ span.start.column = Caret.last ∧
                operation = .column) ∧
        checkedExcerpt sources diagnostic ≠ .error .selection := by
  intro sources diagnostic
  have printed : sources.Narrow := Sources.narrow_of_printed (by decide +kernel)
  have bounded : ∀ span ∈ diagnostic.span, span.Bounded := by
    rintro _ ⟨⟩
    exact ⟨_, _, ⟨by decide, by decide⟩, ⟨by decide, by decide⟩, rfl⟩
  exact ⟨printed.pad_le, bounded, stopped_exact sources diagnostic printed.pad_le bounded⟩

/-! ### A line that is narrower than its beginning -/

/-- A picture takes up two columns. -/
theorem displayWidth_picture (columns : Nat) :
    Text.displayWidth (List.replicate columns 'a' ++ ['\u270B']) = columns + 2 := by
  have behind : ['\u270B'].foldr Text.widthStep (0, .plain) =
      (((2 : Nat) : Int), { follower := .picture }) := by
    decide +kernel
  show Text.unicodeWidth _ = _
  rw [Text.unicodeWidth_append_of_printed (fun _ => Text.isPrinted_of_mem_replicate) behind rfl,
    List.length_replicate]

/-- With the sign behind it that asks for text, it takes up one. -/
theorem displayWidth_picture_sign (columns : Nat) :
    Text.displayWidth (List.replicate columns 'a' ++ ['\u270B', '\uFE0E']) = columns + 1 := by
  have behind : ['\u270B', '\uFE0E'].foldr Text.widthStep (0, .plain) =
      (((1 : Nat) : Int), .plain) := by
    decide +kernel
  show Text.unicodeWidth _ = _
  rw [Text.unicodeWidth_append_of_printed (fun _ => Text.isPrinted_of_mem_replicate) behind rfl,
    List.length_replicate]

/-- A line with such a picture at its end is the only one of its text. -/
theorem lines_picture_sign (columns : Nat) :
    Text.lines (List.replicate columns 'a' ++ ['\u270B', '\uFE0E'] ++ ['\n']) =
      [List.replicate columns 'a' ++ ['\u270B', '\uFE0E']] := by
  refine Text.lines_append (fun c mem => ?_) []
  rcases List.mem_append.mp mem with letter | sign
  · rw [List.eq_of_mem_replicate letter]
    decide
  · rw [List.mem_pair] at sign
    obtain rfl | rfl := sign
    · decide
    · decide

/-- What is in front of the sign is wider than the line. -/
theorem not_showable_of_picture {columns : Nat} (wide : maxPadding < columns + 2) (text : String) :
    ¬ Diagnostic.Showable
      #[⟨.argument, String.ofList (List.replicate columns 'a' ++ ['\u270B', '\uFE0E'] ++ ['\n'])⟩]
      { text, source := some 0, span := some (Span.point ⟨0, columns + 1⟩) } := by
  have before : (List.replicate columns 'a' ++ ['\u270B', '\uFE0E']).take (columns + 1) =
      List.replicate columns 'a' ++ ['\u270B'] := by
    rw [← List.singleton_append, ← List.append_assoc]
    exact List.take_left' (by rw [List.length_append, List.length_replicate]; rfl)
  refine Diagnostic.not_showable_of_wide
    (by rw [String.toList_ofList]; exact lines_picture_sign columns) ?_ text
  rw [before, displayWidth_picture]
  exact wide

/-- **A narrow line can stop the writing**: it takes up no more columns than can be padded, but its
beginning takes up one more than that. -/
theorem overflow_of_narrow_line :
    let line := List.replicate 65534 'a' ++ ['\u270B', '\uFE0E']
    let sources : Sources := #[⟨.argument, String.ofList (line ++ ['\n'])⟩]
    let diagnostic : Diagnostic :=
      { text := "x", source := some 0, span := some (Span.point ⟨0, 65535⟩) }
    (∀ source ∈ sources, ∀ line ∈ Text.lines source.text.toList,
        Text.displayWidth line < 65536) ∧
      (∀ span ∈ diagnostic.span, span.Bounded) ∧
      (∃ text, write none (Layout.plain.pieces sources diagnostic) = .overflow text) ∧
      ¬ ∃ span ∈ diagnostic.span,
        span.start.line = Caret.last ∨ span.start.column = Caret.last := by
  intro line sources diagnostic
  have wide : maxPadding < 65534 + 2 := by decide
  refine ⟨?_, ?_, ?_, ?_⟩
  · intro source stored line' mem
    obtain rfl : source = _ := Array.mem_singleton.mp stored
    rw [String.toList_ofList, lines_picture_sign, List.mem_singleton] at mem
    rw [mem, displayWidth_picture_sign]
    decide
  · rintro _ ⟨⟩
    exact ⟨_, _, ⟨by decide, by decide⟩, ⟨by decide, by decide⟩, (dif_pos (Caret.le_refl _)).symm⟩
  · exact exists_write_eq_overflow <|
      (overflow_mem_pieces_iff .plain sources diagnostic).mpr (not_showable_of_picture wide "x")
  · decide

end Report

end Descent
