import Descent.Report.Excerpt
import Descent.Text.Padded
import Descent.Text.Typography

/-!
# Emitting diagnostics

What is written for a diagnostic, piece by piece, in one of two layouts.  A piece is what is put
together before any of it is written, and that is where the layouts differ beyond their looks: in
the plain layout the line with the underline is one piece, while on a terminal the level and the
gutter are coloured, so that each of them is written before what stands behind it is looked at.

## Numbers that cannot be written

There are two of them: a line or column beyond the last one that is counted, and padding beyond
`maxPadding` columns.  Writing stops there.  What comes before is written first, so when there is
too little room for it, the lack of room is what stops the writing.

## Colours and columns

A terminal is asked for its columns, and lines are wrapped for `Layout.defaultWidth` of them if the
answer is missing or below `Layout.minWidth`.  Colours are left out.  Both come to the same where
output does not go to a terminal: it has no columns, and nothing is coloured.
-/

namespace Descent.Report

/-- A thing to write. -/
inductive Piece where
  /-- A text. -/
  | text (text : String)
  /-- A number that cannot be written. -/
  | overflow
deriving DecidableEq, Repr

/-- How diagnostics are laid out. -/
inductive Layout where
  /-- Lines as they are, in ASCII. -/
  | plain
  /-- Lines wrapped at some width, with line art. -/
  | wrapped (width : Nat)
deriving DecidableEq, Repr

/-- The most columns that are padded. -/
def maxPadding : Nat := 65535

/-- The text of a diagnostic with the name of its source and its place before it, if the place
can be shown. -/
def headline? (sources : Sources) (diagnostic : Diagnostic) : Option String := do
  let name := diagnostic.source.bind sources.name?
  let place ←
    match diagnostic.location with
    | none => some []
    | some caret => caret.render?.map fun place => [place]
  match name.toList ++ place with
  | [] => return diagnostic.text
  | origin => return ":".intercalate origin ++ " - " ++ diagnostic.text

/-- The line of a note. -/
def noteLine (note : String) : String := s!"  note: {note}\n"

/-- Some columns without anything in them, unless they are too many. -/
def padding (columns : Nat) : Piece :=
  if maxPadding < columns then .overflow else .text (Text.spaces columns)

/-- Lines, all but the first of them indented. -/
def hangingLines (indent : Nat) : List (List Char) → String
  | [] => ""
  | line :: lines =>
    String.ofList line ++ "\n" ++
      String.join (lines.map fun line => Text.spaces indent ++ String.ofList line ++ "\n")

namespace Layout

variable [Text.Typography]

/-- The bar behind the gutter of an excerpt. -/
def bar : Layout → String
  | .plain => " | "
  | .wrapped _ => " │ "

/-- The fewest columns of a terminal that lines are wrapped for. -/
def minWidth : Nat := 40

/-- The columns that lines are wrapped for if a terminal has too few, or it is not known how
many. -/
def defaultWidth : Nat := 80

/-- The layout for a terminal, by its columns if they are known. -/
def ofColumns (columns : Option Nat) : Layout :=
  .wrapped ((columns.filter (minWidth ≤ ·)).getD defaultWidth)

/-- The layout for a terminal of which nothing is known. -/
def terminal : Layout := ofColumns none

/-- What stands between the level and the headline of a diagnostic. -/
def mark : String := ": "

/-- What is written before the headline of a diagnostic is looked at. -/
def levelText (layout : Layout) (level : Level) : String :=
  match layout with
  | .plain => level.name
  | .wrapped _ => level.name ++ mark

/-- The lines of a headline, behind its level. -/
def headlineText (layout : Layout) (level : Level) (headline : String) : String :=
  match layout with
  | .plain => mark ++ headline ++ "\n"
  | .wrapped width =>
    let indent := level.name.length + mark.length
    hangingLines indent (Text.wrapped (max (width - indent) (minWidth / 2)) headline.toList)

/-- The spaces and carets below an excerpt, behind a gutter and a bar. -/
def underline (layout : Layout) (excerpt : Excerpt) : List Piece :=
  let gutter := Text.spaces excerpt.gutter ++ layout.bar
  let carets := String.ofList (List.replicate excerpt.length '^') ++ "\n"
  match layout with
  | .plain =>
    if maxPadding < excerpt.pad then [.overflow]
    else [.text (gutter ++ Text.spaces excerpt.pad ++ carets)]
  | .wrapped _ => [.text gutter, padding excerpt.pad, .text carets]

/-- The two lines of an excerpt, with a bar behind the gutter. -/
def excerptPieces (layout : Layout) : Option Excerpt → List Piece
  | none => []
  | some excerpt =>
    .text s!"{excerpt.number}{layout.bar}{excerpt.text}\n" :: layout.underline excerpt

/-- What is written for a diagnostic. -/
def pieces (layout : Layout) (sources : Sources) (diagnostic : Diagnostic) : List Piece :=
  let headline :=
    match headline? sources diagnostic with
    | none => .overflow
    | some headline => .text (layout.headlineText diagnostic.level headline)
  .text (layout.levelText diagnostic.level) :: headline ::
    (layout.excerptPieces (Excerpt.of? sources diagnostic) ++
      diagnostic.notes.map fun note => .text (noteLine note))

end Layout

/-! ### Writing -/

/-- What comes of writing pieces. -/
inductive Written where
  /-- All of them were written. -/
  | complete (text : String)
  /-- There was no more room after some text. -/
  | full (text : String)
  /-- A number could not be written after some text. -/
  | overflow (text : String)
deriving DecidableEq, Repr

/-- The characters at the start of a text that take up at most `room` bytes. -/
def fitting (room : Nat) : List Char → List Char
  | [] => []
  | c :: rest => if c.utf8Size ≤ room then c :: fitting (room - c.utf8Size) rest else []

/-- Puts a text before what was written. -/
def Written.prepend (text : String) : Written → Written
  | .complete rest => .complete (text ++ rest)
  | .full rest => .full (text ++ rest)
  | .overflow rest => .overflow (text ++ rest)

@[simp] theorem Written.prepend_empty (written : Written) : written.prepend "" = written := by
  cases written <;> simp [prepend]

@[simp] theorem Written.prepend_prepend (first second : String) (written : Written) :
    (written.prepend second).prepend first = written.prepend (first ++ second) := by
  cases written <;> simp [prepend, String.append_assoc]

/-- Writes pieces where there is room for some number of bytes, or for all. -/
def write (room : Option Nat) : List Piece → Written
  | [] => .complete ""
  | .overflow :: _ => .overflow ""
  | .text text :: pieces =>
    match room with
    | none => (write none pieces).prepend text
    | some room =>
      if text.utf8ByteSize ≤ room then
        (write (some (room - text.utf8ByteSize)) pieces).prepend text
      else .full (String.ofList (fitting room text.toList))

/-- **What comes behind something that is written** finds the room that is left. -/
theorem write_append (room : Option Nat) (pieces rest : List Piece) :
    write room (pieces ++ rest) =
      match write room pieces with
      | .complete text => (write (room.map (· - text.utf8ByteSize)) rest).prepend text
      | .full text => .full text
      | .overflow text => .overflow text := by
  induction pieces generalizing room with
  | nil => cases room <;> simp [write]
  | cons piece pieces ih =>
    cases piece with
    | overflow => rfl
    | text first =>
      cases room with
      | none =>
        rw [List.cons_append, write, write, ih]
        cases write none pieces with
        | complete text => exact Written.prepend_prepend first text _
        | full text => rfl
        | overflow text => rfl
      | some bytes =>
        rw [List.cons_append, write, write]
        split
        · rw [ih]
          cases write (some (bytes - first.utf8ByteSize)) pieces with
          | complete text =>
            simp only [Written.prepend, Option.map_some, String.utf8ByteSize_append, ← Nat.sub_sub]
            exact Written.prepend_prepend first text _
          | full text => rfl
          | overflow text => rfl
        · rfl

end Descent.Report
