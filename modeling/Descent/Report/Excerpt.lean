import Descent.Report.Source
import Descent.Text.Typography

/-!
# Excerpts

The line of a source that a diagnostic is about, and which part of it to underline.  An underline
is measured in columns of a terminal, while spans count characters; so what is before the span and
what is in it are measured one by one, in some `Text.Typography`.
-/

namespace Descent.Report

/-- A line of a source with an underline. -/
structure Excerpt where
  /-- The number of the line, counted from one. -/
  number : Nat
  /-- The line. -/
  text : String
  /-- The columns before the underline. -/
  pad : Nat
  /-- The columns of the underline, at least one. -/
  length : Nat
deriving DecidableEq, Repr

namespace Excerpt

variable [Text.Typography]

/-- The characters of a line before a column. -/
def before (line : String) (column : Nat) : List Char := line.toList.take column

/-- The characters of a line from the start of a span to its end. -/
def selected (line : String) (span : Span) : List Char :=
  (line.toList.drop span.start.column).take (span.stop.column - span.start.column)

/-- The columns that a span takes up on the line where it starts.  A span over several lines is
shown by its start alone. -/
def underlineLength (line : String) (span : Span) : Nat :=
  max 1 (if span.isSingleLine then Text.displayWidth (selected line span) else 0)

/-- The excerpt of a diagnostic: the line where its span starts, if the source is there and has
such a line. -/
def of? (sources : Sources) (diagnostic : Diagnostic) : Option Excerpt := do
  let span ← diagnostic.span
  let source ← diagnostic.source
  let text ← sources.line? source span.start.line
  return {
    number := span.start.line + 1
    text
    pad := Text.displayWidth (before text span.start.column)
    length := underlineLength text span }

/-- The columns of the line number. -/
def gutter (excerpt : Excerpt) : Nat := (Nat.repr excerpt.number).length

end Excerpt

end Descent.Report
