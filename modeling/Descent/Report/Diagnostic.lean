import Descent.Span

/-!
# Diagnostics

A diagnostic is a message to the reader of a report: how grave it is, what it says, and what it is
about.  All but the text can be left out.  A source without a span names the text that is meant,
and a span without a source is a place in a text that has no name yet; the two are given one by
one, since a flaw in a text is found by someone who does not know which text it is.
-/

namespace Descent.Report

/-- How grave a diagnostic is. -/
inductive Level where
  /-- Something that cannot be used. -/
  | error
  /-- Something that can be used, but is likely not what was meant. -/
  | warning
  /-- Something to know. -/
  | note
deriving DecidableEq, Repr, Inhabited

/-- The word that stands for a level. -/
def Level.name : Level → String
  | .error => "error"
  | .warning => "warning"
  | .note => "note"

/-- The number of a source among the sources of a session. -/
abbrev SourceId := Nat

/-- A message to the reader of a report. -/
structure Diagnostic where
  /-- What the message says. -/
  text : String
  /-- How grave it is. -/
  level : Level := .error
  /-- The source that it is about. -/
  source : Option SourceId := none
  /-- The stretch of the source that it is about. -/
  span : Option Span := none
  /-- Further lines, shown after the message. -/
  notes : List String := []
deriving DecidableEq, Repr

namespace Diagnostic

/-- An error about nothing in particular. -/
def ofText (text : String) : Diagnostic := { text }

/-- The diagnostic, about one place. -/
def at? (diagnostic : Diagnostic) (place : Option Caret) : Diagnostic :=
  match place with
  | none => diagnostic
  | some caret => { diagnostic with span := some (Span.point caret) }

/-- The diagnostic, about a stretch of its source. -/
def spanning (diagnostic : Diagnostic) (span : Span) : Diagnostic :=
  { diagnostic with span := some span }

/-- The diagnostic with one more note. -/
def withNote (diagnostic : Diagnostic) (note : String) : Diagnostic :=
  { diagnostic with notes := diagnostic.notes ++ [note] }

/-- The diagnostic, about a source.  Without a source it stays as it is. -/
def about (diagnostic : Diagnostic) (source : Option SourceId) : Diagnostic :=
  match source with
  | none => diagnostic
  | some _ => { diagnostic with source }

/-- Where the diagnostic's stretch starts. -/
def location (diagnostic : Diagnostic) : Option Caret :=
  diagnostic.span.map (·.start)

/-- Level, place and text on one line, if the place can be shown. -/
def render? (diagnostic : Diagnostic) : Option String :=
  match diagnostic.location with
  | none => some s!"{diagnostic.level.name}: {diagnostic.text}"
  | some caret => do
    let place ← caret.render?
    return s!"{diagnostic.level.name}: {place}: {diagnostic.text}"

end Diagnostic

end Descent.Report
