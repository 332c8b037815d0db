import Descent.Report.Diagnostic

/-!
# Sources

The texts of a session, kept so that a report can quote them.  They are numbered as they came, and
none is ever taken out, so a diagnostic that was made earlier still quotes the same text.  What
was typed at a prompt has no path and is named by its number.
-/

namespace Descent.Report

/-- Where a text came from. -/
inductive Origin where
  /-- It was typed at a prompt. -/
  | prompt
  /-- It was given on the command line. -/
  | argument
  /-- It was read from a file. -/
  | file (path : String)
deriving DecidableEq, Repr

/-- A text and where it came from. -/
structure Source where
  /-- Where it came from. -/
  origin : Origin
  /-- The text. -/
  text : String
deriving DecidableEq, Repr

/-- The texts of a session, in the order in which they came. -/
abbrev Sources := Array Source

namespace Sources

/-- The sources with one more, and its number. -/
def add (sources : Sources) (source : Source) : Sources × SourceId :=
  (sources.push source, sources.size)

/-- The name of a source. -/
def name? (sources : Sources) (id : SourceId) : Option String :=
  sources[id]?.map fun source =>
    match source.origin with
    | .prompt => s!"<repl {id}>"
    | .argument => "<argument>"
    | .file path => path

/-- The text of a source. -/
def text? (sources : Sources) (id : SourceId) : Option String :=
  sources[id]?.map (·.text)

/-- A line of a source, counted from zero, without its line ending. -/
def line? (sources : Sources) (id : SourceId) (number : Nat) : Option String := do
  let text ← sources.text? id
  let line ← (Text.lines text.toList)[number]?
  return String.ofList line

end Sources

end Descent.Report
