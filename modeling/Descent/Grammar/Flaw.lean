import Descent.Report.Diagnostic

/-!
# What can be wrong with the text of a grammar

Declarations can fail in a program that builds a grammar and in a text that holds one.  The
reasons are the same, a `GrammarError`; in a text there is also a line to blame, which makes it a
`LoadError`.
-/

namespace Descent

/-- Why declarations do not make a grammar. -/
inductive GrammarError where
  /-- A name is declared as a terminal and as a nonterminal. -/
  | bothKinds (name : String)
  /-- An alternative is given for something that is no declared nonterminal. -/
  | unknownLeftSide (name : String)
  /-- An alternative has no symbols. -/
  | emptyAlternative (name : String)
  /-- No start symbol is given. -/
  | startMissing
  /-- More than one start symbol is given. -/
  | startRepeated
  /-- A line of the start section does not hold one symbol. -/
  | startNotOneSymbol
  /-- A line looks like a header, but is none. -/
  | unknownHeader (line : String)
  /-- A line stands before the first header. -/
  | contentBeforeHeader
  /-- A production has no arrow. -/
  | arrowMissing
  /-- A production does not have one symbol before its arrow. -/
  | leftSideNotOneSymbol
deriving DecidableEq, Repr

/-- The reason in words. -/
def GrammarError.message : GrammarError → String
  | .bothKinds name => s!"`{name}` is declared as both a terminal and a nonterminal"
  | .unknownLeftSide name =>
    s!"productions given for `{name}`, which is not a declared nonterminal"
  | .emptyAlternative name =>
    s!"`{name}` has an empty alternative, but empty productions are not supported"
  | .startMissing => "no start symbol was given"
  | .startRepeated => "the start symbol is given more than once"
  | .startNotOneSymbol => "the start section must contain exactly one symbol"
  | .unknownHeader line =>
    s!"`{line}` is not a section, expected #NONTERMINALS, #TERMINALS, #START or #PRODUCTIONS"
  | .contentBeforeHeader => "expected a section header before any content"
  | .arrowMissing => "expected `->` in a production"
  | .leftSideNotOneSymbol => "a production needs exactly one symbol on its left-hand side"

/-- Why a text is no grammar. -/
structure LoadError where
  /-- The line to blame, counted from zero, if it is a single one. -/
  line : Option Nat
  /-- The reason. -/
  cause : GrammarError
deriving DecidableEq, Repr

namespace LoadError

/-- The start of the line to blame. -/
def location (error : LoadError) : Option Caret := error.line.map Caret.lineStart

/-- Line and reason in words. -/
def message (error : LoadError) : String :=
  match error.line with
  | none => error.cause.message
  | some line => s!"line {line + 1}: {error.cause.message}"

/-- The message to the reader of a report. -/
def diagnostic (error : LoadError) : Report.Diagnostic :=
  (Report.Diagnostic.ofText s!"invalid grammar: {error.cause.message}").at? error.location

end LoadError

end Descent
