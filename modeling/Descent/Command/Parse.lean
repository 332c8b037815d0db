import Descent.Command.Arguments
import Descent.Command.Session
import Descent.Program
import Descent.Search.Encoded
import Descent.Search.Run

/-!
# Lexing and parsing

The parts of the subcommands that read a program or look for its derivation.  Tokens come from the
lexemes of a file or from words that were typed.  `Located` is what the two have in common: tokens
with the places where they stand, so that a rejection can be reported without asking which of the
two it was.
-/

namespace Descent.Command

open Report

/-- The program of a file, unless it cannot be read or has lexical errors, and the symbol table
with its names. -/
def lexFile (session : Session) (files : Files) (vocabulary source : String)
    (table : SymbolTable) : Session × Option (SourceId × Program × SymbolTable) :=
  match session.readVocabulary files vocabulary with
  | (session, none) => (session, none)
  | (session, some vocabulary) =>
    match session.read files source with
    | (session, none) => (session, none)
    | (session, some (id, text)) =>
      match scan vocabulary text table with
      | none => (session, none)
      | some (.ok program, table) => (session, some (id, program, table))
      | some (.error errors, _) =>
        (session.reportAll (errors.map LexicalError.diagnostic) (some id), none)

/-- Tokens, and where they stand in a source. -/
structure Located where
  /-- The source. -/
  source : SourceId
  /-- The tokens. -/
  tokens : List Symbol
  /-- The stretch of the source that each token takes up. -/
  spans : List Span
deriving DecidableEq, Repr

namespace Located

/-- The words of a text as tokens. -/
def ofWords (source : SourceId) (text : String) : Located :=
  let words := locatedWords text
  ⟨source, words.map (·.word), words.map (·.span)⟩

/-- The terminals of a program as tokens. -/
def ofProgram (source : SourceId) (program : Program) : Located :=
  ⟨source, program.terminals, program.map (·.span)⟩

/-- The stretch of the token with an index.  Behind the tokens it is the end of the last one. -/
def spanAt (located : Located) (index : Nat) : Span :=
  match located.spans[index]? with
  | some span => span
  | none => Span.point ((located.spans.getLast?.map (·.stop)).getD Caret.start)

end Located

/-- Adds a line for each step. -/
def traceObserver (lines : String) (action : Search.Action) (state : Search.State) : String :=
  lines ++ Search.traceLine action state

/-- The answer to some tokens, if `fuel` steps suffice, and the trace if it is asked for. -/
def search (common : Common) (grammar : Grammar) (tokens : List Symbol) (fuel : Nat) :
    String × Option Search.Answer :=
  let task : Search.Task := ⟨grammar, tokens.toArray, common.stepLimit⟩
  if common.trace then Search.parse task traceObserver fuel ""
  else ("", (Search.parse task Search.unobserved fuel ()).2)

/-- What is printed for accepted tokens. -/
def acceptance (grammar : Grammar) (tree : DerivationTree) (steps : Nat) : String :=
  s!"accepted by `{grammar.start}` in {steps} steps\n" ++ tree.render

/-- The diagnostic of a rejection: it points at the furthest token that was reached. -/
def rejectionDiagnostic (rejection : Search.Rejection) (located : Located) : Diagnostic :=
  rejection.diagnostic.spanning (located.spanAt rejection.furthest)

/-- Prints the tree of accepted tokens if `shown`, and reports a rejection. -/
def reportVerdict (session : Session) (grammar : Grammar) (located : Located) (shown : Bool) :
    Search.Verdict → Session × Bool
  | .accepted tree steps =>
    (if shown then session.print (acceptance grammar tree steps) else session, true)
  | .rejected rejection =>
    (session.report (rejectionDiagnostic rejection located) (some located.source), false)

end Descent.Command
