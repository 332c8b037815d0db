import Descent.Caret
import Descent.Command.Arguments
import Descent.Command.Files
import Descent.Command.Parse
import Descent.Command.Repl
import Descent.Command.Run
import Descent.Command.Session
import Descent.Grammar.Basic
import Descent.Grammar.Derivation
import Descent.Grammar.Document
import Descent.Grammar.Draft
import Descent.Grammar.Flaw
import Descent.Grammar.Problem
import Descent.Grammar.Reach
import Descent.Index
import Descent.Json
import Descent.Lexeme.Basic
import Descent.Lexeme.Reading
import Descent.Main
import Descent.Program
import Descent.Proofs.Acyclic
import Descent.Proofs.Command.Status
import Descent.Proofs.Command.Underline
import Descent.Proofs.Distinct
import Descent.Proofs.Except
import Descent.Proofs.Grammar.Blame
import Descent.Proofs.Grammar.Built
import Descent.Proofs.Grammar.Declared
import Descent.Proofs.Grammar.Forest
import Descent.Proofs.Grammar.Language
import Descent.Proofs.Grammar.Ledger
import Descent.Proofs.Grammar.LeftCorner
import Descent.Proofs.Grammar.Leftmost
import Descent.Proofs.Grammar.Lines
import Descent.Proofs.Grammar.Loading
import Descent.Proofs.Grammar.Loops
import Descent.Proofs.Grammar.Malformed
import Descent.Proofs.Grammar.Places
import Descent.Proofs.Grammar.RoundTrip
import Descent.Proofs.Grammar.Sections
import Descent.Proofs.Grammar.Usable
import Descent.Proofs.Grammar.Viable
import Descent.Proofs.Grammar.Warnings
import Descent.Proofs.Lexeme.Chains
import Descent.Proofs.Lexeme.Endless
import Descent.Proofs.Lexeme.Head
import Descent.Proofs.Lexeme.Layout
import Descent.Proofs.Lexeme.Munch
import Descent.Proofs.Lexeme.Positions
import Descent.Proofs.Lexeme.Reserved
import Descent.Proofs.Lexeme.Seam
import Descent.Proofs.Lexeme.Sharing
import Descent.Proofs.Lexeme.Spacing
import Descent.Proofs.Report.Arithmetic
import Descent.Proofs.Report.Quote
import Descent.Proofs.Report.Rounds
import Descent.Proofs.Report.Writing
import Descent.Proofs.Search.Alike
import Descent.Proofs.Search.Balance
import Descent.Proofs.Search.Completeness
import Descent.Proofs.Search.FirstMatch
import Descent.Proofs.Search.Furthest
import Descent.Proofs.Search.Invariant
import Descent.Proofs.Search.LeftRecursion
import Descent.Proofs.Search.Limit
import Descent.Proofs.Search.Links
import Descent.Proofs.Search.Move
import Descent.Proofs.Search.Progress
import Descent.Proofs.Search.Replay
import Descent.Proofs.Search.Runs
import Descent.Proofs.Search.Soundness
import Descent.Proofs.Search.Start
import Descent.Proofs.Search.Termination
import Descent.Proofs.Search.Undo
import Descent.Proofs.Text.Place
import Descent.Proofs.Text.Width
import Descent.Proofs.Text.Words
import Descent.Proofs.Tree.Ancestry
import Descent.Proofs.Tree.DepthFirst
import Descent.Proofs.Tree.Frontier
import Descent.Proofs.Tree.Growth
import Descent.Report.Diagnostic
import Descent.Report.Emission
import Descent.Report.Excerpt
import Descent.Report.Queue
import Descent.Report.Source
import Descent.Search.Action
import Descent.Search.Encoded
import Descent.Search.Fault
import Descent.Search.Reached
import Descent.Search.Run
import Descent.Search.State
import Descent.Search.Step
import Descent.Search.Verdict
import Descent.Span
import Descent.SymbolTable
import Descent.Text.Alphabet
import Descent.Text.Alphanumeric
import Descent.Text.Blank
import Descent.Text.Identifier.Continue
import Descent.Text.Identifier.Start
import Descent.Text.LineBreak.Class
import Descent.Text.LineBreak.Rules
import Descent.Text.Padded
import Descent.Text.Pieces
import Descent.Text.Ranges
import Descent.Text.Typography
import Descent.Text.Unicode
import Descent.Text.Width
import Descent.Text.Width.Emoji
import Descent.Text.Width.Following
import Descent.Text.Width.Wide
import Descent.Text.Width.Zero
import Descent.Text.Wrapped
import Descent.Tree
import Descent.Vocabulary
