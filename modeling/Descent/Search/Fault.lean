import Descent.Grammar.Problem
import Descent.Search.Action

/-!
# Faults of a search

A fault means that the grammar cannot be searched, or that an action was asked for where it makes
no sense.  Tokens that a grammar does not derive are no fault.

The grammar is checked once, before the search starts, against the errors among its problems.  So
most of the faults that are listed here can only come of actions which the search would not have
chosen, and a few cannot come up at all.
-/

namespace Descent.Search

/-- Why a search cannot start, or an action cannot be taken. -/
inductive Fault where
  /-- The grammar has no productions. -/
  | emptyGrammar
  /-- The start symbol is no nonterminal. -/
  | startNotNonterminal (start : Symbol)
  /-- A nonterminal has no alternatives. -/
  | noAlternatives (nonterminal : Symbol)
  /-- A symbol is not declared. -/
  | undeclared (symbol : Symbol)
  /-- The action is not one of the mode. -/
  | wrongMode (action : Action) (mode : Mode)
  /-- The search is over. -/
  | halted (mode : Mode)
  /-- There is nothing left to derive. -/
  | nothingToDerive (action : Action)
  /-- The symbol at the front has no alternatives to try. -/
  | expandTerminal (terminal : Symbol)
  /-- The symbol at the front is not the next token. -/
  | mismatch (expected : Symbol) (found : Option Symbol)
  /-- Symbols or tokens are left. -/
  | prematureSuccess
  /-- The last thing done was to expand a nonterminal. -/
  | backOnNonterminal (nonterminal : Symbol)
  /-- The last thing done was to match a terminal. -/
  | anotherTryOnTerminal (terminal : Symbol)
  /-- Nothing has been done. -/
  | nothingToUndo
  /-- The alternative to be taken back is not at the front. -/
  | corruptFrontier (nonterminal : Symbol)
  /-- No token has been matched. -/
  | cursorUnderflow
  /-- As many steps were taken as are allowed. -/
  | limitReached (limit : Nat)
deriving DecidableEq, Repr

namespace Fault

/-- A token in words. -/
def describeToken : Option Symbol → String
  | none => "the end of input"
  | some token => s!"`{token}`"

/-- The fault in words. -/
def message : Fault → String
  | .emptyGrammar => "the grammar has no productions"
  | .startNotNonterminal start => s!"the start symbol `{start}` is not a nonterminal"
  | .noAlternatives nonterminal => s!"the nonterminal `{nonterminal}` has no productions"
  | .undeclared symbol => s!"`{symbol}` is neither a terminal nor a nonterminal"
  | .wrongMode action mode => s!"can't {action.name} in the {mode.name} state"
  | .halted mode => s!"the parser already stopped in the {mode.name} state"
  | .nothingToDerive action => s!"can't {action.name} with nothing left to derive"
  | .expandTerminal terminal => s!"can't expand the terminal `{terminal}`"
  | .mismatch expected found =>
    s!"can't advance over `{expected}`, the next token is {describeToken found}"
  | .prematureSuccess => "can't succeed with symbols left to derive or tokens left over"
  | .backOnNonterminal nonterminal => s!"can't go back over the nonterminal `{nonterminal}`"
  | .anotherTryOnTerminal terminal =>
    s!"can't try another alternative for the terminal `{terminal}`"
  | .nothingToUndo => "there's nothing on the working stack to undo"
  | .corruptFrontier nonterminal =>
    "the input stack doesn't start with the alternative being replaced for " ++
      s!"`{nonterminal}`"
  | .cursorUnderflow => "the cursor can't move before the first token"
  | .limitReached limit => s!"gave up after {limit} steps"

/-- The lines that explain the fault further. -/
def notes : Fault → List String
  | .limitReached _ => ["the grammar may be left-recursive, or the limit too low"]
  | .undeclared _ | .noAlternatives _ => ["check the grammar before parsing with it"]
  | _ => []

/-- The message to the reader of a report. -/
def diagnostic (fault : Fault) : Report.Diagnostic :=
  { text := fault.message, notes := fault.notes }

/-- The fault of a grammar that has a problem, if the problem is an error. -/
def ofProblem? : Problem → Option Fault
  | .startNotNonterminal start => some (.startNotNonterminal start)
  | .noAlternatives nonterminal => some (.noAlternatives nonterminal)
  | .undeclared _ symbol => some (.undeclared symbol)
  | .unreachable _ | .leftRecursive _ => none

end Fault

/-- The fault of a grammar that cannot be searched: that it has no productions, or else its
first problem that is an error. -/
def check (grammar : Grammar) : Option Fault :=
  if grammar.productionCount = 0 then some .emptyGrammar
  else grammar.problems.findSome? Fault.ofProblem?

end Descent.Search
