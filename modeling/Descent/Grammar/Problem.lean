import Descent.Grammar.Basic
import Descent.Grammar.Reach
import Descent.Report.Diagnostic

/-!
# Problems of a grammar

What a search could stumble over, and what is likely a mistake.  The former are errors, and a
grammar is valid without them; the latter are warnings, and are found by following names with
`reach`: from the start symbol to all symbols of alternatives, and from a nonterminal to the
leftmost ones.

Problems are listed in the order in which they are reported: the start symbol, then for each
nonterminal what is wrong with itself, then all nonterminals that are out of reach, and then all
that are left-recursive.  Where the start symbol is none there is nothing to reach from it, so
nothing is reported as out of reach.
-/

namespace Descent

/-- Something wrong with a grammar, or suspicious about it. -/
inductive Problem where
  /-- The start symbol is no declared nonterminal. -/
  | startNotNonterminal (start : Symbol)
  /-- A nonterminal has no alternatives. -/
  | noAlternatives (nonterminal : Symbol)
  /-- A symbol of an alternative is not declared. -/
  | undeclared (left symbol : Symbol)
  /-- A nonterminal occurs in no derivation from the start symbol. -/
  | unreachable (nonterminal : Symbol)
  /-- A nonterminal derives something that starts with itself. -/
  | leftRecursive (nonterminal : Symbol)
deriving DecidableEq, Repr

namespace Problem

/-- The problem in words. -/
def message : Problem → String
  | .startNotNonterminal start => s!"the start symbol `{start}` is not a declared nonterminal"
  | .noAlternatives nonterminal => s!"the nonterminal `{nonterminal}` has no productions"
  | .undeclared left symbol =>
    s!"`{symbol}` is used in a production for `{left}` but is not declared"
  | .unreachable nonterminal =>
    s!"the nonterminal `{nonterminal}` can't be reached from the start symbol"
  | .leftRecursive nonterminal =>
    s!"the nonterminal `{nonterminal}` is left-recursive, parsing may never finish"

/-- Whether the grammar cannot be used. -/
def isError : Problem → Bool
  | .unreachable _ | .leftRecursive _ => false
  | _ => true

/-- The message to the reader of a report. -/
def diagnostic (problem : Problem) : Report.Diagnostic :=
  { text := problem.message
    level := if problem.isError then .error else .warning }

end Problem

namespace Grammar

/-- The symbols of all alternatives of a symbol. -/
def alternativeSymbols (grammar : Grammar) (symbol : Symbol) : List Symbol :=
  (grammar.alternatives symbol).flatMap (·.symbols)

/-- The leftmost symbols of the alternatives of a symbol. -/
def firstSymbols (grammar : Grammar) (symbol : Symbol) : List Symbol :=
  (grammar.alternatives symbol).map (·.first)

/-- The nonterminals that occur in derivations from the start symbol. -/
def reachable (grammar : Grammar) : List Symbol :=
  reach grammar.alternativeSymbols grammar.nonterminals [grammar.start]

/-- Whether a nonterminal derives something that starts with itself.  No alternative is empty,
so only leftmost symbols matter. -/
def isLeftRecursive (grammar : Grammar) (nonterminal : Symbol) : Bool :=
  (reach grammar.firstSymbols grammar.nonterminals (grammar.firstSymbols nonterminal)).contains
    nonterminal

/-- The problems that a nonterminal has by itself. -/
def ownProblems (grammar : Grammar) (nonterminal : Symbol) : List Problem :=
  (if (grammar.alternatives nonterminal).isEmpty then [.noAlternatives nonterminal] else []) ++
    ((grammar.alternativeSymbols nonterminal).filter fun symbol =>
      (grammar.kind? symbol).isNone).map (.undeclared nonterminal)

/-- The problems of a grammar. -/
def problems (grammar : Grammar) : List Problem :=
  (if grammar.isNonterminal grammar.start then [] else [.startNotNonterminal grammar.start]) ++
    grammar.nonterminals.flatMap grammar.ownProblems ++
    (if grammar.isNonterminal grammar.start then
      let reached := grammar.reachable
      (grammar.nonterminals.filter fun nonterminal => !reached.contains nonterminal).map
        .unreachable
    else []) ++
    (grammar.nonterminals.filter grammar.isLeftRecursive).map .leftRecursive

/-- Whether no problem of the grammar is an error. -/
def isValid (grammar : Grammar) : Bool :=
  grammar.problems.all fun problem => !problem.isError

end Grammar

end Descent
