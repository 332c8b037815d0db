import Descent.Search.State

/-!
# Verdicts

What a search ends with: the tree of accepted tokens, or a rejection.  There is no one reason for
a rejection, as each derivation failed in its own way.  What is reported is the furthest position
that any of them came to, with the terminals that would have been welcome there.
-/

namespace Descent.Search

/-- Why tokens were rejected.  What was expected at the furthest position that was reached is
the best guess at what is wrong with them. -/
structure Rejection where
  /-- The first nonterminal that ran out of alternatives. -/
  firstExhausted : Option Symbol
  /-- The largest number of tokens that was matched. -/
  furthest : Nat
  /-- The token after these. -/
  found : Option Symbol
  /-- The terminals that were tried there. -/
  expected : List Symbol
  /-- The number of steps taken. -/
  steps : Nat
deriving DecidableEq, Repr

namespace Rejection

/-- What was expected, in words. -/
def describeExpected : List Symbol → String
  | [] => ""
  | [only] => s!", expected `{only}`"
  | many => ", expected one of " ++ ", ".intercalate (many.map fun symbol => s!"`{symbol}`")

/-- What was found, in words. -/
def describeFound (rejection : Rejection) : String :=
  match rejection.found with
  | none => "unexpected end of input"
  | some token => s!"unexpected `{token}` at token {rejection.furthest + 1}"

/-- The rejection in words. -/
def message (rejection : Rejection) : String :=
  rejection.describeFound ++ describeExpected rejection.expected

/-- The message to the reader of a report. -/
def diagnostic (rejection : Rejection) : Report.Diagnostic :=
  { text := "rejected: " ++ rejection.message
    notes := rejection.firstExhausted.toList.map fun nonterminal =>
      s!"`{nonterminal}` was the first nonterminal to run out of alternatives" }

end Rejection

/-- What a search ends with. -/
inductive Verdict where
  /-- The grammar derives the tokens, by this tree. -/
  | accepted (tree : DerivationTree) (steps : Nat)
  /-- The grammar does not derive the tokens. -/
  | rejected (rejection : Rejection)
deriving DecidableEq, Repr

/-- The number of steps taken. -/
def Verdict.steps : Verdict → Nat
  | .accepted _ steps => steps
  | .rejected rejection => rejection.steps

/-- The rejection of a search that found nothing. -/
def State.rejection (task : Task) (state : State) : Rejection where
  firstExhausted := state.firstExhausted
  furthest := state.furthest
  found := task.tokens[state.furthest]?
  expected := state.expected
  steps := state.steps

/-- The verdict of a search that is over. -/
def State.verdict (task : Task) (state : State) : Verdict :=
  if state.mode = .final then .accepted state.tree state.steps
  else .rejected (state.rejection task)

end Descent.Search
