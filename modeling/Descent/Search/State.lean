import Descent.Search.Fault
import Descent.Tree

/-!
# States of a search

A search looks for a leftmost derivation of some tokens.  It keeps what is still to be derived,
what has been done so far, and the tree of the latter.

## Main Definitions

* `Search.Task` — the grammar, the tokens, and how many steps are allowed
* `Search.Pending` — a symbol that is still to be derived, with its node
* `Search.Frame` — a thing that was done and can be undone
* `Search.State` — where a search stands
* `Search.start` — the state in which a search starts

## Design Notes

Both stacks are lists with the end where things happen in front: the next symbol to derive, and
the last thing done.
-/

namespace Descent.Search

/-- What to search for. -/
structure Task where
  /-- The grammar. -/
  grammar : Grammar
  /-- The tokens that are to be derived. -/
  tokens : Array Symbol
  /-- The number of steps after which to give up. -/
  limit : Option Nat
deriving DecidableEq, Repr

/-- A symbol that is still to be derived. -/
structure Pending where
  /-- The symbol. -/
  symbol : Symbol
  /-- The node of the tree that stands for it. -/
  node : Index
deriving DecidableEq, Repr

/-- A thing that was done and can be undone. -/
inductive Frame where
  /-- A terminal was matched with the token before the cursor. -/
  | matched (terminal : Symbol) (node : Index)
  /-- A nonterminal was replaced by an alternative, counted from one.  Its children start at
  `children`, and from there on the whole tree belongs to this alternative. -/
  | expanded (nonterminal : Symbol) (alternative : Nat) (node children : Index)
deriving DecidableEq, Repr

namespace Frame

/-- The symbol that was matched or replaced. -/
def symbol : Frame → Symbol
  | .matched terminal _ => terminal
  | .expanded nonterminal _ _ _ => nonterminal

/-- Whether a terminal was matched. -/
def isMatched : Frame → Bool
  | .matched _ _ => true
  | .expanded _ _ _ _ => false

/-- The alternative that a nonterminal was replaced by. -/
def alternative? : Frame → Option Nat
  | .matched _ _ => none
  | .expanded _ alternative _ _ => some alternative

/-- The symbol, and the alternative if there is one. -/
def render : Frame → String
  | .matched terminal _ => terminal
  | .expanded nonterminal alternative _ _ => s!"{nonterminal}#{alternative}"

end Frame

/-- Where a search stands. -/
structure State where
  /-- What the search is doing. -/
  mode : Mode
  /-- The number of tokens that are matched. -/
  cursor : Nat
  /-- What is still to be derived, the next symbol first. -/
  input : List Pending
  /-- What was done so far, the last thing first. -/
  working : List Frame
  /-- The tree of what was done so far. -/
  tree : DerivationTree
  /-- The number of steps taken. -/
  steps : Nat
  /-- The largest number of tokens that was ever matched. -/
  furthest : Nat
  /-- The terminals that were tried and failed there, in the order of their first try. -/
  expected : List Symbol
  /-- The first nonterminal that ran out of alternatives. -/
  firstExhausted : Option Symbol
deriving DecidableEq, Repr

namespace State

/-- The state in which nothing is done and the start symbol is to be derived. -/
def initial (start : Symbol) : State where
  mode := .normal
  cursor := 0
  input := [⟨start, Index.first⟩]
  working := []
  tree := DerivationTree.ofRoot start
  steps := 0
  furthest := 0
  expected := []
  firstExhausted := none

/-- The next token. -/
def currentToken? (task : Task) (state : State) : Option Symbol :=
  task.tokens[state.cursor]?

/-- Texts in brackets with a space between neighbours. -/
def bracketed (texts : List String) : String :=
  "[" ++ " ".intercalate texts ++ "]"

/-- Mode, cursor, what was done, and what is still to be derived. -/
def render (state : State) : String :=
  Text.padRight 9 state.mode.name ++ " " ++ Text.padLeft 4 (Nat.repr state.cursor) ++ "  " ++
    bracketed (state.working.reverse.map (·.render)) ++ "  " ++
    bracketed (state.input.map (·.symbol))

end State

/-- The state in which the search for a task starts, unless its grammar cannot be searched. -/
def start (task : Task) : Except Fault State :=
  match check task.grammar with
  | some fault => .error fault
  | none => .ok (State.initial task.grammar.start)

end Descent.Search
