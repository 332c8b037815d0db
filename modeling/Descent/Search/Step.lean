import Descent.Search.State

/-!
# Steps of a search

Forward, the nonterminal at the front is replaced by its first alternative, and a terminal at the
front is matched with the next token.  Where neither is possible the search turns back: matches
are taken back, and the alternative tried last is replaced by the next one of its nonterminal.  A
nonterminal without a further alternative goes back to the front, so that the one around it is
tried differently.  When the start symbol runs out the tokens are rejected.

## What a call leaves

Each call is given a state and leaves one, also where it fails: `Reply` is a result or a fault,
each with the state that is left, unless the tree has no room for what is derived.  All checks of
the stacks but one come before anything is changed.  The exception is `discard`, which takes
symbols off one by one and finds out only then whether they were the right ones.

The children of an alternative that is taken in place of another one start where those of the
other one did, so their first index is remembered on the working stack and not asked for again.
-/

namespace Descent.Search

/-- What a call comes to. -/
inductive Reply (α : Type) where
  /-- The call succeeds, and leaves a state. -/
  | ok (value : α) (state : State)
  /-- The call fails, and leaves a state. -/
  | error (fault : Fault) (state : State)
  /-- The tree has no room for the nodes that the call adds.  The search breaks off, and no state is
  left. -/
  | overflow
deriving DecidableEq, Repr

/-- The next action forward. -/
def nextForward (task : Task) (state : State) : Except Fault Action :=
  match state.input with
  | [] => .ok (if state.cursor = task.tokens.size then .success else .momentaryInsuccess)
  | head :: _ =>
    match task.grammar.kind? head.symbol with
    | some .nonterminal => .ok .expand
    | some .terminal =>
      .ok (if state.currentToken? task = some head.symbol then .advance else .momentaryInsuccess)
    | none => .error (.undeclared head.symbol)

/-- The action that the search takes next. -/
def nextAction (task : Task) (state : State) : Except Fault Action :=
  match state.mode with
  | .normal => nextForward task state
  | .backtrack =>
    match state.working with
    | .matched _ _ :: _ => .ok .back
    | .expanded _ _ _ _ :: _ => .ok .anotherTry
    | [] => .error .nothingToUndo
  | .error | .final => .error (.halted state.mode)

/-! ### The six actions -/

namespace State

/-- Adds the symbols of a production as children of `node`, if there is room for them, and puts them
at the front. -/
def derive? (state : State) (node : Index) (production : Production) : Option State :=
  let symbols := production.symbols
  let nodes := DerivationTree.indicesFrom state.tree.nextIndex symbols.length
  (state.tree.append? node symbols).map fun tree =>
    { state with input := List.zipWith Pending.mk symbols nodes ++ state.input, tree }

/-- Notes that a nonterminal was replaced by an alternative, the children of which start at
`children`. -/
def noteExpanded (state : State) (nonterminal : Symbol) (alternative : Nat)
    (node children : Index) : State :=
  { state with working := .expanded nonterminal alternative node children :: state.working }

/-- Notes that the terminal at the front was tried and failed at the furthest position. -/
def noteExpected (task : Task) (state : State) : State :=
  match state.input with
  | [] => state
  | head :: _ =>
    if state.cursor = state.furthest ∧ task.grammar.isTerminal head.symbol ∧
        head.symbol ∉ state.expected then
      { state with expected := state.expected ++ [head.symbol] }
    else state

/-- Notes that one more token is matched. -/
def moveCursor (state : State) : State :=
  let cursor := state.cursor + 1
  if state.furthest < cursor then { state with cursor, furthest := cursor, expected := [] }
  else { state with cursor }

/-- Notes that a nonterminal ran out of alternatives. -/
def noteExhausted (state : State) (nonterminal : Symbol) : State :=
  { state with firstExhausted := state.firstExhausted.or (some nonterminal) }

end State

/-- Replaces the nonterminal at the front by its first alternative. -/
def expand (task : Task) (state : State) : Reply Unit :=
  match state.input with
  | [] => .error (.nothingToDerive .expand) state
  | head :: input =>
    match task.grammar.kind? head.symbol with
    | some .terminal => .error (.expandTerminal head.symbol) state
    | none => .error (.undeclared head.symbol) state
    | some .nonterminal =>
      match task.grammar.alternatives head.symbol with
      | [] => .error (.noAlternatives head.symbol) state
      | production :: _ =>
        let children := state.tree.nextIndex
        match { state with input }.derive? head.node production with
        | none => .overflow
        | some state => .ok () (state.noteExpanded head.symbol 1 head.node children)

/-- Matches the terminal at the front with the next token. -/
def advance (task : Task) (state : State) : Reply Unit :=
  match state.input with
  | [] => .error (.nothingToDerive .advance) state
  | head :: input =>
    let token := state.currentToken? task
    if task.grammar.isTerminal head.symbol ∧ token = some head.symbol then
      .ok () { state with
        input, working := .matched head.symbol head.node :: state.working }.moveCursor
    else .error (.mismatch head.symbol token) state

/-- Gives up on what has been derived. -/
def giveUp (task : Task) (state : State) : Reply Unit :=
  .ok () { state.noteExpected task with mode := .backtrack }

/-- Takes back a match. -/
def back (state : State) : Reply Unit :=
  match state.working with
  | [] => .error .nothingToUndo state
  | .expanded nonterminal _ _ _ :: _ => .error (.backOnNonterminal nonterminal) state
  | .matched terminal node :: working =>
    match state.cursor with
    | 0 => .error .cursorUnderflow state
    | cursor + 1 =>
      .ok () { state with cursor, working, input := ⟨terminal, node⟩ :: state.input }

/-- Takes symbols off the front, the nodes of which have to be `first` and those after it.  The
first symbol with another node is taken off as well. -/
def takeOff (first : Index) : Nat → List Pending → EStateM.Result Unit (List Pending) Unit
  | 0, input => .ok () input
  | _ + 1, [] => .error () []
  | count + 1, head :: input =>
    if head.node = first then takeOff (first + 1) count input else .error () input

/-- Takes the symbols of an alternative off the front and out of the tree. -/
def discard (nonterminal : Symbol) (tried : Production) (children : Index) (state : State) :
    EStateM.Result Fault State Unit :=
  match takeOff children tried.length state.input with
  | .error _ input => .error (.corruptFrontier nonterminal) { state with input }
  | .ok _ input => .ok () { state with input, tree := state.tree.truncate children }

/-- Puts a nonterminal that ran out of alternatives back at the front, or rejects the tokens
if nothing else was done. -/
def putBack (nonterminal : Symbol) (node : Index) (state : State) : State :=
  match state.working with
  | [] => { state with mode := .error }
  | _ :: _ => { state with input := ⟨nonterminal, node⟩ :: state.input }

/-- Replaces an alternative by the next one, or takes it back if there is none. -/
def anotherTry (task : Task) (state : State) : Reply Unit :=
  match state.working with
  | [] => .error .nothingToUndo state
  | .matched terminal _ :: _ => .error (.anotherTryOnTerminal terminal) state
  | .expanded nonterminal alternative node children :: working =>
    let alternatives := task.grammar.alternatives nonterminal
    match alternative with
    | 0 => .error (.corruptFrontier nonterminal) state
    | index + 1 =>
      match alternatives[index]? with
      | none => .error (.corruptFrontier nonterminal) state
      | some tried =>
        match discard nonterminal tried children { state with working } with
        | .error fault state => .error fault state
        | .ok _ state =>
          match alternatives[index + 1]? with
          | some production =>
            match state.derive? node production with
            | none => .overflow
            | some state =>
              .ok () { state.noteExpanded nonterminal (index + 2) node children with
                mode := .normal }
          | none => .ok () (putBack nonterminal node (state.noteExhausted nonterminal))

/-- Accepts the tokens. -/
def succeed (task : Task) (state : State) : Reply Unit :=
  if state.input.isEmpty ∧ state.cursor = task.tokens.size then
    .ok () { state with mode := .final }
  else .error .prematureSuccess state

/-- What an action does, apart from being counted. -/
def perform (task : Task) (action : Action) (state : State) : Reply Unit :=
  match action with
  | .expand => expand task state
  | .advance => advance task state
  | .momentaryInsuccess => giveUp task state
  | .back => back state
  | .anotherTry => anotherTry task state
  | .success => succeed task state

/-! ### Taking actions -/

/-- Takes an action.  It has to fit the mode and the two stacks, but need not be the one that
the search would take. -/
def apply (task : Task) (action : Action) (state : State) : Reply Unit :=
  if state.mode.isHalted then .error (.halted state.mode) state
  else if action.mode ≠ state.mode then .error (.wrongMode action state.mode) state
  else
    match perform task action state with
    | .error fault state => .error fault state
    | .overflow => .overflow
    | .ok _ state => .ok () { state with steps := state.steps + 1 }

/-- The limit that is reached, if there is one. -/
def reachedLimit? (task : Task) (state : State) : Option Nat :=
  task.limit.filter (· ≤ state.steps)

/-- Takes the next action. -/
def step (task : Task) (state : State) : Reply Action :=
  match reachedLimit? task state with
  | some limit => .error (.limitReached limit) state
  | none =>
    match nextAction task state with
    | .error fault => .error fault state
    | .ok action =>
      match apply task action state with
      | .error fault state => .error fault state
      | .overflow => .overflow
      | .ok _ state => .ok action state

end Descent.Search
