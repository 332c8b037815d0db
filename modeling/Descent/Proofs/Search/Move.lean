import Descent.Proofs.Search.Replay

/-!
# Moves of a search

What each of the six actions does to a state whose working stack replays to where the search
stands.  An action looks at stacks and indices and may fail in many ways; a `Search.Move` says
what it comes to in terms of stages, with one case for each way in which an action succeeds.  An
action makes a move, is refused and changes nothing, or finds no room in the tree:
`Search.perform_cases`.

All that is proved of searches by going through their steps goes through these moves, so this is
where the definitions of the actions are opened.  Only a comparison of two tasks, for which no
stack has to replay to anything, opens them once more.
-/

namespace Descent.Search

namespace State

/-- The state in which the search has come to `stage` by doing `working`. -/
def goTo (state : State) (mode : Mode) (working : List Frame) (stage : Stage) : State :=
  { state with mode, working, cursor := stage.cursor, input := stage.input, tree := stage.tree }

/-- Notes the furthest position.  What was expected before it no longer counts. -/
def noteFurthest (state : State) : State :=
  if state.furthest < state.cursor then { state with furthest := state.cursor, expected := [] }
  else state

/-- Notes that one more step was taken. -/
def counted (state : State) : State := { state with steps := state.steps + 1 }

variable (state : State) (mode : Mode) (working : List Frame) (stage : Stage)

@[simp] theorem mode_goTo : (state.goTo mode working stage).mode = mode := rfl

@[simp] theorem working_goTo : (state.goTo mode working stage).working = working := rfl

@[simp] theorem stage_goTo : (state.goTo mode working stage).stage = stage := rfl

@[simp] theorem steps_goTo : (state.goTo mode working stage).steps = state.steps := rfl

@[simp] theorem mode_noteFurthest : state.noteFurthest.mode = state.mode := by
  unfold noteFurthest
  split <;> rfl

@[simp] theorem working_noteFurthest : state.noteFurthest.working = state.working := by
  unfold noteFurthest
  split <;> rfl

@[simp] theorem stage_noteFurthest : state.noteFurthest.stage = state.stage := by
  unfold noteFurthest
  split <;> rfl

@[simp] theorem steps_noteFurthest : state.noteFurthest.steps = state.steps := by
  unfold noteFurthest
  split <;> rfl

@[simp] theorem mode_counted : state.counted.mode = state.mode := rfl

@[simp] theorem working_counted : state.counted.working = state.working := rfl

@[simp] theorem stage_counted : state.counted.stage = state.stage := rfl

@[simp] theorem steps_counted : state.counted.steps = state.steps + 1 := rfl

@[simp] theorem steps_noteExpected (task : Task) :
    (state.noteExpected task).steps = state.steps := by
  unfold noteExpected
  split
  · rfl
  · split <;> rfl

@[simp] theorem steps_noteExhausted (nonterminal : Symbol) :
    (state.noteExhausted nonterminal).steps = state.steps := rfl

/-- What is expected changes nothing else. -/
theorem noteExpected_eq_goTo (task : Task) :
    { state.noteExpected task with mode } =
      (state.noteExpected task).goTo mode state.working state.stage := by
  unfold noteExpected
  split
  · rfl
  · split <;> rfl

end State

/-- What an action that succeeds does to a state, apart from being counted.  Going back, the
frame on top leads from a stage `prior` to where the search stands. -/
inductive Move (task : Task) (state : State) : Action → State → Prop
  /-- The nonterminal at the front is replaced by its first alternative. -/
  | expand {nonterminal : Symbol} {node children : Index} {next : Stage}
      (redo : Redo task state.stage (.expanded nonterminal 1 node children) next) :
      Move task state .expand
        (state.goTo .normal (.expanded nonterminal 1 node children :: state.working) next)
  /-- The terminal at the front is matched. -/
  | advance {terminal : Symbol} {node : Index} {next : Stage}
      (redo : Redo task state.stage (.matched terminal node) next) :
      Move task state .advance
        (state.goTo .normal (.matched terminal node :: state.working) next).noteFurthest
  /-- The search turns back where it stands. -/
  | giveUp :
      Move task state .momentaryInsuccess
        ((state.noteExpected task).goTo .backtrack state.working state.stage)
  /-- A match is undone. -/
  | back {terminal : Symbol} {node : Index} {working : List Frame}
      {prior : Stage} (top : state.working = .matched terminal node :: working)
      (undo : Redo task prior (.matched terminal node) state.stage) :
      Move task state .back (state.goTo .backtrack working prior)
  /-- An alternative is undone, and the next one is tried. -/
  | retry {nonterminal : Symbol} {alternative : Nat} {node children : Index}
      {working : List Frame} {prior next : Stage}
      (top : state.working = .expanded nonterminal alternative node children :: working)
      (undo : Redo task prior (.expanded nonterminal alternative node children) state.stage)
      (redo : Redo task prior (.expanded nonterminal (alternative + 1) node children) next) :
      Move task state .anotherTry
        (state.goTo .normal (.expanded nonterminal (alternative + 1) node children :: working) next)
  /-- The last alternative is undone, and the search goes back further. -/
  | exhaust {nonterminal : Symbol} {alternative : Nat} {node children : Index}
      {working : List Frame} {prior : Stage}
      (top : state.working = .expanded nonterminal alternative node children :: working)
      (undo : Redo task prior (.expanded nonterminal alternative node children) state.stage)
      (last : (task.grammar.alternatives nonterminal).length = alternative)
      (others : working ≠ []) :
      Move task state .anotherTry
        ((state.noteExhausted nonterminal).goTo .backtrack working prior)
  /-- The last alternative is undone, and nothing else was done. -/
  | reject {nonterminal : Symbol} {alternative : Nat} {node children : Index}
      {prior : Stage} (top : state.working = [.expanded nonterminal alternative node children])
      (undo : Redo task prior (.expanded nonterminal alternative node children) state.stage)
      (last : (task.grammar.alternatives nonterminal).length = alternative) :
      Move task state .anotherTry
        ((state.noteExhausted nonterminal).goTo .error []
          ⟨prior.cursor, prior.input.tail, prior.tree⟩)
  /-- Nothing is left to derive, and no token is left. -/
  | success (derived : state.input = [])
      (complete : state.cursor = task.tokens.size) :
      Move task state .success (state.goTo .final state.working state.stage)

/-- The tree has no room for the alternative that an action derives.  Going back, this is the tree
without the alternative that is undone. -/
inductive Overfull (task : Task) (state : State) : Action → Prop
  /-- The first alternative of the nonterminal at the front is too long. -/
  | expand {head : Pending} {input : List Pending} {production : Production}
      {others : List Production} (front : state.input = head :: input)
      (chosen : task.grammar.alternatives head.symbol = production :: others)
      (full : ¬ state.tree.HasRoom production.length) : Overfull task state .expand
  /-- The alternative after the one that was taken last is too long. -/
  | anotherTry {nonterminal : Symbol} {alternative : Nat} {node children : Index}
      {working : List Frame} {production : Production}
      (top : state.working = .expanded nonterminal alternative node children :: working)
      (following : (task.grammar.alternatives nonterminal)[alternative]? = some production)
      (full : ¬ (state.tree.truncate children).HasRoom production.length) :
      Overfull task state .anotherTry

variable {task : Task} {action : Action} {state next : State} {prior : Stage}

/-! ### Deriving an alternative -/

/-- Where the tree has room for an alternative, it is derived. -/
theorem State.derive?_of_hasRoom {production : Production}
    (room : state.tree.HasRoom production.length) (node : Index) :
    state.derive? node production = some { state with
      input := pendingFrom state.tree.nextIndex production.symbols ++ state.input
      tree := state.tree.append node production.symbols } := by
  have grown : state.tree.append? node production.symbols =
      some (state.tree.append node production.symbols) :=
    (state.tree.append?_eq_ite (List.cons_ne_nil _ _) node).trans (if_pos room)
  rw [derive?, grown]
  rfl

theorem State.derive?_of_not_hasRoom {production : Production}
    (full : ¬ state.tree.HasRoom production.length) (node : Index) :
    state.derive? node production = none := by
  have kept : state.tree.append? node production.symbols = none :=
    (state.tree.append?_eq_ite (List.cons_ne_nil _ _) node).trans (if_neg full)
  rw [derive?, kept]
  rfl

/-! ### Undoing an alternative -/

/-- Symbols that start with their nodes in order are taken off as a whole. -/
theorem takeOff_pendingFrom (first : Index) (symbols : List Symbol) (input : List Pending) :
    takeOff first symbols.length (pendingFrom first symbols ++ input) = .ok () input := by
  induction symbols generalizing first with
  | nil => rfl
  | cons symbol symbols ih =>
    rw [pendingFrom_cons, List.cons_append, List.length_cons, takeOff, if_pos rfl]
    exact ih (first + 1)

/-- The symbols of the alternative on top of the working stack are at the front, so that taking
them away leads to the stage before it, less the nonterminal. -/
theorem discard_eq {nonterminal : Symbol} {index : Nat} {node children : Index}
    {production : Production} {working : List Frame}
    (chosen : (task.grammar.alternatives nonterminal)[index]? = some production)
    (undo : Redo task prior (.expanded nonterminal (index + 1) node children) state.stage) :
    discard nonterminal production children { state with working } =
      .ok () (state.goTo state.mode working ⟨prior.cursor, prior.input.tail, prior.tree⟩) := by
  obtain ⟨index', production', input, numbers, chosen', rfl, front, after, -⟩ :=
    redo_expanded_iff.mp undo
  obtain rfl := Nat.succ.inj numbers
  obtain rfl := Option.some.inj (chosen.symm.trans chosen')
  obtain ⟨cursor, inputs, tree⟩ := Stage.mk.inj after
  have taken := takeOff_pendingFrom prior.tree.nextIndex production.symbols input
  rw [Production.length_symbols, ← inputs] at taken
  have cut : state.tree.truncate prior.tree.nextIndex = prior.tree := undo.truncate_eq
  rw [discard]
  simp only [taken, cut, front, List.tail_cons, ← cursor]
  rfl

/-- The alternative on top of the working stack is replaced by the next one, if there is room. -/
theorem anotherTry_of_eq_some {nonterminal : Symbol} {alternative : Nat} {node children : Index}
    {working : List Frame} {production : Production}
    (top : state.working = .expanded nonterminal alternative node children :: working)
    (undo : Redo task prior (.expanded nonterminal alternative node children) state.stage)
    (following : (task.grammar.alternatives nonterminal)[alternative]? = some production) :
    anotherTry task state =
      match (state.goTo state.mode working ⟨prior.cursor, prior.input.tail, prior.tree⟩).derive?
          node production with
      | none => .overflow
      | some derived =>
        .ok () { derived.noteExpanded nonterminal (alternative + 1) node children with
          mode := .normal } := by
  obtain ⟨index, tried, input, rfl, chosen, -⟩ := redo_expanded_iff.mp undo
  generalize room :
    (state.goTo state.mode working ⟨prior.cursor, prior.input.tail, prior.tree⟩).derive?
      node production = derived
  cases derived <;>
    simp only [anotherTry, top, chosen, discard_eq chosen undo, following, room]

/-- The alternative on top of the working stack is taken back where it is the last one. -/
theorem anotherTry_of_eq_none {nonterminal : Symbol} {alternative : Nat} {node children : Index}
    {working : List Frame}
    (top : state.working = .expanded nonterminal alternative node children :: working)
    (undo : Redo task prior (.expanded nonterminal alternative node children) state.stage)
    (following : (task.grammar.alternatives nonterminal)[alternative]? = none) :
    anotherTry task state = .ok () (putBack nonterminal node
      ((state.goTo state.mode working ⟨prior.cursor, prior.input.tail, prior.tree⟩).noteExhausted
        nonterminal)) := by
  obtain ⟨index, tried, input, rfl, chosen, -⟩ := redo_expanded_iff.mp undo
  simp only [anotherTry, top, chosen, discard_eq chosen undo, following]

/-! ### What actions do -/

/-- **A move is what its action makes.** -/
theorem Move.perform_eq (h : Move task state action next) (mode : state.mode = action.mode) :
    perform task action state = .ok () next := by
  cases h with
  | @expand nonterminal node children stage redo =>
    obtain ⟨index, production, input, numbers, chosen, rfl, front, rfl, room⟩ :=
      redo_expanded_iff.mp redo
    obtain rfl := Nat.succ.inj numbers
    have kind :=
      Grammar.isNonterminal_iff.mp (Grammar.isNonterminal_of_alternatives_getElem? chosen)
    rw [State.stage_input] at front
    cases alternatives : task.grammar.alternatives nonterminal with
    | nil => simp [alternatives] at chosen
    | cons first others =>
      rw [alternatives, List.getElem?_cons_zero, Option.some.injEq] at chosen
      subst chosen
      have derived := @State.derive?_of_hasRoom { state with input } first room node
      simp only [perform, Search.expand, front, kind, alternatives, derived]
      simp [State.noteExpanded, State.goTo, mode, Action.mode]
  | @advance terminal node stage redo =>
    obtain ⟨kind, token, front, moved, same⟩ := redo_matched_iff.mp redo
    rw [State.stage_input] at front
    rw [State.stage_cursor] at token moved
    rw [State.stage_tree] at same
    simp only [perform, Search.advance, front, State.currentToken?, kind, token, and_self,
      if_true, State.moveCursor, State.noteFurthest, State.goTo, moved, same, mode, Action.mode]
  | giveUp => exact congrArg _ (State.noteExpected_eq_goTo state .backtrack task)
  | @back terminal node working prior top undo =>
    obtain ⟨kind, token, front, moved, same⟩ := redo_matched_iff.mp undo
    rw [State.stage_cursor] at moved
    rw [State.stage_input] at front
    rw [State.stage_tree] at same
    simp only [perform, Search.back, top, moved, State.goTo, front, same, mode, Action.mode]
  | @retry nonterminal alternative node children working prior stage top undo redo =>
    obtain ⟨index, production, input, numbers, chosen, rfl, front, rfl, room⟩ :=
      redo_expanded_iff.mp redo
    obtain rfl := Nat.succ.inj numbers
    rw [perform, anotherTry_of_eq_some top undo chosen, State.derive?_of_hasRoom room, front]
    rfl
  | @exhaust nonterminal alternative node children working prior top undo last others =>
    obtain ⟨index, production, input, -, -, -, front, -⟩ := redo_expanded_iff.mp undo
    rw [perform, anotherTry_of_eq_none top undo (List.getElem?_eq_none (Nat.le_of_eq last))]
    obtain ⟨frame, frames, rfl⟩ := List.exists_cons_of_ne_nil others
    simp only [putBack, State.noteExhausted, State.goTo, front, List.tail_cons, mode, Action.mode]
  | @reject nonterminal alternative node children prior top undo last =>
    rw [perform, anotherTry_of_eq_none top undo (List.getElem?_eq_none (Nat.le_of_eq last))]
    rfl
  | success derived complete =>
    rw [perform, succeed, if_pos ⟨List.isEmpty_iff.mpr derived, complete⟩]
    rfl

/-- Moves are not counted by themselves. -/
theorem Move.steps_eq (h : Move task state action next) :
    next.steps = state.steps := by
  cases h <;> simp

/-! ### Where moves can be made -/

/-- What an action that fails finds in a state whose working stack replays to where the search
stands, and the fault that says so. -/
inductive Refused (task : Task) (state : State) : Action → Fault → Prop
  /-- Nothing is left to derive or to match. -/
  | nothingToDerive {action : Action} (derived : state.input = [])
      (forward : action = .expand ∨ action = .advance) :
      Refused task state action (.nothingToDerive action)
  /-- The symbol at the front is a terminal. -/
  | expandTerminal {head : Pending} {input : List Pending} (front : state.input = head :: input)
      (kind : task.grammar.kind? head.symbol = some .terminal) :
      Refused task state .expand (.expandTerminal head.symbol)
  /-- The symbol at the front is not declared. -/
  | undeclared {head : Pending} {input : List Pending} (front : state.input = head :: input)
      (kind : task.grammar.kind? head.symbol = none) :
      Refused task state .expand (.undeclared head.symbol)
  /-- The nonterminal at the front has no alternatives. -/
  | noAlternatives {head : Pending} {input : List Pending} (front : state.input = head :: input)
      (kind : task.grammar.kind? head.symbol = some .nonterminal)
      (none : task.grammar.alternatives head.symbol = []) :
      Refused task state .expand (.noAlternatives head.symbol)
  /-- The symbol at the front is not the next token. -/
  | mismatch {head : Pending} {input : List Pending} (front : state.input = head :: input)
      (other : ¬ (task.grammar.isTerminal head.symbol ∧
        state.currentToken? task = some head.symbol)) :
      Refused task state .advance (.mismatch head.symbol (state.currentToken? task))
  /-- Nothing is done that could be undone. -/
  | nothingToUndo {action : Action} (nothing : state.working = [])
      (backward : action = .back ∨ action = .anotherTry) :
      Refused task state action .nothingToUndo
  /-- The last thing done is an expansion. -/
  | backOnNonterminal {nonterminal : Symbol} {alternative : Nat} {node children : Index}
      {working : List Frame}
      (top : state.working = .expanded nonterminal alternative node children :: working) :
      Refused task state .back (.backOnNonterminal nonterminal)
  /-- The last thing done is a match. -/
  | anotherTryOnTerminal {terminal : Symbol} {node : Index} {working : List Frame}
      (top : state.working = .matched terminal node :: working) :
      Refused task state .anotherTry (.anotherTryOnTerminal terminal)
  /-- Symbols or tokens are left. -/
  | prematureSuccess (left : ¬ (state.input.isEmpty ∧ state.cursor = task.tokens.size)) :
      Refused task state .success .prematureSuccess

/-- An alternative on top of the working stack can be undone, whether or not there is another,
unless there is no room for the other one. -/
theorem exists_anotherTry {nonterminal : Symbol} {alternative : Nat} {node children : Index}
    {working : List Frame}
    (top : state.working = .expanded nonterminal alternative node children :: working)
    (undo : Redo task prior (.expanded nonterminal alternative node children) state.stage) :
    (∃ moved, Move task state .anotherTry moved) ∨ Overfull task state .anotherTry := by
  by_cases last : (task.grammar.alternatives nonterminal).length = alternative
  · cases working with
    | nil => exact .inl ⟨_, .reject top undo last⟩
    | cons => exact .inl ⟨_, .exhaust top undo last (List.cons_ne_nil _ _)⟩
  · obtain ⟨production, following, onward⟩ := undo.exists_following last
    by_cases room : prior.tree.HasRoom production.length
    · obtain ⟨after, redo⟩ := onward room
      exact .inl ⟨_, .retry top undo redo⟩
    · have cut : state.tree.truncate children = prior.tree := undo.truncate_eq
      exact .inr (.anotherTry top following (by rwa [cut]))

/-- The nonterminal at the front can be expanded if it has an alternative, unless there is no room
for the first one. -/
theorem exists_expand {head : Pending} {input : List Pending} {production : Production}
    {others : List Production} (front : state.input = head :: input)
    (chosen : task.grammar.alternatives head.symbol = production :: others) :
    (∃ moved, Move task state .expand moved) ∨ Overfull task state .expand := by
  by_cases room : state.tree.HasRoom production.length
  · have first : (task.grammar.alternatives head.symbol)[0]? = some production := by
      rw [chosen, List.getElem?_cons_zero]
    exact .inl ⟨_, .expand (redo_expanded_iff.mpr
      ⟨0, production, input, rfl, first, rfl, front, rfl, room⟩)⟩
  · exact .inr (.expand front chosen room)

/-- **Where there is no room the search breaks off.** -/
theorem Overfull.perform_eq (h : Overfull task state action)
    (replay : Replay task state.working state.stage) : perform task action state = .overflow := by
  cases h with
  | @expand head input production others front chosen full =>
    have first : (task.grammar.alternatives head.symbol)[0]? = some production := by
      rw [chosen, List.getElem?_cons_zero]
    have kind := Grammar.isNonterminal_iff.mp (Grammar.isNonterminal_of_alternatives_getElem? first)
    have derived := @State.derive?_of_not_hasRoom { state with input } production full head.node
    simp only [perform, Search.expand, front, kind, chosen, derived]
  | anotherTry top following full =>
    rw [top] at replay
    cases replay with
    | redo earlier undo =>
      rw [← State.stage_tree, undo.truncate_eq] at full
      rw [perform, anotherTry_of_eq_some top undo following, State.derive?_of_not_hasRoom full]

/-- An action makes a move, or fails and leaves the state as it was, or has no room. -/
theorem perform_cases (action : Action) (replay : Replay task state.working state.stage) :
    (∃ moved, Move task state action moved) ∨
      (∃ fault, Refused task state action fault ∧
        perform task action state = .error fault state) ∨
      Overfull task state action := by
  cases action with
  | expand =>
    simp only [perform, Search.expand]
    split
    · rename_i derived
      exact .inr (.inl ⟨_, .nothingToDerive derived (.inl rfl), rfl⟩)
    · rename_i head input front
      split
      · rename_i kind
        exact .inr (.inl ⟨_, .expandTerminal front kind, rfl⟩)
      · rename_i kind
        exact .inr (.inl ⟨_, .undeclared front kind, rfl⟩)
      · rename_i kind
        split
        · rename_i none
          exact .inr (.inl ⟨_, .noAlternatives front kind none, rfl⟩)
        · rename_i production others alternatives
          exact (exists_expand front alternatives).imp_right .inr
  | advance =>
    simp only [perform, Search.advance]
    split
    · rename_i derived
      exact .inr (.inl ⟨_, .nothingToDerive derived (.inr rfl), rfl⟩)
    · rename_i head input front
      split
      · rename_i fits
        have redo : Redo task state.stage (.matched head.symbol head.node)
            ⟨state.cursor + 1, input, state.tree⟩ :=
          redo_matched_iff.mpr ⟨fits.1, fits.2, front, rfl, rfl⟩
        exact .inl ⟨_, .advance redo⟩
      · rename_i other
        exact .inr (.inl ⟨_, .mismatch front other, rfl⟩)
  | momentaryInsuccess => exact .inl ⟨_, .giveUp⟩
  | back =>
    cases top : state.working with
    | nil => exact .inr (.inl ⟨_, .nothingToUndo top (.inl rfl), by rw [perform, back, top]⟩)
    | cons frame working =>
      rw [top] at replay
      cases frame with
      | matched terminal node =>
        cases replay with
        | redo _ undo => exact .inl ⟨_, .back top undo⟩
      | expanded nonterminal _ _ _ =>
        exact .inr (.inl ⟨_, .backOnNonterminal top, by rw [perform, back, top]⟩)
  | anotherTry =>
    cases top : state.working with
    | nil =>
      exact .inr (.inl ⟨_, .nothingToUndo top (.inr rfl), by rw [perform, anotherTry, top]⟩)
    | cons frame working =>
      rw [top] at replay
      cases frame with
      | matched terminal node =>
        exact .inr (.inl ⟨_, .anotherTryOnTerminal top, by rw [perform, anotherTry, top]⟩)
      | expanded nonterminal alternative node children =>
        cases replay with
        | redo _ undo => exact (exists_anotherTry top undo).imp_right .inr
  | success =>
    rw [perform, succeed]
    split
    · rename_i fits
      exact .inl ⟨_, .success (List.isEmpty_iff.mp fits.1) fits.2⟩
    · rename_i left
      exact .inr (.inl ⟨_, .prematureSuccess left, rfl⟩)

end Descent.Search
