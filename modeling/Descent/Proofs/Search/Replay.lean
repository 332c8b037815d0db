import Descent.Proofs.Grammar.Leftmost
import Descent.Proofs.Tree.Growth
import Descent.Search.Step

/-!
# Replaying a search

What a search has done so far stands on its working stack.  Doing all of it once more from the
start, and nothing else, leads to the tokens matched, the symbols to be derived and the tree that
the search has now, however often it went back in between.

## Stages

What is made by doing things and taken back by undoing them is a `Search.Stage`: cursor, symbols
to derive, and tree.  The rest of a state, such as the steps taken, is not restored by going back
and is no part of it.  `Search.Redo` is doing the one thing that a frame stands for, and
`Search.Replay` all that a working stack stands for.

`Search.Replay` is by induction over the working stack from the bottom up.  A frame leads from a
stage to one other and back to one, so a working stack leads to one stage only.  All invariants of
searches are stated of replays, and a proof about them goes through two cases, a match and an
alternative, instead of six actions.
-/

namespace Descent.Search

/-- How far a search has come: what is made by doing things and taken back by undoing them. -/
@[ext] structure Stage where
  /-- The number of tokens that are matched. -/
  cursor : Nat
  /-- What is still to be derived, the next symbol first. -/
  input : List Pending
  /-- The tree of what was done so far. -/
  tree : DerivationTree

/-- The stage in which nothing is done. -/
def Stage.initial (start : Symbol) : Stage :=
  ⟨0, [⟨start, Index.first⟩], DerivationTree.ofRoot start⟩

/-- The symbols that are still to be derived. -/
def Stage.form (stage : Stage) : List Symbol := stage.input.map (·.symbol)

/-- How far a search has come in a state. -/
def State.stage (state : State) : Stage := ⟨state.cursor, state.input, state.tree⟩

@[simp] theorem State.stage_cursor (state : State) : state.stage.cursor = state.cursor := rfl

@[simp] theorem State.stage_input (state : State) : state.stage.input = state.input := rfl

@[simp] theorem State.stage_tree (state : State) : state.stage.tree = state.tree := rfl

/-- Symbols that are to be derived, with the nodes from `first` on. -/
def pendingFrom (first : Index) (symbols : List Symbol) : List Pending :=
  List.zipWith Pending.mk symbols (DerivationTree.indicesFrom first symbols.length)

@[simp] theorem pendingFrom_cons (first : Index) (symbol : Symbol) (symbols : List Symbol) :
    pendingFrom first (symbol :: symbols) = ⟨symbol, first⟩ :: pendingFrom (first + 1) symbols := by
  simp [pendingFrom, DerivationTree.indicesFrom, List.range'_succ]

@[simp] theorem map_symbol_pendingFrom (first : Index) (symbols : List Symbol) :
    (pendingFrom first symbols).map (·.symbol) = symbols := by
  induction symbols generalizing first with
  | nil => rfl
  | cons symbol symbols ih => rw [pendingFrom_cons, List.map_cons, ih]

@[simp] theorem map_node_pendingFrom (first : Index) (symbols : List Symbol) :
    (pendingFrom first symbols).map (·.node) =
      DerivationTree.indicesFrom first symbols.length := by
  induction symbols generalizing first with
  | nil => rfl
  | cons symbol symbols ih =>
    rw [pendingFrom_cons, List.map_cons, ih]
    simp [DerivationTree.indicesFrom, List.range'_succ]

/-! ### Redoing a frame -/

/-- `Redo task prior frame next` says that what `frame` stands for can be done at the stage
`prior`, and leads to the stage `next`. -/
inductive Redo (task : Task) : Stage → Frame → Stage → Prop
  /-- The terminal at the front is matched with the next token. -/
  | matched {cursor : Nat} {terminal : Symbol} {node : Index} {input : List Pending}
      {tree : DerivationTree} (isTerminal : task.grammar.isTerminal terminal)
      (token : task.tokens[cursor]? = some terminal) :
      Redo task ⟨cursor, ⟨terminal, node⟩ :: input, tree⟩ (.matched terminal node)
        ⟨cursor + 1, input, tree⟩
  /-- The nonterminal at the front is replaced by one of its alternatives, for which the tree has
  room. -/
  | expanded {cursor index : Nat} {nonterminal : Symbol} {node : Index} {input : List Pending}
      {tree : DerivationTree} {production : Production}
      (chosen : (task.grammar.alternatives nonterminal)[index]? = some production)
      (room : tree.HasRoom production.length) :
      Redo task ⟨cursor, ⟨nonterminal, node⟩ :: input, tree⟩
        (.expanded nonterminal (index + 1) node tree.nextIndex)
        ⟨cursor, pendingFrom tree.nextIndex production.symbols ++ input,
          tree.append node production.symbols⟩

variable {task : Task} {prior prior' stage next next' : Stage} {frame : Frame}
  {frames : List Frame}

/-- A frame leads from a stage to one other. -/
theorem Redo.next_unique (h : Redo task prior frame next) (h' : Redo task prior frame next') :
    next = next' := by
  cases h with
  | matched => cases h'; rfl
  | expanded chosen =>
    cases h' with
    | expanded chosen' =>
      obtain rfl := Option.some.inj (chosen.symm.trans chosen')
      rfl

/-- What a match says about the stages around it. -/
theorem redo_matched_iff {terminal : Symbol} {node : Index} :
    Redo task prior (.matched terminal node) next ↔
      task.grammar.isTerminal terminal ∧ task.tokens[prior.cursor]? = some terminal ∧
        prior.input = ⟨terminal, node⟩ :: next.input ∧ next.cursor = prior.cursor + 1 ∧
        next.tree = prior.tree := by
  constructor
  · rintro ⟨⟩
    exact ⟨‹_›, ‹_›, rfl, rfl, rfl⟩
  · obtain ⟨cursor, input, tree⟩ := prior
    obtain ⟨cursor', input', tree'⟩ := next
    rintro ⟨terminal, token, front, moved, same⟩
    dsimp only at front moved same token
    subst front moved same
    exact .matched terminal token

/-- What an expansion says about the stages around it. -/
theorem redo_expanded_iff {nonterminal : Symbol} {alternative : Nat} {node children : Index} :
    Redo task prior (.expanded nonterminal alternative node children) next ↔
      ∃ index production input, alternative = index + 1 ∧
        (task.grammar.alternatives nonterminal)[index]? = some production ∧
        children = prior.tree.nextIndex ∧ prior.input = ⟨nonterminal, node⟩ :: input ∧
        next = ⟨prior.cursor, pendingFrom children production.symbols ++ input,
          prior.tree.append node production.symbols⟩ ∧
        prior.tree.HasRoom production.length := by
  constructor
  · rintro ⟨⟩
    exact ⟨_, _, _, rfl, ‹_›, rfl, rfl, rfl, ‹_›⟩
  · obtain ⟨cursor, input, tree⟩ := prior
    rintro ⟨index, production, others, rfl, chosen, rfl, front, rfl, room⟩
    dsimp only at front
    subst front
    exact .expanded chosen room

/-- An alternative that is taken is one of those that there are. -/
theorem Redo.le_length {nonterminal : Symbol} {alternative : Nat} {node children : Index}
    (h : Redo task prior (.expanded nonterminal alternative node children) next) :
    alternative ≤ (task.grammar.alternatives nonterminal).length := by
  obtain ⟨index, production, input, rfl, chosen, -⟩ := redo_expanded_iff.mp h
  exact (List.getElem?_eq_some_iff.mp chosen).1

/-- In place of an alternative that is not the last one, the next one can be taken, unless the tree
has no room for it. -/
theorem Redo.exists_following {nonterminal : Symbol} {alternative : Nat} {node children : Index}
    (h : Redo task prior (.expanded nonterminal alternative node children) next)
    (others : (task.grammar.alternatives nonterminal).length ≠ alternative) :
    ∃ production, (task.grammar.alternatives nonterminal)[alternative]? = some production ∧
      (prior.tree.HasRoom production.length → ∃ following,
        Redo task prior (.expanded nonterminal (alternative + 1) node children) following) := by
  have inside : alternative < (task.grammar.alternatives nonterminal).length :=
    Nat.lt_of_le_of_ne h.le_length (Ne.symm others)
  obtain ⟨index, production, input, rfl, -, first, front, -⟩ := redo_expanded_iff.mp h
  have chosen := List.getElem?_eq_getElem inside
  exact ⟨_, chosen, fun room => ⟨_, redo_expanded_iff.mpr
    ⟨index + 1, _, input, rfl, chosen, first, front, rfl, room⟩⟩⟩

/-- Undoing an alternative cuts the tree where its children start. -/
theorem Redo.truncate_eq {nonterminal : Symbol} {alternative : Nat} {node children : Index}
    (h : Redo task prior (.expanded nonterminal alternative node children) next) :
    next.tree.truncate children = prior.tree := by
  obtain ⟨index, production, input, -, -, rfl, -, rfl, -⟩ := redo_expanded_iff.mp h
  rw [DerivationTree.nextIndex, DerivationTree.truncate_append]

/-- A frame is undone in one way. -/
theorem Redo.prior_unique (h : Redo task prior frame next) (h' : Redo task prior' frame next) :
    prior = prior' := by
  cases frame with
  | matched terminal node =>
    obtain ⟨-, -, front, moved, same⟩ := redo_matched_iff.mp h
    obtain ⟨-, -, front', moved', same'⟩ := redo_matched_iff.mp h'
    exact Stage.ext (Nat.succ.inj (moved.symm.trans moved')) (front.trans front'.symm)
      (same.symm.trans same')
  | expanded nonterminal alternative node children =>
    obtain ⟨index, production, input, rfl, chosen, -, front, same, -⟩ := redo_expanded_iff.mp h
    obtain ⟨index', production', input', numbers, chosen', -, front', stages, -⟩ :=
      redo_expanded_iff.mp h'
    obtain rfl := Nat.succ.inj numbers
    obtain rfl := Option.some.inj (chosen.symm.trans chosen')
    rw [same, Stage.mk.injEq] at stages
    obtain ⟨cursors, inputs, -⟩ := stages
    obtain rfl := List.append_cancel_left inputs
    -- Both trees are what is left of the grown one where the children start.
    have cut : prior.tree = prior'.tree := h.truncate_eq.symm.trans h'.truncate_eq
    exact Stage.ext cursors (front.trans front'.symm) cut

/-! ### Replaying a working stack -/

/-- `Replay task frames stage` says that doing again what `frames` stand for, the last one first,
leads from the start to `stage`. -/
inductive Replay (task : Task) : List Frame → Stage → Prop
  /-- Nothing is done. -/
  | start : Replay task [] (.initial task.grammar.start)
  /-- One thing more is done. -/
  | redo {frame : Frame} {frames : List Frame} {prior next : Stage}
      (h : Replay task frames prior) (step : Redo task prior frame next) :
      Replay task (frame :: frames) next

/-- A working stack leads to one stage. -/
theorem Replay.stage_unique (h : Replay task frames stage) (h' : Replay task frames next) :
    stage = next := by
  induction h generalizing next with
  | start => cases h'; rfl
  | redo _ step ih =>
    cases h' with
    | redo earlier step' =>
      obtain rfl := ih earlier
      exact step.next_unique step'

/-- No more tokens are matched than there are. -/
theorem Replay.cursor_le (h : Replay task frames stage) : stage.cursor ≤ task.tokens.size := by
  induction h with
  | start => exact Nat.zero_le _
  | redo _ step ih =>
    cases step with
    | matched _ token => exact (Array.getElem?_eq_some_iff.mp token).1
    | expanded => exact ih

end Descent.Search
