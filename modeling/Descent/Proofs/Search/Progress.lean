import Descent.Proofs.Grammar.LeftCorner
import Descent.Proofs.Search.Invariant

/-!
# Faults that never come up

Some faults would show that the grammar was not checked, or that a search lost track of what it
did.  No call ever fails with one of these.  A search that is left to itself does not fail at all
before it is over or may take no more steps.

It may break off, as its tree may have no room for the alternative that comes next.  This takes a
tree that is full up to the length of one alternative, and each step adds no more nodes than that,
so `Overfull.not_lt` says how many steps a search takes at least before it can happen.  That it
does happen, and then, is shown by a grammar whose start symbol stands first in its own first
alternative: `exists_overflow_of_first`.
-/

namespace Descent.Search

variable {task : Task} {action : Action} {state moved next : State} {frames : List Frame}
  {stage : Stage} {fault : Fault}

/-! ### Going forward -/

/-- Only reachable symbols are ever to be derived, and only such symbols were matched or
replaced. -/
theorem Replay.reachable (replay : Replay task frames stage) :
    (∀ pending ∈ stage.input, task.grammar.Reachable pending.symbol) ∧
      ∀ frame ∈ frames, task.grammar.Reachable frame.symbol := by
  induction replay with
  | start =>
    refine ⟨fun pending mem => ?_, nofun⟩
    rw [List.mem_singleton.mp mem]
    exact .refl
  | redo _ step ih =>
    obtain ⟨ahead, done⟩ := ih
    cases step with
    | matched =>
      obtain ⟨front, later⟩ := List.forall_mem_cons.mp ahead
      exact ⟨later, List.forall_mem_cons.mpr ⟨front, done⟩⟩
    | @expanded cursor index nonterminal node input tree production chosen =>
      obtain ⟨front, later⟩ := List.forall_mem_cons.mp ahead
      refine ⟨fun pending mem => ?_, List.forall_mem_cons.mpr ⟨front, done⟩⟩
      rcases List.mem_append.mp mem with mem | mem
      · refine front.of_mem_symbols (List.mem_of_getElem? chosen) ?_
        rw [← map_symbol_pendingFrom tree.nextIndex production.symbols]
        exact List.mem_map_of_mem mem
      · exact later pending mem

/-- The symbols to be derived are declared, and found from the start symbol if they are
nonterminals. -/
theorem Replay.pending_reachable (replay : Replay task frames stage)
    (usable : task.grammar.Usable) :
    ∀ pending ∈ stage.input, task.grammar.kind? pending.symbol ≠ none ∧
      (task.grammar.isNonterminal pending.symbol →
        pending.symbol ∈ task.grammar.reachable) := by
  intro pending mem
  have reached := replay.reachable.1 pending mem
  exact ⟨reached.declared usable, fun nonterminal =>
    (Grammar.mem_reachable_iff usable.start).mpr ⟨nonterminal, reached⟩⟩

/-- A search goes on forward in every state, unless there is no room. -/
theorem exists_forward (replay : Replay task state.working state.stage)
    (usable : task.grammar.Usable) :
    ∃ action, nextForward task state = .ok action ∧ action.mode = .normal ∧
      ((∃ moved, Move task state action moved) ∨ Overfull task state action) := by
  cases front : state.input with
  | nil =>
    by_cases complete : state.cursor = task.tokens.size
    · exact ⟨.success, by rw [nextForward, front]; exact congrArg _ (if_pos complete), rfl,
        .inl ⟨_, .success front complete⟩⟩
    · exact ⟨.momentaryInsuccess, by rw [nextForward, front]; exact congrArg _ (if_neg complete),
        rfl, .inl ⟨_, .giveUp⟩⟩
  | cons head input =>
    obtain ⟨declared, -⟩ := replay.pending_reachable usable head (by
      rw [State.stage_input, front]
      exact List.mem_cons_self)
    cases kind : task.grammar.kind? head.symbol with
    | none => exact absurd kind declared
    | some found =>
      cases found with
      | terminal =>
        by_cases token : state.currentToken? task = some head.symbol
        · have redo : Redo task state.stage (.matched head.symbol head.node)
              ⟨state.cursor + 1, input, state.tree⟩ :=
            redo_matched_iff.mpr ⟨Grammar.isTerminal_iff.mpr kind, token, front, rfl, rfl⟩
          refine ⟨.advance, ?_, rfl, .inl ⟨_, .advance redo⟩⟩
          simp only [nextForward, front, kind, if_pos token]
        · refine ⟨.momentaryInsuccess, ?_, rfl, .inl ⟨_, .giveUp⟩⟩
          simp only [nextForward, front, kind, if_neg token]
      | nonterminal =>
        obtain ⟨production, others, alternatives⟩ :=
          List.exists_cons_of_ne_nil (usable.alternatives (Grammar.isNonterminal_iff.mpr kind))
        refine ⟨.expand, ?_, rfl, exists_expand front alternatives⟩
        simp only [nextForward, front, kind]

/-- A search with nothing done yet starts with an expansion. -/
theorem nextForward_of_working_eq_nil (replay : Replay task state.working state.stage)
    (usable : task.grammar.Usable) (nothing : state.working = []) :
    nextForward task state = .ok .expand := by
  rw [nothing] at replay
  generalize same : state.stage = stage at replay
  cases replay
  have front : state.input = [⟨task.grammar.start, Index.first⟩] := congrArg Stage.input same
  simp only [nextForward, front, Grammar.isNonterminal_iff.mp usable.start]

/-! ### Internal faults -/

/-- Going back there is something to undo. -/
theorem working_ne_nil_of_backtrack (h : ReachedBySteps task state) :
    state.mode = .backtrack → state.working ≠ [] := by
  have usable := h.reached.usable
  refine h.of_moves (motive := fun state => state.mode = .backtrack → state.working ≠ []) nofun
    fun {state action moved} replay mode chosen move _ back => ?_
  cases move with
  | expand | retry | reject | success => cases back
  | advance => simp at back
  | giveUp =>
    intro nothing
    rw [nextAction, mode] at chosen
    have forward : nextForward task state = .ok .momentaryInsuccess := chosen
    rw [nextForward_of_working_eq_nil replay usable nothing] at forward
    cases forward
  | @back terminal node working prior top undo =>
    -- The first thing done is never a match, since the start symbol is a nonterminal.
    intro nothing
    obtain rfl : working = [] := nothing
    rw [top] at replay
    have earlier := replay.of_undo undo
    obtain ⟨kind, -, front, -⟩ := redo_matched_iff.mp undo
    cases earlier
    obtain rfl : task.grammar.start = terminal := congrArg Pending.symbol (List.cons.inj front).1
    exact absurd usable.start (Grammar.not_isNonterminal_of_isTerminal kind)
  | exhaust top undo last others => exact others

/-- **A search that is left to itself makes a move** until it is over, unless there is no room. -/
theorem exists_action_of_reachedBySteps (h : ReachedBySteps task state)
    (going : state.mode.isHalted = false) :
    ∃ action, nextAction task state = .ok action ∧ state.mode = action.mode ∧
      ((∃ moved, Move task state action moved) ∨ Overfull task state action) := by
  have sound := h.reached.sound
  cases mode : state.mode with
  | normal =>
    have replay := sound.replay (by rw [mode]; decide)
    obtain ⟨action, forward, normal, move⟩ := exists_forward replay h.reached.usable
    exact ⟨action, by rw [nextAction, mode, forward], normal.symm, move⟩
  | backtrack =>
    have replay := sound.replay (by rw [mode]; decide)
    obtain ⟨frame, working, top⟩ :=
      List.exists_cons_of_ne_nil (working_ne_nil_of_backtrack h mode)
    rw [top] at replay
    cases replay with
    | redo earlier undo =>
      cases frame with
      | matched terminal node =>
        exact ⟨.back, by simp only [nextAction, mode, top], rfl, .inl ⟨_, .back top undo⟩⟩
      | expanded nonterminal alternative node children =>
        exact ⟨.anotherTry, by simp only [nextAction, mode, top], rfl, exists_anotherTry top undo⟩
  | error | final =>
    rw [mode] at going
    cases going

/-- Steps that fail leave the search where it is. -/
theorem reachedBySteps_of_afterCalls {first : State} {count : Nat}
    (started : start task = .ok first) (left : afterCalls? task first count = some state) :
    ReachedBySteps task state := by
  induction count generalizing state with
  | zero =>
    cases left
    exact .start started
  | succ count ih =>
    obtain ⟨before, earlier, last⟩ := Option.bind_eq_some_iff.mp left
    have reached := ih earlier
    rcases reached.reached.sound.eq_or_move_of_step last with rfl | ⟨action, taken, -⟩
    · exact reached
    · exact .step reached taken

/-- A step fails only where no more steps are allowed or the search is over. -/
theorem fault_of_step_eq_error (h : ReachedBySteps task state)
    (failed : step task state = .error fault next) :
    (∃ limit, task.limit = some limit ∧ limit ≤ state.steps ∧ fault = .limitReached limit) ∨
      state.mode.isHalted ∧ fault = .halted state.mode := by
  cases reached : reachedLimit? task state with
  | some limit =>
    rw [step, reached] at failed
    cases failed
    obtain ⟨limited, enough⟩ := Option.filter_eq_some_iff.mp reached
    exact .inl ⟨limit, limited, of_decide_eq_true enough, rfl⟩
  | none =>
    cases going : state.mode.isHalted with
    | false =>
      obtain ⟨action, chosen, mode, ⟨moved, move⟩ | full⟩ := exists_action_of_reachedBySteps h going
      · rw [move.step_eq mode reached chosen] at failed
        cases failed
      · have replay := h.reached.sound.replay_of_mode mode
        rw [full.step_eq mode replay reached chosen] at failed
        cases failed
    | true =>
      have ended : nextAction task state = .error (.halted state.mode) := by
        rcases Mode.isHalted_iff.mp going with mode | mode
        · rw [nextAction, mode]
        · rw [nextAction, mode]
      rw [step, reached, ended] at failed
      cases failed
      exact .inr ⟨rfl, rfl⟩

/-- A step breaks off only where there is no room for the next action. -/
theorem overfull_of_step_eq_overflow (reached : Reached task state)
    (broken : step task state = .overflow) :
    ∃ action, nextAction task state = .ok action ∧ Overfull task state action := by
  rcases step_cases reached.sound with
    ⟨action, -, -, moved, -, taken⟩ | ⟨fault, failed⟩ | ⟨action, chosen, full, -⟩
  · rw [taken] at broken
    cases broken
  · rw [failed] at broken
    cases broken
  · exact ⟨action, chosen, full⟩

/-! ### How long there is room -/

/-- No alternative of a grammar is longer than `width`. -/
def Narrow (grammar : Grammar) (width : Nat) : Prop :=
  ∀ rule ∈ grammar.rules, ∀ production ∈ rule.alternatives, production.length ≤ width

theorem Narrow.length_le {grammar : Grammar} {width : Nat} (narrow : Narrow grammar width)
    {symbol : Symbol} {production : Production} (mem : production ∈ grammar.alternatives symbol) :
    production.length ≤ width := by
  unfold Grammar.alternatives at mem
  split at mem
  · cases mem
  · rename_i rule found
    exact narrow rule (List.mem_of_find?_eq_some found) production mem

/-- Doing a thing adds the nodes of one alternative at most. -/
theorem Redo.size_le {prior after : Stage} {frame : Frame} {width : Nat}
    (redo : Redo task prior frame after) (narrow : Narrow task.grammar width) :
    prior.tree.size ≤ after.tree.size ∧ after.tree.size ≤ prior.tree.size + width := by
  cases redo with
  | matched => exact ⟨Nat.le_refl _, Nat.le_add_right _ _⟩
  | expanded chosen =>
    have short := narrow.length_le (List.mem_of_getElem? chosen)
    rw [DerivationTree.size_append, Production.length_symbols]
    exact ⟨Nat.le_add_right _ _, Nat.add_le_add_left short _⟩

/-- A move adds the nodes of one alternative at most. -/
theorem Move.size_le {width : Nat} (h : Move task state action moved)
    (narrow : Narrow task.grammar width) : moved.tree.size ≤ state.tree.size + width := by
  cases h with
  | expand redo => exact (redo.size_le narrow).2
  | advance redo =>
    rw [← State.stage_tree, State.stage_noteFurthest]
    exact (redo.size_le narrow).2
  | giveUp | success => exact Nat.le_add_right _ _
  | back top undo | exhaust top undo | reject top undo =>
    exact (undo.size_le narrow).1.trans (Nat.le_add_right _ _)
  | retry top undo redo =>
    exact (redo.size_le narrow).2.trans (Nat.add_le_add_right (undo.size_le narrow).1 _)

/-- A tree grows by the nodes of one alternative in each step at most. -/
theorem ReachedBySteps.size_le {width : Nat} (h : ReachedBySteps task state)
    (narrow : Narrow task.grammar width) : state.tree.size ≤ 1 + state.steps * width := by
  refine h.of_moves (motive := fun state => state.tree.size ≤ 1 + state.steps * width)
    (Nat.le_add_right _ _) fun {state action moved} _ _ _ move known => ?_
  have grown := move.size_le narrow
  rw [State.steps_counted, move.steps_eq, Nat.succ_mul]
  exact grown.trans (by omega)

/-- **A search does not run out of room before so many steps.** -/
theorem Overfull.not_lt {width : Nat} (full : Overfull task state action)
    (h : ReachedBySteps task state) (narrow : Narrow task.grammar width) :
    ¬ 1 + (state.steps + 1) * width < Index.last := by
  intro early
  have known := h.size_le narrow
  rw [Nat.succ_mul] at early
  cases full with
  | @expand head input production others front chosen full =>
    have short : production.length ≤ width :=
      narrow.length_le (by rw [chosen]; exact List.mem_cons_self)
    refine full ?_
    rw [DerivationTree.HasRoom]
    omega
  | @anotherTry nonterminal alternative node children working production top following full =>
    have short := narrow.length_le (List.mem_of_getElem? following)
    refine full ?_
    rw [DerivationTree.HasRoom, DerivationTree.size_truncate]
    omega

/-- The start symbol is at the front, and the tree holds an alternative for each step. -/
structure Repeating (task : Task) (production : Production) (state : State) : Prop where
  /-- The search goes forward. -/
  mode : state.mode = .normal
  /-- The start symbol is next. -/
  front : ∃ node input, state.input = ⟨task.grammar.start, node⟩ :: input
  /-- Every step added the nodes of the alternative. -/
  size : state.tree.size = 1 + state.steps * production.length

/-- Where the first alternative of the start symbol starts with this symbol again, taking it leads
back to where the start symbol is at the front, unless there is no room. -/
theorem Repeating.step_cases {production : Production} {others : List Production}
    (h : Repeating task production state) (reached : Reached task state)
    (unlimited : task.limit = none)
    (chosen : task.grammar.alternatives task.grammar.start = production :: others)
    (again : production.first = task.grammar.start) :
    (state.tree.HasRoom production.length ∧
      ∃ next, step task state = .ok .expand next ∧ next.steps = state.steps + 1 ∧
        Repeating task production next) ∨
      ¬ state.tree.HasRoom production.length ∧ step task state = .overflow := by
  obtain ⟨node, input, front⟩ := h.front
  have first : (task.grammar.alternatives task.grammar.start)[0]? = some production := by
    rw [chosen, List.getElem?_cons_zero]
  have kind := Grammar.isNonterminal_iff.mp (Grammar.isNonterminal_of_alternatives_getElem? first)
  have next : nextAction task state = .ok .expand := by
    simp only [nextAction, h.mode, nextForward, front, kind]
  have free := reachedLimit?_eq_none unlimited state
  by_cases room : state.tree.HasRoom production.length
  · have redo : Redo task state.stage
        (.expanded task.grammar.start 1 node state.tree.nextIndex)
        ⟨state.cursor, pendingFrom state.tree.nextIndex production.symbols ++ input,
          state.tree.append node production.symbols⟩ :=
      redo_expanded_iff.mpr ⟨0, production, input, rfl, first, rfl, front, rfl, room⟩
    refine .inl ⟨room, _, (Move.expand redo).step_eq h.mode free next, rfl, rfl, ?_, ?_⟩
    · exact ⟨state.tree.nextIndex, pendingFrom (state.tree.nextIndex + 1) production.rest ++ input,
        by simp only [← again]; rfl⟩
    · show (state.tree.append node production.symbols).size = _
      rw [DerivationTree.size_append, Production.length_symbols, h.size, State.steps_counted,
        State.steps_goTo, Nat.succ_mul, Nat.add_assoc]
  · have full : Overfull task state .expand := .expand front chosen room
    have mode : state.mode = Action.expand.mode := h.mode
    exact .inr ⟨room, full.step_eq mode (reached.sound.replay_of_mode mode) free next⟩

/-- As long as there is room, every step takes the first alternative of the start symbol. -/
theorem exists_repeating {production : Production} {others : List Production}
    (usable : task.grammar.Usable) (unlimited : task.limit = none)
    (chosen : task.grammar.alternatives task.grammar.start = production :: others)
    (again : production.first = task.grammar.start) (count : Nat)
    (room : 1 + count * production.length < Index.last) :
    ∃ state, afterCalls? task (.initial task.grammar.start) count = some state ∧
      state.steps = count ∧ Repeating task production state := by
  induction count with
  | zero =>
    refine ⟨_, rfl, rfl, rfl, ⟨_, _, rfl⟩, ?_⟩
    show 1 = 1 + 0 * production.length
    rw [Nat.zero_mul]
  | succ count ih =>
    rw [Nat.succ_mul, ← Nat.add_assoc] at room
    obtain ⟨state, left, rfl, repeating⟩ := ih (Nat.lt_of_le_of_lt (Nat.le_add_right _ _) room)
    have reached := (reachedBySteps_of_afterCalls (start_eq usable) left).reached
    rcases repeating.step_cases reached unlimited chosen again with
      ⟨-, next, taken, counted, onward⟩ | ⟨full, -⟩
    · refine ⟨next, ?_, counted, onward⟩
      rw [afterCalls?, left, Option.bind_some, taken]
      rfl
    · rw [DerivationTree.HasRoom, repeating.size] at full
      exact absurd room full

/-- **A search can run out of room.**  Where the first alternative of the start symbol starts with
this symbol again, a search that may take any number of steps takes this alternative until the tree
is full, whatever the tokens are.  So no more steps are safe than `Overfull.not_lt` says. -/
theorem exists_overflow_of_first {production : Production} {others : List Production}
    (usable : task.grammar.Usable) (unlimited : task.limit = none)
    (chosen : task.grammar.alternatives task.grammar.start = production :: others)
    (again : production.first = task.grammar.start) :
    ∃ count state, afterCalls? task (.initial task.grammar.start) count = some state ∧
      step task state = .overflow ∧ 1 + count * production.length < Index.last ∧
      ¬ 1 + (count + 1) * production.length < Index.last := by
  have one : 1 ≤ production.length := Nat.le_add_left 1 _
  obtain ⟨count, room, full⟩ : ∃ count, 1 + count * production.length < Index.last ∧
      ¬ 1 + (count + 1) * production.length < Index.last := by
    have below := Nat.div_mul_le_self (Index.last - 2) production.length
    have above := (Nat.div_lt_iff_lt_mul one).mp
      (Nat.lt_succ_self ((Index.last - 2) / production.length))
    exact ⟨(Index.last - 2) / production.length,
      Nat.lt_of_le_of_lt (Nat.add_le_add_left below 1) (by decide),
      Nat.not_lt_of_le (Nat.add_le_add_left above 1)⟩
  obtain ⟨state, left, rfl, repeating⟩ :=
    exists_repeating usable unlimited chosen again count room
  have reached := (reachedBySteps_of_afterCalls (start_eq usable) left).reached
  rcases repeating.step_cases reached unlimited chosen again with ⟨more, -⟩ | ⟨-, broken⟩
  · rw [DerivationTree.HasRoom, repeating.size, Nat.add_assoc, ← Nat.succ_mul] at more
    exact absurd more full
  · exact ⟨state.steps, state, left, broken, room, full⟩

end Descent.Search
