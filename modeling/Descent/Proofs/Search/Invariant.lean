import Descent.Proofs.Grammar.Usable
import Descent.Proofs.Search.Move
import Descent.Search.Reached

/-!
# What holds of every reached state

Whatever actions are asked for in whatever order, the working stack replays to where the search
stands.  Once the tokens are rejected nothing is left of what was done, and when they are accepted
nothing is left to do.  This is `Search.Sound`, and with it every call on a reached state makes a
move, fails, or breaks off.

A call that fails leaves the state as it was.  This is not plain from the definitions: `discard`
takes symbols off before it finds out that they are not the right ones.  On a reached state they
always are.

For states that a search reaches which is left to itself there is an induction over the moves that
it chooses, `Search.ReachedBySteps.of_moves`.
-/

namespace Descent.Search

/-- What holds of every reached state. -/
structure Sound (task : Task) (state : State) : Prop where
  /-- Doing what is on the working stack leads to where the search stands. -/
  replay : state.mode ≠ .error → Replay task state.working state.stage
  /-- Nothing is left of what was done when the tokens are rejected. -/
  rejected : state.mode = .error →
    state.working = [] ∧ state.stage = ⟨0, [], DerivationTree.ofRoot task.grammar.start⟩
  /-- Nothing is left to do when they are accepted. -/
  accepted : state.mode = .final → state.input = [] ∧ state.cursor = task.tokens.size

variable {task : Task} {state next moved : State} {action : Action}

/-! ### Calls -/

theorem Mode.isHalted_iff {mode : Mode} : mode.isHalted ↔ mode = .error ∨ mode = .final := by
  cases mode <;> decide

@[simp] theorem Action.isHalted_mode (action : Action) : action.mode.isHalted = false := by
  cases action <;> rfl

/-- Where an action is taken nothing was rejected. -/
theorem Sound.replay_of_mode (h : Sound task state) (mode : state.mode = action.mode) :
    Replay task state.working state.stage := by
  refine h.replay ?_
  rw [mode]
  cases action <;> decide

/-- Taking an action that makes a move. -/
theorem Move.apply_eq (h : Move task state action moved) (mode : state.mode = action.mode) :
    apply task action state = .ok () moved.counted := by
  rw [apply, mode, if_neg (by simp), if_neg (by simp), h.perform_eq mode]
  rfl

/-- Where steps are not limited, no limit is ever reached. -/
theorem reachedLimit?_eq_none (unlimited : task.limit = none) (state : State) :
    reachedLimit? task state = none := by
  rw [reachedLimit?, unlimited]
  rfl

/-- Taking the next step where it makes a move. -/
theorem Move.step_eq (h : Move task state action moved) (mode : state.mode = action.mode)
    (unlimited : reachedLimit? task state = none) (chosen : nextAction task state = .ok action) :
    step task state = .ok action moved.counted := by
  rw [step, unlimited, chosen]
  simp only [h.apply_eq mode]

/-- Taking an action that the tree has no room for. -/
theorem Overfull.apply_eq (h : Overfull task state action) (mode : state.mode = action.mode)
    (replay : Replay task state.working state.stage) : apply task action state = .overflow := by
  rw [apply, mode, if_neg (by simp), if_neg (by simp), h.perform_eq replay]

/-- Taking the next step where the tree has no room for it. -/
theorem Overfull.step_eq (h : Overfull task state action) (mode : state.mode = action.mode)
    (replay : Replay task state.working state.stage) (unlimited : reachedLimit? task state = none)
    (chosen : nextAction task state = .ok action) : step task state = .overflow := by
  rw [step, unlimited, chosen]
  simp only [h.apply_eq mode replay]

/-- Taking an action makes a move, or fails and leaves the state as it was, or has no room. -/
theorem apply_cases (action : Action) (sound : Sound task state) :
    (state.mode = action.mode ∧ ∃ moved, Move task state action moved ∧
      apply task action state = .ok () moved.counted) ∨
      (∃ fault, apply task action state = .error fault state) ∨
      state.mode = action.mode ∧ Overfull task state action ∧
        apply task action state = .overflow := by
  by_cases halted : state.mode.isHalted
  · exact .inr (.inl ⟨_, by rw [apply, if_pos halted]⟩)
  by_cases mode : action.mode = state.mode
  · have replay := sound.replay_of_mode mode.symm
    rcases perform_cases action replay with ⟨moved, move⟩ | ⟨fault, -, failed⟩ | full
    · exact .inl ⟨mode.symm, moved, move, move.apply_eq mode.symm⟩
    · refine .inr (.inl ⟨fault, ?_⟩)
      rw [apply, if_neg halted, if_neg (not_not_intro mode), failed]
    · exact .inr (.inr ⟨mode.symm, full, full.apply_eq mode.symm replay⟩)
  · exact .inr (.inl ⟨_, by rw [apply, if_neg halted, if_pos mode]⟩)

/-- Taking the next step makes the move of the next action, or fails and leaves the state as it
was, or has no room. -/
theorem step_cases (sound : Sound task state) :
    (∃ action, nextAction task state = .ok action ∧ state.mode = action.mode ∧
      ∃ moved, Move task state action moved ∧ step task state = .ok action moved.counted) ∨
      (∃ fault, step task state = .error fault state) ∨
      ∃ action, nextAction task state = .ok action ∧ Overfull task state action ∧
        step task state = .overflow := by
  cases reached : reachedLimit? task state with
  | some limit => exact .inr (.inl ⟨_, by rw [step, reached]⟩)
  | none =>
    cases chosen : nextAction task state with
    | error fault => exact .inr (.inl ⟨_, by rw [step, reached, chosen]⟩)
    | ok action =>
      rcases apply_cases action sound with
        ⟨mode, moved, move, -⟩ | ⟨fault, failed⟩ | ⟨mode, full, -⟩
      · exact .inl ⟨action, rfl, mode, moved, move, move.step_eq mode reached chosen⟩
      · refine .inr (.inl ⟨fault, ?_⟩)
        rw [step, reached, chosen]
        simp only [failed]
      · have replay := sound.replay_of_mode mode
        exact .inr (.inr ⟨action, rfl, full, full.step_eq mode replay reached chosen⟩)

/-- An action that was taken made its move. -/
theorem Sound.exists_move_of_apply (sound : Sound task state)
    (taken : apply task action state = .ok () next) :
    state.mode = action.mode ∧ ∃ moved, Move task state action moved ∧ next = moved.counted := by
  rcases apply_cases action sound with ⟨mode, moved, move, made⟩ | ⟨fault, failed⟩ | ⟨-, -, broken⟩
  · rw [made] at taken
    cases taken
    exact ⟨mode, moved, move, rfl⟩
  · rw [failed] at taken
    cases taken
  · rw [broken] at taken
    cases taken

/-- A step that was taken made the move of the next action. -/
theorem Sound.exists_move_of_step (sound : Sound task state)
    (taken : step task state = .ok action next) :
    nextAction task state = .ok action ∧ state.mode = action.mode ∧
      ∃ moved, Move task state action moved ∧ next = moved.counted := by
  rcases step_cases sound with
    ⟨action', chosen, mode, moved, move, made⟩ | ⟨fault, failed⟩ | ⟨action', -, -, broken⟩
  · rw [made] at taken
    cases taken
    exact ⟨chosen, mode, moved, move, rfl⟩
  · rw [failed] at taken
    cases taken
  · rw [broken] at taken
    cases taken

/-- What an action leaves is what its move makes, or what was there before. -/
theorem Sound.eq_or_move_of_apply (sound : Sound task state)
    (left : (apply task action state).state? = some next) :
    next = state ∨ state.mode = action.mode ∧
      ∃ moved, Move task state action moved ∧ next = moved.counted := by
  rcases apply_cases action sound with ⟨mode, moved, move, taken⟩ | ⟨fault, failed⟩ | ⟨-, -, broken⟩
  · rw [taken] at left
    cases left
    exact .inr ⟨mode, moved, move, rfl⟩
  · rw [failed] at left
    cases left
    exact .inl rfl
  · rw [broken] at left
    cases left

/-- What a step leaves is what the move of the next action makes, or what was there before. -/
theorem Sound.eq_or_move_of_step (sound : Sound task state)
    (left : (step task state).state? = some next) :
    next = state ∨ ∃ action, step task state = .ok action next ∧ state.mode = action.mode ∧
      ∃ moved, Move task state action moved ∧ next = moved.counted := by
  rcases step_cases sound with
    ⟨action, -, mode, moved, move, taken⟩ | ⟨fault, failed⟩ | ⟨-, -, -, broken⟩
  · rw [taken] at left
    cases left
    exact .inr ⟨action, taken, mode, moved, move, rfl⟩
  · rw [failed] at left
    cases left
    exact .inl rfl
  · rw [broken] at left
    cases left

/-! ### The invariant -/

/-- A search starts with nothing done. -/
theorem sound_initial : Sound task (State.initial task.grammar.start) where
  replay _ := .start
  rejected h := nomatch h
  accepted h := nomatch h

/-- What leads to the stage before a thing was done, when the thing is taken off. -/
theorem Replay.of_undo {frame : Frame} {frames : List Frame} {prior stage : Stage}
    (h : Replay task (frame :: frames) stage) (undo : Redo task prior frame stage) :
    Replay task frames prior := by
  cases h with
  | redo earlier last =>
    rw [undo.prior_unique last]
    exact earlier

/-- **Moves keep the invariant.** -/
theorem Move.sound (h : Move task state action moved)
    (replay : Replay task state.working state.stage) : Sound task moved := by
  cases h with
  | expand redo => exact ⟨fun _ => .redo replay redo, nofun, nofun⟩
  | advance redo => exact ⟨fun _ => by simpa using .redo replay redo, by simp, by simp⟩
  | giveUp => exact ⟨fun _ => replay, nofun, nofun⟩
  | back top undo =>
    rw [top] at replay
    exact ⟨fun _ => replay.of_undo undo, nofun, nofun⟩
  | retry top undo redo =>
    rw [top] at replay
    exact ⟨fun _ => .redo (replay.of_undo undo) redo, nofun, nofun⟩
  | exhaust top undo last others =>
    rw [top] at replay
    exact ⟨fun _ => replay.of_undo undo, nofun, nofun⟩
  | reject top undo last =>
    rw [top] at replay
    refine ⟨nofun, fun _ => ⟨rfl, ?_⟩, nofun⟩
    cases replay.of_undo undo
    rfl
  | success derived complete => exact ⟨fun _ => replay, nofun, fun _ => ⟨derived, complete⟩⟩

theorem Sound.counted (h : Sound task state) : Sound task state.counted :=
  ⟨h.replay, h.rejected, h.accepted⟩

/-- **The invariant holds of every reached state**, whatever was asked for. -/
theorem Reached.sound (h : Reached task state) : Sound task state := by
  induction h with
  | start started =>
    rw [(eq_initial_of_start started).2]
    exact sound_initial
  | step _ left ih =>
    rcases ih.eq_or_move_of_step left with rfl | ⟨action, -, mode, moved, move, rfl⟩
    · exact ih
    · exact (move.sound (ih.replay_of_mode mode)).counted
  | apply action _ left ih =>
    rcases ih.eq_or_move_of_apply left with rfl | ⟨mode, moved, move, rfl⟩
    · exact ih
    · exact (move.sound (ih.replay_of_mode mode)).counted

/-- A search can start if nothing is missing in the grammar. -/
theorem start_eq (usable : task.grammar.Usable) :
    start task = .ok (.initial task.grammar.start) := by
  rw [start, check_eq_none_iff_usable.mpr usable]

theorem Reached.usable (h : Reached task state) : task.grammar.Usable := by
  induction h with
  | start started => exact check_eq_none_iff_usable.mp (eq_initial_of_start started).1
  | step _ _ ih => exact ih
  | apply _ _ _ ih => exact ih

/-- **A call that fails changes nothing**, whatever was asked for before, and whatever it asks
for. -/
theorem eq_of_failed (task : Task) (state : State) (reached : Reached task state) (fault : Fault)
    (next : State) :
    (∀ action, apply task action state = .error fault next → next = state) ∧
      (step task state = .error fault next → next = state) := by
  refine ⟨fun action failed => ?_, fun failed => ?_⟩
  · rcases apply_cases action reached.sound with
      ⟨-, moved, -, taken⟩ | ⟨fault', left⟩ | ⟨-, -, broken⟩
    · rw [taken] at failed
      cases failed
    · rw [left] at failed
      cases failed
      rfl
    · rw [broken] at failed
      cases failed
  · rcases step_cases reached.sound with
      ⟨action, -, -, moved, -, taken⟩ | ⟨fault', left⟩ | ⟨action, -, -, broken⟩
    · rw [taken] at failed
      cases failed
    · rw [left] at failed
      cases failed
      rfl
    · rw [broken] at failed
      cases failed

/-- The state that is left after some actions were asked for one by one, unless the search broke off
in one of them. -/
def afterActions? (task : Task) (state : State) (actions : List Action) : Option State :=
  actions.foldlM (fun state action => (apply task action state).state?) state

theorem Reached.afterActions {actions : List Action} (h : Reached task state)
    (left : afterActions? task state actions = some next) : Reached task next := by
  induction actions generalizing state with
  | nil =>
    cases left
    exact h
  | cons action actions ih =>
    obtain ⟨middle, first, rest⟩ := Option.bind_eq_some_iff.mp left
    exact ih (.apply action h first) rest

/-- A search that may take three steps and has turned back by then: neither can an expansion be
taken back as a match nor can a further step be taken. -/
theorem eq_of_failed_sums :
    let task : Task := ⟨.sums, #["x"], some 3⟩
    ∃ state refused stopped,
      afterActions? task (.initial "E") [.expand, .expand, .momentaryInsuccess] = some state ∧
      apply task .back state = .error (.backOnNonterminal "T") refused ∧
      step task state = .error (.limitReached 3) stopped ∧ refused = state ∧ stopped = state := by
  intro task
  have started : start task = .ok (.initial "E") := start_eq Grammar.usable_sums
  obtain ⟨state, left⟩ : ∃ state,
      afterActions? task (.initial "E") [.expand, .expand, .momentaryInsuccess] = some state :=
    ⟨_, rfl⟩
  have reached : Reached task state := (Reached.start started).afterActions left
  have refused : apply task .back state = .error (.backOnNonterminal "T") state := by
    cases left
    rfl
  have stopped : step task state = .error (.limitReached 3) state := by
    cases left
    rfl
  exact ⟨state, state, state, left, refused, stopped,
    (eq_of_failed task state reached _ _).1 .back refused,
    (eq_of_failed task state reached _ _).2 stopped⟩

/-- What holds at the start and is kept by the moves that a search chooses holds of every state
that it reaches. -/
theorem ReachedBySteps.of_moves {motive : State → Prop}
    (initial : motive (.initial task.grammar.start))
    (moves : ∀ {state action moved}, Replay task state.working state.stage →
      state.mode = action.mode → nextAction task state = .ok action →
      Move task state action moved → motive state → motive moved.counted)
    (h : ReachedBySteps task state) : motive state := by
  induction h with
  | start started =>
    rw [(eq_initial_of_start started).2]
    exact initial
  | step before taken ih =>
    have sound := before.reached.sound
    obtain ⟨chosen, mode, moved, move, rfl⟩ := sound.exists_move_of_step taken
    exact moves (sound.replay_of_mode mode) mode chosen move ih

end Descent.Search
