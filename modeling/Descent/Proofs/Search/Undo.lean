import Mathlib.Logic.Relation
import Descent.Proofs.Search.Invariant

/-!
# Undoing is exact

The working stack tells which terminals were matched and which alternatives were taken, but not
what the search went through before it came to them.  Doing these things from the start leads to
where the search stands.  So what is left when a nonterminal ran out of alternatives is what was
there before it was expanded for the first time, whatever was done and undone in between.

The first part is a replay, with indices left out: a `Search.Mark` is a frame without its nodes,
since going from the start must find them itself.  For the second part one has to say which
expansion is meant.  `Search.Opens` picks the one that put the frame there: since then the working
stack was never as low as before it.
-/

namespace Descent.Search

open Relation

/-! ### Doing things by their names -/

/-- What a frame says without its nodes. -/
inductive Mark where
  /-- A terminal was matched. -/
  | matched (terminal : Symbol)
  /-- A nonterminal was replaced by an alternative, counted from one. -/
  | expanded (nonterminal : Symbol) (alternative : Nat)
deriving DecidableEq, Repr

/-- What the frame says without its nodes. -/
def Frame.mark : Frame → Mark
  | .matched terminal _ => .matched terminal
  | .expanded nonterminal alternative _ _ => .expanded nonterminal alternative

namespace Stage

/-- Matches the terminal at the front with the next token, or replaces the nonterminal at the front
by one of its alternatives, if it is the symbol that the mark names. -/
def redo? (grammar : Grammar) (tokens : Array Symbol) (stage : Stage) (mark : Mark) :
    Option Stage :=
  match stage.input, mark with
  | [], _ => none
  | head :: input, .matched terminal =>
    if head.symbol = terminal ∧ grammar.isTerminal terminal ∧
        tokens[stage.cursor]? = some terminal then
      some ⟨stage.cursor + 1, input, stage.tree⟩
    else none
  | _ :: _, .expanded _ 0 => none
  | head :: input, .expanded nonterminal (index + 1) =>
    if head.symbol = nonterminal then
      (grammar.alternatives nonterminal)[index]?.map fun production =>
        ⟨stage.cursor, pendingFrom stage.tree.nextIndex production.symbols ++ input,
          stage.tree.append head.node production.symbols⟩
    else none

/-- Does all that the marks say, one after the other, from the start. -/
def redoAll? (grammar : Grammar) (tokens : Array Symbol) (marks : List Mark) : Option Stage :=
  marks.foldlM (redo? grammar tokens) (.initial grammar.start)

end Stage

variable {task : Task} {action : Action} {state next last moved : State} {frame : Frame}
  {frames base : List Frame} {prior stage : Stage}

/-- What a frame stands for can be done from what it says without its nodes. -/
theorem Redo.redo?_eq {after : Stage} (h : Redo task prior frame after) :
    prior.redo? task.grammar task.tokens frame.mark = some after := by
  cases h with
  | matched kind token => exact if_pos ⟨rfl, kind, token⟩
  | expanded chosen =>
    simp only [Stage.redo?, Frame.mark, chosen, if_true, Option.map_some]

/-- **The working stack leads to where the search stands**, from the bottom up. -/
theorem Replay.redoAll?_eq (h : Replay task frames stage) :
    Stage.redoAll? task.grammar task.tokens (frames.reverse.map Frame.mark) = some stage := by
  induction h with
  | start => rfl
  | redo _ step ih =>
    rw [Stage.redoAll?] at ih ⊢
    rw [List.reverse_cons, List.map_append, List.foldlM_append, ih]
    simp [step.redo?_eq]

/-- As many tokens are matched as there are matches on the working stack. -/
theorem Replay.cursor_eq_countP (h : Replay task frames stage) :
    stage.cursor = frames.countP Frame.isMatched := by
  induction h with
  | start => rfl
  | redo _ step ih =>
    cases step with
    | matched => exact (congrArg Nat.succ ih).trans (List.countP_cons_of_pos rfl).symm
    | expanded => exact ih

/-! ### Calls one after the other -/

/-- The states that a single call leaves, whether or not it fails. -/
inductive Call (task : Task) (state : State) : State → Prop where
  /-- The call asks for the next action. -/
  | step {next : State} (left : (step task state).state? = some next) : Call task state next
  /-- The call asks for some action. -/
  | apply {next : State} (action : Action) (left : (apply task action state).state? = some next) :
      Call task state next

/-- Some calls lead from one state to the other, and after each of them more than `depth` things
are done. -/
def LeadsAbove (task : Task) (depth : Nat) : State → State → Prop :=
  ReflTransGen fun state next => Call task state next ∧ depth < next.working.length

/-- The frame on top of `last` was put there by expanding the nonterminal at the front in the state
`before`, and was not taken off since then. -/
def Opens (task : Task) (before last : State) : Prop :=
  ∃ opened, apply task .expand before = .ok () opened ∧
    LeadsAbove task before.working.length opened last ∧
    last.working.length = before.working.length + 1

theorem Reached.call (h : Reached task state) (call : Call task state next) :
    Reached task next := by
  cases call with
  | step left => exact .step h left
  | apply action left => exact .apply action h left

theorem Reached.leadsAbove {depth : Nat} (h : Reached task state)
    (path : LeadsAbove task depth state last) : Reached task last := by
  induction path with
  | refl => exact h
  | tail _ call ih => exact ih.call call.1

/-- A call changes nothing, or makes a move that is counted. -/
theorem Call.cases (sound : Sound task state) (call : Call task state next) :
    next = state ∨ ∃ action moved, state.mode = action.mode ∧ Move task state action moved ∧
      next = moved.counted := by
  cases call with
  | step left =>
    rcases sound.eq_or_move_of_step left with same | ⟨action, -, mode, moved, move, rfl⟩
    · exact .inl same
    · exact .inr ⟨action, moved, mode, move, rfl⟩
  | apply action left =>
    rcases sound.eq_or_move_of_apply left with same | ⟨mode, moved, move, rfl⟩
    · exact .inl same
    · exact .inr ⟨action, moved, mode, move, rfl⟩

/-! ### What stays on the working stack -/

/-- What a longer stack ends with, it ends with below its top. -/
theorem suffix_of_length_le {base : List Frame} (h : base <:+ frame :: frames)
    (deep : base.length ≤ frames.length) : base <:+ frames := by
  rcases List.suffix_cons_iff.mp h with rfl | h
  · exact absurd deep (Nat.not_succ_le_self _)
  · exact h

/-- A move leaves what stands on the working stack where it is, as long as more is done than
that. -/
theorem Move.suffix (h : Move task state action moved) (below : base <:+ state.working)
    (deep : base.length < moved.working.length) : base <:+ moved.working := by
  cases h with
  | expand => exact below.trans (List.suffix_cons _ _)
  | advance =>
    rw [State.working_noteFurthest]
    exact below.trans (List.suffix_cons _ _)
  | giveUp | success => exact below
  | back top | exhaust top | reject top =>
    rw [top] at below
    exact suffix_of_length_le below (Nat.le_of_lt deep)
  | retry top =>
    rw [top] at below
    have kept := suffix_of_length_le below (Nat.le_of_lt_succ deep)
    exact kept.trans (List.suffix_cons _ _)

/-- Calls after which more is done than stands on a stack leave it where it is. -/
theorem LeadsAbove.suffix (path : LeadsAbove task base.length state last)
    (reached : Reached task state) (below : base <:+ state.working) : base <:+ last.working := by
  induction path with
  | refl => exact below
  | @tail middle next before call ih =>
    obtain ⟨call, deep⟩ := call
    rcases call.cases (reached.leadsAbove before).sound with same | ⟨action, moved, -, move, rfl⟩
    · rw [same]
      exact ih
    · exact move.suffix ih deep

/-- An expansion that is taken puts one frame on the working stack. -/
theorem exists_frame_of_expand (sound : Sound task state)
    (taken : apply task .expand state = .ok () next) :
    state.mode = .normal ∧ ∃ frame, next.working = frame :: state.working := by
  obtain ⟨mode, moved, move, rfl⟩ := sound.exists_move_of_apply taken
  cases move
  exact ⟨mode, _, rfl⟩

/-- Below the frame that an expansion put on top stands what stood there before. -/
theorem Opens.exists_working_eq {before : State} (h : Opens task before last)
    (reached : Reached task before) : ∃ frame, last.working = frame :: before.working := by
  obtain ⟨opened, taken, path, length⟩ := h
  have opening : Reached task opened := reached.apply .expand (by rw [taken]; rfl)
  obtain ⟨-, frame, top⟩ := exists_frame_of_expand reached.sound taken
  have below : before.working <:+ opened.working := top ▸ List.suffix_cons _ _
  obtain ⟨above, same⟩ := path.suffix opening below
  have single : above.length = 1 := by
    rw [← same, List.length_append, Nat.add_comm] at length
    exact Nat.add_left_cancel length
  obtain ⟨frame, rfl⟩ := List.length_eq_one_iff.mp single
  exact ⟨frame, same.symm⟩

/-! ### Every alternative was opened -/

/-- Something was expanded where `base` was done, and not all that was done since then was
undone. -/
def Opened (task : Task) (base : List Frame) (state : State) : Prop :=
  ∃ before opened, Reached task before ∧ before.working = base ∧
    apply task .expand before = .ok () opened ∧ LeadsAbove task base.length opened state

theorem Opened.call (h : Opened task base state) (call : Call task state next)
    (deep : base.length < next.working.length) : Opened task base next := by
  obtain ⟨before, opened, reached, same, taken, path⟩ := h
  exact ⟨before, opened, reached, same, taken, path.tail ⟨call, deep⟩⟩

/-- All alternatives on the working stack were opened where they stand. -/
def AllOpened (task : Task) (state : State) : Prop :=
  ∀ frame base, frame :: base <:+ state.working → frame.isMatched = false →
    Opened task base state

theorem length_lt_of_suffix (h : frame :: base <:+ frames) : base.length < frames.length :=
  Nat.lt_of_lt_of_le (Nat.lt_succ_self _) h.length_le

/-- **A move opens what it puts on the working stack**, or it matches a token or goes on with
another alternative of what was opened. -/
theorem Move.allOpened (h : Move task state action moved) (opened : AllOpened task state)
    (reached : Reached task state) (mode : state.mode = action.mode)
    (call : Call task state moved.counted) : AllOpened task moved.counted := by
  intro frame base below kind
  have deep : base.length < moved.counted.working.length := length_lt_of_suffix below
  -- What stood there before was opened before, and the call is one more since then.
  have old : frame :: base <:+ state.working → Opened task base moved.counted :=
    fun below => (opened frame base below kind).call call deep
  cases h with
  | expand redo =>
    rcases List.suffix_cons_iff.mp below with same | below
    · obtain ⟨-, rfl⟩ := List.cons.inj same
      have taken := (Move.expand redo).apply_eq mode
      exact ⟨state, _, reached, rfl, taken, .refl⟩
    · exact old below
  | advance redo =>
    rw [State.working_counted, State.working_noteFurthest] at below
    rcases List.suffix_cons_iff.mp below with same | below
    · rw [(List.cons.inj same).1] at kind
      cases kind
    · exact old below
  | giveUp | success => exact old below
  | back top | exhaust top =>
    refine old ?_
    rw [top]
    exact below.trans (List.suffix_cons _ _)
  | retry top =>
    rcases List.suffix_cons_iff.mp below with same | below
    · obtain ⟨-, rfl⟩ := List.cons.inj same
      exact (opened _ base ⟨[], top.symm⟩ rfl).call call deep
    · refine old ?_
      rw [top]
      exact below.trans (List.suffix_cons _ _)
  | reject => exact absurd below.length_le (Nat.not_succ_le_zero _)

/-- **Every alternative on the working stack was opened by an expansion**, in every reached
state. -/
theorem Reached.allOpened (h : Reached task state) : AllOpened task state := by
  have kept : ∀ {state next}, Reached task state → AllOpened task state → Call task state next →
      AllOpened task next := by
    intro state next reached opened call
    rcases call.cases reached.sound with rfl | ⟨action, moved, mode, move, rfl⟩
    · exact opened
    · exact move.allOpened opened reached mode call
  induction h with
  | start started =>
    rw [(eq_initial_of_start started).2]
    intro frame base below
    exact absurd below.length_le (Nat.not_succ_le_zero _)
  | step before left ih => exact kept before ih (.step left)
  | apply action before left ih => exact kept before ih (.apply action left)

/-! ### Coming back -/

/-- Two reached states in which the same was done have come equally far, also in searches with
different limits. -/
theorem stage_eq_of_marks_eq {grammar : Grammar} {tokens : Array Symbol} {limit limit' : Option Nat}
    (reached : Reached ⟨grammar, tokens, limit⟩ state)
    (reached' : Reached ⟨grammar, tokens, limit'⟩ next) (mode : state.mode ≠ .error)
    (mode' : next.mode ≠ .error)
    (same : state.working.map Frame.mark = next.working.map Frame.mark) :
    state.stage = next.stage := by
  have here := (reached.sound.replay mode).redoAll?_eq
  have there := (reached'.sound.replay mode').redoAll?_eq
  rw [List.map_reverse, same, ← List.map_reverse] at here
  exact Option.some.inj (here.symm.trans there)

/-- An alternative that ran out, where others are left, is taken off. -/
theorem exists_frame_of_anotherTry (sound : Sound task state)
    (taken : apply task .anotherTry state = .ok () next) (mode : next.mode = .backtrack) :
    ∃ frame, state.working = frame :: next.working ∧ frame.isMatched = false := by
  obtain ⟨-, moved, move, rfl⟩ := sound.exists_move_of_apply taken
  cases move with
  | exhaust top => exact ⟨_, top, rfl⟩
  | retry | reject => cases mode

/-- A step leaves what asking for its action leaves. -/
theorem apply_of_step (taken : step task state = .ok action next) :
    apply task action state = .ok () next := by
  unfold step at taken
  split at taken
  · cases taken
  · split at taken
    · cases taken
    · rename_i chosen _
      split at taken
      · cases taken
      · cases taken
      · rename_i made
        cases taken
        exact made

/-- When a nonterminal ran out of alternatives, the search is back where the nonterminal was
expanded. -/
theorem restored_of_anotherTry (reached : Reached task last)
    (taken : apply task .anotherTry last = .ok () next) (mode : next.mode = .backtrack) :
    (∃ before, Reached task before ∧ Opens task before last) ∧
      ∀ before, Reached task before → Opens task before last →
        next.working = before.working ∧ next.stage = before.stage := by
  obtain ⟨frame, top, kind⟩ := exists_frame_of_anotherTry reached.sound taken mode
  constructor
  · have whole : frame :: next.working <:+ last.working := top ▸ List.suffix_refl _
    obtain ⟨before, opened, earlier, same, made, path⟩ :=
      reached.allOpened frame next.working whole kind
    rw [← same] at path top
    exact ⟨before, earlier, opened, made, path, congrArg List.length top⟩
  · intro before earlier opens
    obtain ⟨opening, below⟩ := opens.exists_working_eq earlier
    rw [top] at below
    have working := (List.cons.inj below).2
    obtain ⟨opened, made, -, -⟩ := opens
    have after : Reached task next := reached.apply .anotherTry (by rw [taken]; rfl)
    have here := after.sound.replay (by rw [mode]; decide)
    have there := earlier.sound.replay (by
      rw [(exists_frame_of_expand earlier.sound made).1]
      decide)
    rw [working] at here
    exact ⟨working, here.stage_unique there⟩

/-- **Undoing is exact.**  In every reached state in which the tokens are not rejected, the search
stands where doing what is on the working stack leads, so that this is all that matters.  Where a
nonterminal runs out of alternatives, the search is back where it was before the nonterminal was
expanded.  Once the tokens are rejected nothing is left of what was done. -/
theorem undo_exact (grammar : Grammar) (tokens : Array Symbol) (limit : Option Nat) :
    (∀ state, Reached ⟨grammar, tokens, limit⟩ state → state.mode ≠ .error →
      state.cursor = state.working.countP Frame.isMatched ∧
        Stage.redoAll? grammar tokens (state.working.reverse.map Frame.mark) =
          some ⟨state.cursor, state.input, state.tree⟩) ∧
    (∀ limit' state state', Reached ⟨grammar, tokens, limit⟩ state →
      Reached ⟨grammar, tokens, limit'⟩ state' → state.mode ≠ .error → state'.mode ≠ .error →
      state.working.map Frame.mark = state'.working.map Frame.mark →
        state.cursor = state'.cursor ∧ state.input = state'.input ∧ state.tree = state'.tree) ∧
    (∀ last next, Reached ⟨grammar, tokens, limit⟩ last →
      (apply ⟨grammar, tokens, limit⟩ .anotherTry last = .ok () next ∨
        step ⟨grammar, tokens, limit⟩ last = .ok .anotherTry next) → next.mode = .backtrack →
      (∃ before, Reached ⟨grammar, tokens, limit⟩ before ∧
        Opens ⟨grammar, tokens, limit⟩ before last) ∧
      ∀ before, Reached ⟨grammar, tokens, limit⟩ before →
        Opens ⟨grammar, tokens, limit⟩ before last →
        next.cursor = before.cursor ∧ next.input = before.input ∧ next.tree = before.tree) ∧
    (∀ state, Reached ⟨grammar, tokens, limit⟩ state → state.mode = .error →
      state.tree = .ofRoot grammar.start ∧ state.cursor = 0 ∧ state.input = [] ∧
        state.working = []) := by
  refine ⟨?_, ?_, ?_, ?_⟩
  · intro state reached mode
    have replay := reached.sound.replay mode
    exact ⟨replay.cursor_eq_countP, replay.redoAll?_eq⟩
  · intro limit' state state' reached reached' mode mode' same
    exact Stage.mk.inj (stage_eq_of_marks_eq reached reached' mode mode' same)
  · intro last next reached taken mode
    have taken := taken.elim id apply_of_step
    obtain ⟨opened, restored⟩ := restored_of_anotherTry reached taken mode
    refine ⟨opened, fun before earlier opens => ?_⟩
    exact Stage.mk.inj (restored before earlier opens).2
  · intro state reached mode
    obtain ⟨working, stage⟩ := reached.sound.rejected mode
    obtain ⟨cursor, input, tree⟩ := Stage.mk.inj stage
    exact ⟨tree, cursor, input, working⟩

/-- The nonterminal `T` is expanded after `E`, both of its alternatives fail, and what was there
after the expansion of `E` is there again. -/
theorem undo_exact_sums :
    let task : Task := ⟨.sums, #["+"], none⟩
    ∃ before opened turned tried last next,
      apply task .expand (.initial "E") = .ok () before ∧
      apply task .expand before = .ok () opened ∧
      apply task .momentaryInsuccess opened = .ok () turned ∧
      apply task .anotherTry turned = .ok () tried ∧
      apply task .momentaryInsuccess tried = .ok () last ∧
      apply task .anotherTry last = .ok () next ∧ next.tree = before.tree ∧
      before.tree.size = 4 := by
  intro task
  obtain ⟨before, opened, turned, tried, last, next, expanded, opens, gaveUp, retried, failed,
      ranOut, depths, depth, mode, size⟩ : ∃ before opened turned tried last next,
      apply task .expand (.initial "E") = .ok () before ∧
      apply task .expand before = .ok () opened ∧
      apply task .momentaryInsuccess opened = .ok () turned ∧
      apply task .anotherTry turned = .ok () tried ∧
      apply task .momentaryInsuccess tried = .ok () last ∧
      apply task .anotherTry last = .ok () next ∧
      [turned, tried, last].map (·.working.length) = [2, 2, 2] ∧ before.working.length = 1 ∧
      next.mode = .backtrack ∧ before.tree.size = 4 :=
    ⟨_, _, _, _, _, _, rfl, rfl, rfl, rfl, rfl, rfl, rfl, rfl, rfl, rfl⟩
  have started : start task = .ok (.initial "E") := start_eq Grammar.usable_sums
  have left {action : Action} {state next : State} (taken : apply task action state = .ok () next) :
      (apply task action state).state? = some next := by rw [taken]; rfl
  have reached : Reached task before := .apply .expand (.start started) (left expanded)
  have later : Reached task opened := .apply .expand reached (left opens)
  simp only [List.map_cons, List.map_nil, List.cons.injEq, and_true] at depths
  have deep : LeadsAbove task before.working.length opened last :=
    .tail (.tail (.tail .refl ⟨.apply _ (left gaveUp), by omega⟩)
      ⟨.apply _ (left retried), by omega⟩) ⟨.apply _ (left failed), by omega⟩
  obtain ⟨-, -, restored, -⟩ := undo_exact .sums #["+"] none
  have back := (restored last next (later.leadsAbove deep) (.inl ranOut) mode).2 before reached
    ⟨opened, opens, deep, by omega⟩
  exact ⟨before, opened, turned, tried, last, next, expanded, opens, gaveUp, retried, failed,
    ranOut, back.2.2, size⟩

end Descent.Search
