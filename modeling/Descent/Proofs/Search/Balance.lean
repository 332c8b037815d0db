import Mathlib.Algebra.Ring.Parity
import Mathlib.Data.List.Induction
import Descent.Proofs.Search.Limit

/-!
# The steps of a search, counted

Whatever a search does it does once more in reverse, unless it still stands on the working stack
at the end.  An expansion is taken back by the step that finds no further alternative, a match by
the step back, and each time that the search turns back it goes on forward again when it finds
another alternative.  So the steps of each kind balance, up to what is on the working stack and up
to the direction in which the search goes.

This is `Search.Balanced`, a system of equations that each move keeps.  A search that ends has
nothing left to do, and then the working stack holds one frame for each node of the tree, or it
was given up and holds nothing; so the equations come to what is known of a whole run.
-/

namespace Descent.Search

variable {task : Task} {state moved last : State} {action other : Action} {frames : List Frame}
  {stage : Stage} {shown all : List (Action × State)} {verdict : Verdict} {fuel : Nat}

/-! ### Counting steps -/

/-- The number of steps that took an action. -/
def taken (action : Action) (shown : List (Action × State)) : Nat :=
  shown.countP fun step => step.1 = action

/-- The number of steps that undid an alternative and found the next one, so that the search went on
forward. -/
def retried (shown : List (Action × State)) : Nat :=
  shown.countP fun step => step.1 = .anotherTry ∧ step.2.mode = .normal

/-- The number of steps that undid an alternative and found no other one. -/
def exhausted (shown : List (Action × State)) : Nat :=
  shown.countP fun step => step.1 = .anotherTry ∧ step.2.mode ≠ .normal

@[simp] theorem taken_keep (shown : List (Action × State)) (state : State) :
    taken action (keep shown other state) =
      taken action shown + if other = action then 1 else 0 := by
  simp [taken, keep, List.countP_append, List.countP_singleton]

@[simp] theorem retried_keep (shown : List (Action × State)) (state : State) :
    retried (keep shown other state) =
      retried shown + if other = .anotherTry ∧ state.mode = .normal then 1 else 0 := by
  simp [retried, keep, List.countP_append, List.countP_singleton]

@[simp] theorem exhausted_keep (shown : List (Action × State)) (state : State) :
    exhausted (keep shown other state) =
      exhausted shown + if other = .anotherTry ∧ state.mode ≠ .normal then 1 else 0 := by
  simp [exhausted, keep, List.countP_append, List.countP_singleton]

theorem taken_eq_zero_iff : taken action shown = 0 ↔ ∀ step ∈ shown, step.1 ≠ action := by
  simp [taken, List.countP_eq_zero]

theorem length_keep (shown : List (Action × State)) (action : Action) (state : State) :
    (keep shown action state).length = shown.length + 1 :=
  List.length_append

/-- A step that undid an alternative found another one or did not. -/
theorem taken_anotherTry (shown : List (Action × State)) :
    taken .anotherTry shown = retried shown + exhausted shown := by
  induction shown using List.reverseRecOn with
  | nil => rfl
  | append_singleton shown step ih =>
    obtain ⟨action, state⟩ := step
    show taken .anotherTry (keep shown action state) =
      retried (keep shown action state) + exhausted (keep shown action state)
    rw [taken_keep, retried_keep, exhausted_keep, ih]
    by_cases undone : action = .anotherTry
    · by_cases mode : state.mode = .normal <;> simp [undone, mode] <;> omega
    · simp [undone]

/-- Each step takes one action. -/
theorem length_eq_sum (shown : List (Action × State)) :
    shown.length = taken .expand shown + taken .advance shown + taken .momentaryInsuccess shown +
      taken .back shown + taken .anotherTry shown + taken .success shown := by
  induction shown using List.reverseRecOn with
  | nil => rfl
  | append_singleton shown step ih =>
    obtain ⟨action, state⟩ := step
    show (keep shown action state).length = taken .expand (keep shown action state) +
      taken .advance (keep shown action state) +
      taken .momentaryInsuccess (keep shown action state) +
      taken .back (keep shown action state) + taken .anotherTry (keep shown action state) +
      taken .success (keep shown action state)
    simp only [length_keep, taken_keep, ih]
    cases action <;> simp <;> omega

/-! ### Counting frames -/

/-- The number of matches on a working stack. -/
def matchCount (frames : List Frame) : Nat := frames.countP Frame.isMatched

/-- The number of alternatives on a working stack. -/
def alternativeCount (frames : List Frame) : Nat := frames.countP fun frame => !frame.isMatched

@[simp] theorem matchCount_matched (terminal : Symbol) (node : Index) (frames : List Frame) :
    matchCount (.matched terminal node :: frames) = matchCount frames + 1 :=
  List.countP_cons_of_pos rfl

@[simp] theorem matchCount_expanded (nonterminal : Symbol) (alternative : Nat)
    (node children : Index) (frames : List Frame) :
    matchCount (.expanded nonterminal alternative node children :: frames) = matchCount frames :=
  List.countP_cons_of_neg nofun

@[simp] theorem alternativeCount_matched (terminal : Symbol) (node : Index) (frames : List Frame) :
    alternativeCount (.matched terminal node :: frames) = alternativeCount frames :=
  List.countP_cons_of_neg nofun

@[simp] theorem alternativeCount_expanded (nonterminal : Symbol) (alternative : Nat)
    (node children : Index) (frames : List Frame) :
    alternativeCount (.expanded nonterminal alternative node children :: frames) =
      alternativeCount frames + 1 :=
  List.countP_cons_of_pos rfl

theorem length_eq_matchCount_add (frames : List Frame) :
    frames.length = matchCount frames + alternativeCount frames := by
  rw [List.length_eq_countP_add_countP Frame.isMatched, matchCount, alternativeCount]
  simp

/-- The nodes of the tree are those that were matched or replaced and those that are pending. -/
theorem Replay.size_tree (h : Replay task frames stage) :
    stage.tree.size = frames.length + stage.input.length := by
  induction h with
  | start => rfl
  | redo _ step ih =>
    cases step with
    | matched => simp only [List.length_cons] at ih ⊢; omega
    | expanded =>
      simp only [List.length_cons] at ih ⊢
      rw [DerivationTree.size_append, List.length_append, pendingFrom, List.length_zipWith,
        DerivationTree.indicesFrom, List.length_range']
      omega

/-! ### The balance -/

/-- How much more often a search has turned back than it went on forward again. -/
def Mode.turns : Mode → Nat
  | .normal | .final => 0
  | .backtrack | .error => 1

/-- Which of the steps that were shown are undone in a state, and what is left of the others. -/
structure Balanced (shown : List (Action × State)) (state : State) : Prop where
  /-- An expansion was undone, or an alternative of it is on the working stack. -/
  expanded : taken .expand shown = exhausted shown + alternativeCount state.working
  /-- A match was undone, or is on the working stack. -/
  matched : taken .advance shown = taken .back shown + matchCount state.working
  /-- The search went on forward each time that it had turned back, but perhaps the last time. -/
  turned : taken .momentaryInsuccess shown = retried shown + state.mode.turns
  /-- Nothing is undone if it never turned back. -/
  onward : taken .momentaryInsuccess shown = 0 → taken .back shown = 0 ∧ exhausted shown = 0
  /-- The tokens are accepted in a step of its own. -/
  accepted : taken .success shown = if state.mode = .final then 1 else 0
  /-- All steps were shown. -/
  counted : state.steps = shown.length

theorem balanced_initial (start : Symbol) : Balanced [] (.initial start) :=
  ⟨rfl, rfl, rfl, fun _ => ⟨rfl, rfl⟩, rfl, rfl⟩

/-- **Every move keeps the balance.** -/
theorem Balanced.move (h : Balanced shown state) (mode : state.mode = action.mode)
    (move : Move task state action moved) :
    Balanced (keep shown action moved.counted) moved.counted := by
  obtain ⟨expanded, matched, turned, onward, accepted, counted⟩ := h
  have counted' : moved.counted.steps = (keep shown action moved.counted).length := by
    rw [State.steps_counted, move.steps_eq, length_keep, counted]
  rw [mode] at turned accepted
  -- A move adds one step of its kind, and changes the mode or what is on top of the working stack.
  cases move
  all_goals simp only [Action.mode, Mode.turns, reduceCtorEq, if_false] at turned accepted
  case expand | advance | giveUp | success =>
    refine ⟨?_, ?_, ?_, ?_, ?_, counted'⟩ <;> simp [Mode.turns] <;> omega
  case back top _ =>
    rw [top, alternativeCount_matched] at expanded
    rw [top, matchCount_matched] at matched
    refine ⟨?_, ?_, ?_, ?_, ?_, counted'⟩ <;> simp [Mode.turns] <;> omega
  case retry top _ _ | exhaust top _ _ _ | reject top _ _ =>
    rw [top, alternativeCount_expanded] at expanded
    rw [top, matchCount_expanded] at matched
    refine ⟨?_, ?_, ?_, ?_, ?_, counted'⟩ <;> simp [Mode.turns] <;> omega

/-- **Every run keeps the balance**, up to the state in which it comes to its verdict. -/
theorem exists_balanced_of_run (reached : ReachedBySteps task state) (h : Balanced shown state)
    (result : run task keep fuel state shown = (all, some (.ok verdict))) :
    ∃ last, ReachedBySteps task last ∧ last.mode.isHalted ∧ verdict = last.verdict task ∧
      Balanced all last := by
  induction fuel generalizing state shown with
  | zero =>
    by_cases halted : state.mode.isHalted
    · rw [run_of_isHalted halted] at result
      cases result
      exact ⟨state, reached, halted, rfl, h⟩
    · rw [run_zero halted] at result
      cases result
  | succ fuel ih =>
    by_cases halted : state.mode.isHalted
    · rw [run_of_isHalted halted] at result
      cases result
      exact ⟨state, reached, halted, rfl, h⟩
    cases made : step task state with
    | error fault next =>
      rw [run_succ_of_error halted made] at result
      cases result
    | overflow =>
      rw [run_succ_of_overflow halted made] at result
      cases result
    | ok action next =>
      rw [run_succ_of_ok halted made] at result
      obtain ⟨-, mode, moved, move, rfl⟩ := reached.reached.sound.exists_move_of_step made
      exact ih (.step reached made) (h.move mode move) result

/-! ### Verdicts -/

/-- All nodes of an accepted tree were matched or replaced, and no step was wasted but in pairs. -/
theorem Balanced.steps_of_accepted (h : Balanced shown last) (sound : Sound task last)
    (mode : last.mode = .final) :
    last.steps = last.tree.size + 1 +
      2 * (taken .back shown + exhausted shown + taken .momentaryInsuccess shown) := by
  have replay := sound.replay (by rw [mode]; decide)
  have size := replay.size_tree
  have derived := (sound.accepted mode).1
  rw [State.stage_tree, State.stage_input, derived, List.length_nil, Nat.add_zero,
    length_eq_matchCount_add] at size
  obtain ⟨expanded, matched, turned, -, accepted, counted⟩ := h
  rw [mode, Mode.turns, Nat.add_zero] at turned
  rw [mode, if_pos rfl] at accepted
  rw [counted, length_eq_sum, taken_anotherTry]
  omega

/-- Nothing is left on the working stack when the tokens are rejected. -/
theorem Balanced.of_rejected (h : Balanced shown last) (sound : Sound task last)
    (mode : last.mode = .error) :
    taken .expand shown = exhausted shown ∧ taken .advance shown = taken .back shown ∧
      taken .momentaryInsuccess shown = retried shown + 1 ∧
      last.steps = 2 * (taken .back shown + exhausted shown + retried shown) + 1 := by
  obtain ⟨nothing, -⟩ := sound.rejected mode
  obtain ⟨expanded, matched, turned, -, accepted, counted⟩ := h
  rw [nothing] at expanded matched
  rw [mode, Mode.turns] at turned
  rw [mode, if_neg (by decide)] at accepted
  have expanded : taken .expand shown = exhausted shown := expanded
  have matched : taken .advance shown = taken .back shown := matched
  refine ⟨expanded, matched, turned, ?_⟩
  rw [counted, length_eq_sum, taken_anotherTry]
  omega

/-- **The steps of a run that comes to a verdict.**  If the tokens are accepted, there is a step for
each node of the tree and one more, and all further steps come in pairs; there are none exactly if
the search never turned back.  If they are rejected, the number of steps is odd: each expansion was
taken back by a step that found no other alternative, each match was taken back, and the search
turned back once more than it found another alternative. -/
theorem steps_exact (task : Task) (shown : List (Action × State)) (verdict : Verdict)
    (returned : Returns task shown (.ok verdict)) :
    verdict.steps = shown.length ∧
    (∀ tree steps, verdict = .accepted tree steps →
      tree.size + 1 ≤ steps ∧ Even (steps - (tree.size + 1)) ∧
        (steps = tree.size + 1 ↔ ∀ step ∈ shown, step.1 ≠ .momentaryInsuccess)) ∧
    (∀ rejection, verdict = .rejected rejection →
      Odd rejection.steps ∧ taken .expand shown = exhausted shown ∧
        taken .advance shown = taken .back shown ∧
        taken .momentaryInsuccess shown = retried shown + 1) := by
  obtain ⟨fuel, result⟩ := returned
  obtain ⟨last, reached, halted, rfl, balanced⟩ : ∃ last, ReachedBySteps task last ∧
      last.mode.isHalted ∧ verdict = last.verdict task ∧ Balanced shown last := by
    unfold parse at result
    split at result
    · cases result
    · rename_i started
      have initial := (eq_initial_of_start started).2
      rw [initial] at result started
      exact exists_balanced_of_run (.start started) (balanced_initial _) result
  have sound := reached.reached.sound
  refine ⟨by rw [State.steps_verdict, balanced.counted], ?accepted, ?rejected⟩
  case accepted =>
    intro tree steps accepted
    rcases Mode.isHalted_iff.mp halted with mode | mode
    · rw [State.verdict_of_error mode] at accepted
      cases accepted
    rw [State.verdict_of_final mode] at accepted
    cases accepted
    have total := balanced.steps_of_accepted sound mode
    refine ⟨by omega, ?_, ?_⟩
    · exact ⟨taken .back shown + exhausted shown + taken .momentaryInsuccess shown, by omega⟩
    · rw [← taken_eq_zero_iff]
      constructor
      · intro none
        omega
      · intro none
        obtain ⟨back, exhausted⟩ := balanced.onward none
        omega
  case rejected =>
    intro rejection rejected
    rcases Mode.isHalted_iff.mp halted with mode | mode
    · rw [State.verdict_of_error mode] at rejected
      cases rejected
      obtain ⟨expanded, matched, turned, total⟩ := balanced.of_rejected sound mode
      exact ⟨⟨_, total⟩, expanded, matched, turned⟩
    · rw [State.verdict_of_final mode] at rejected
      cases rejected

/-- A search that turns back takes ten steps more than its tree of three nodes asks for, one that
does not takes none, and one that is given up takes thirty-one. -/
theorem steps_exact_sums :
    let tree : DerivationTree := ⟨#[⟨"E", none, none⟩, ⟨"T", some 0, none⟩, ⟨"x", some 1, none⟩]⟩
    let single : Grammar := ⟨[⟨"S", [⟨"a", []⟩]⟩], ["a"], "S"⟩
    let leaf : DerivationTree := ⟨#[⟨"S", none, none⟩, ⟨"a", some 0, none⟩]⟩
    (∃ shown, Returns ⟨.sums, #["x"], none⟩ shown (.ok (.accepted tree 14)) ∧
      Even (14 - (tree.size + 1)) ∧ ∃ step ∈ shown, step.1 = .momentaryInsuccess) ∧
    (∃ shown, Returns ⟨single, #["a"], none⟩ shown (.ok (.accepted leaf 3)) ∧
      ∀ step ∈ shown, step.1 ≠ .momentaryInsuccess) ∧
    ∃ shown, Returns ⟨.sums, #["x", "+"], none⟩ shown
        (.ok (.rejected ⟨some "T", 2, none, ["(", "x"], 31⟩)) ∧
      Odd 31 ∧ taken .expand shown = exhausted shown := by
  intro tree single leaf
  have whole : (parse ⟨.sums, #["x"], none⟩ keep 14 []).2 = some (.ok (.accepted tree 14)) := by
    cbv
  have short : (parse ⟨single, #["a"], none⟩ keep 3 []).2 = some (.ok (.accepted leaf 3)) := by
    cbv
  have failed : (parse ⟨.sums, #["x", "+"], none⟩ keep 31 []).2 =
      some (.ok (.rejected ⟨some "T", 2, none, ["(", "x"], 31⟩)) := by cbv
  have returned : Returns ⟨.sums, #["x"], none⟩ _ (.ok (.accepted tree 14)) :=
    ⟨14, Prod.ext rfl whole⟩
  have returned' : Returns ⟨single, #["a"], none⟩ _ (.ok (.accepted leaf 3)) :=
    ⟨3, Prod.ext rfl short⟩
  have returned'' : Returns ⟨.sums, #["x", "+"], none⟩ _
      (.ok (.rejected ⟨some "T", 2, none, ["(", "x"], 31⟩)) := ⟨31, Prod.ext rfl failed⟩
  obtain ⟨-, accepts, -⟩ := steps_exact _ _ _ returned
  obtain ⟨-, even, turned⟩ := accepts _ _ rfl
  obtain ⟨-, accepts', -⟩ := steps_exact _ _ _ returned'
  obtain ⟨-, -, onward⟩ := accepts' _ _ rfl
  obtain ⟨-, -, rejects⟩ := steps_exact _ _ _ returned''
  obtain ⟨odd, expanded, -⟩ := rejects _ rfl
  refine ⟨⟨_, returned, even, ?_⟩, ⟨_, returned', onward.mp rfl⟩, _, returned'', odd, expanded⟩
  by_contra none
  push Not at none
  exact absurd (turned.mpr none) (by decide)

end Descent.Search
