import Mathlib.Logic.Relation
import Descent.Proofs.Search.Invariant
import Descent.Search.Run

/-!
# Runs

A run is a recursion on the number of steps that it may take, while the properties of searches are
proved of states.  Here the two are tied together.  A run that comes to a verdict has gone through
states that are reached by steps, up to one in which the search is over.  Conversely, if steps
lead to such a state, a run comes to its verdict exactly if it may take that many: steps leave no
choice, so every state on the way leads to this one.
-/

namespace Descent.Search

open Relation

variable {task : Task} {state next last : State} {action : Action} {fault : Fault} {σ : Type}
  {observe : σ → Action → State → σ} {fuel : Nat} {seen : σ} {verdict : Verdict}

/-! ### Unrolling runs -/

theorem run_of_isHalted (halted : state.mode.isHalted) :
    run task observe fuel state seen = (seen, some (.ok (state.verdict task))) := by
  unfold run
  exact if_pos halted

theorem run_zero (going : ¬ state.mode.isHalted) :
    run task observe 0 state seen = (seen, none) := by
  unfold run
  exact if_neg going

theorem run_succ_of_ok (going : ¬ state.mode.isHalted)
    (taken : step task state = .ok action next) :
    run task observe (fuel + 1) state seen =
      run task observe fuel next (observe seen action next) := by
  rw [run, if_neg going]
  simp only [taken]

theorem run_succ_of_error (going : ¬ state.mode.isHalted)
    (failed : step task state = .error fault next) :
    run task observe (fuel + 1) state seen = (seen, some (.error fault)) := by
  rw [run, if_neg going]
  simp only [failed]

theorem run_succ_of_overflow (going : ¬ state.mode.isHalted)
    (broken : step task state = .overflow) :
    run task observe (fuel + 1) state seen = (seen, some .overflow) := by
  rw [run, if_neg going]
  simp only [broken]

/-! ### From verdicts to states -/

theorem State.verdict_of_error (mode : state.mode = .error) :
    state.verdict task = .rejected (state.rejection task) :=
  if_neg (by rw [mode]; decide)

theorem State.verdict_of_final (mode : state.mode = .final) :
    state.verdict task = .accepted state.tree state.steps :=
  if_pos mode

/-- The verdict that a run comes to is that of a state reached by steps in which the search is
over. -/
theorem exists_reachedBySteps_of_run (h : ReachedBySteps task state)
    (result : (run task observe fuel state seen).2 = some (.ok verdict)) :
    ∃ last, ReachedBySteps task last ∧ last.mode.isHalted ∧ verdict = last.verdict task := by
  induction fuel generalizing state seen with
  | zero =>
    by_cases halted : state.mode.isHalted
    · rw [run_of_isHalted halted] at result
      exact ⟨state, h, halted, (Answer.ok.inj (Option.some.inj result)).symm⟩
    · rw [run_zero halted] at result
      cases result
  | succ fuel ih =>
    by_cases halted : state.mode.isHalted
    · rw [run_of_isHalted halted] at result
      exact ⟨state, h, halted, (Answer.ok.inj (Option.some.inj result)).symm⟩
    cases made : step task state with
    | error fault next =>
      rw [run_succ_of_error halted made] at result
      cases result
    | overflow =>
      rw [run_succ_of_overflow halted made] at result
      cases result
    | ok action next =>
      rw [run_succ_of_ok halted made] at result
      exact ih (.step h made) result

theorem exists_reachedBySteps_of_parse
    (result : (parse task observe fuel seen).2 = some (.ok verdict)) :
    ∃ last, ReachedBySteps task last ∧ last.mode.isHalted ∧ verdict = last.verdict task := by
  unfold parse at result
  split at result
  · cases Option.some.inj result
  · rename_i started
    exact exists_reachedBySteps_of_run (.start started) result

/-- Tokens are accepted in a state that is reached by steps, with the tree of this state. -/
theorem exists_final_of_parse {tree : DerivationTree} {steps : Nat}
    (result : (parse task observe fuel seen).2 = some (.ok (.accepted tree steps))) :
    ∃ last, ReachedBySteps task last ∧ last.mode = .final ∧ tree = last.tree := by
  obtain ⟨last, reached, halted, verdict⟩ := exists_reachedBySteps_of_parse result
  rcases Mode.isHalted_iff.mp halted with mode | mode
  · rw [State.verdict_of_error mode] at verdict
    cases verdict
  · rw [State.verdict_of_final mode] at verdict
    cases verdict
    exact ⟨last, reached, mode, rfl⟩

/-- Tokens are rejected in a state that is reached by steps. -/
theorem exists_error_of_parse {rejection : Rejection}
    (result : (parse task observe fuel seen).2 = some (.ok (.rejected rejection))) :
    ∃ last, ReachedBySteps task last ∧ last.mode = .error ∧ rejection = last.rejection task := by
  obtain ⟨last, reached, halted, verdict⟩ := exists_reachedBySteps_of_parse result
  rcases Mode.isHalted_iff.mp halted with mode | mode
  · rw [State.verdict_of_error mode] at verdict
    cases verdict
    exact ⟨last, reached, mode, rfl⟩
  · rw [State.verdict_of_final mode] at verdict
    cases verdict

/-! ### From states to verdicts -/

/-- The states that some steps lead to. -/
def Leads (task : Task) : State → State → Prop :=
  ReflTransGen fun state next => ∃ action, step task state = .ok action next

theorem Leads.reachedBySteps (leads : Leads task state last)
    (reached : ReachedBySteps task state) : ReachedBySteps task last := by
  induction leads with
  | refl => exact reached
  | tail _ taken ih =>
    obtain ⟨action, taken⟩ := taken
    exact .step ih taken

/-- A step is taken where the search is not over, and is counted. -/
theorem steps_eq_of_step {action : Action} {next : State} (h : ReachedBySteps task state)
    (taken : step task state = .ok action next) :
    state.mode.isHalted = false ∧ next.steps = state.steps + 1 := by
  obtain ⟨-, mode, moved, move, rfl⟩ := h.reached.sound.exists_move_of_step taken
  rw [mode, State.steps_counted, move.steps_eq]
  exact ⟨Action.isHalted_mode action, rfl⟩

/-- A search leads to every state that is reached by its steps. -/
theorem ReachedBySteps.leads (h : ReachedBySteps task state) :
    Leads task (.initial task.grammar.start) state := by
  induction h with
  | start started =>
    rw [(eq_initial_of_start started).2]
    exact .refl
  | step _ taken ih => exact .tail ih ⟨_, taken⟩

/-- From every state that it reaches a search leads to the one in which it is over. -/
theorem ReachedBySteps.leads_of_isHalted (h : ReachedBySteps task state)
    (stopped : ReachedBySteps task last) (halted : last.mode.isHalted) : Leads task state last := by
  have unique : Relator.RightUnique fun state next =>
      ∃ action, Search.step task state = .ok action next := by
    rintro state next next' ⟨action, taken⟩ ⟨action', taken'⟩
    rw [taken] at taken'
    cases taken'
    rfl
  rcases ReflTransGen.total_of_right_unique unique h.leads stopped.leads with onward | back
  · exact onward
  · -- No step is taken where the search is over.
    rcases ReflTransGen.cases_head back with rfl | ⟨next, ⟨action, taken⟩, -⟩
    · exact .refl
    · rw [(steps_eq_of_step stopped taken).1] at halted
      cases halted

/-- A move of the next action is a step, where steps are not limited. -/
theorem Move.leads {action : Action} {moved : State} (move : Move task state action moved)
    (unlimited : task.limit = none) (mode : state.mode = action.mode)
    (chosen : nextAction task state = .ok action) : Leads task state moved.counted :=
  .single ⟨action, move.step_eq mode (reachedLimit?_eq_none unlimited state) chosen⟩

theorem State.steps_verdict (state : State) : (state.verdict task).steps = state.steps := by
  unfold State.verdict
  split <;> rfl

/-- A run that may take as many steps as lead to a state goes on from there, and with fewer steps it
comes to nothing. -/
theorem Leads.run_eq (leads : Leads task state last) (reached : ReachedBySteps task state)
    (observe : σ → Action → State → σ) :
    ∃ count, last.steps = state.steps + count ∧ ∀ seen,
      (∀ fuel < count, (run task observe fuel state seen).2 = none) ∧
      ∀ more, ∃ later,
        run task observe (count + more) state seen = run task observe more last later := by
  -- A run takes the first step first, so the induction takes the steps off from the front.
  induction leads using ReflTransGen.head_induction_on with
  | refl => exact ⟨0, rfl, fun seen => ⟨nofun, fun more => ⟨seen, by rw [Nat.zero_add]⟩⟩⟩
  | @head state next taken _ ih =>
    obtain ⟨action, taken⟩ := taken
    obtain ⟨going, counted⟩ := steps_eq_of_step reached taken
    obtain ⟨count, later, runs⟩ := ih (.step reached taken)
    have going : ¬ state.mode.isHalted := by simp [going]
    refine ⟨count + 1, by omega, fun seen => ⟨fun fuel few => ?_, fun more => ?_⟩⟩
    · cases fuel with
      | zero => rw [run_zero going]
      | succ fuel =>
        rw [run_succ_of_ok going taken]
        exact (runs _).1 fuel (Nat.lt_of_succ_lt_succ few)
    · obtain ⟨later, same⟩ := (runs (observe seen action next)).2 more
      refine ⟨later, ?_⟩
      rw [Nat.add_right_comm, run_succ_of_ok going taken, same]

/-- A run comes to the verdict of a state that the search leads to and is over in, if it may take
as many steps, and else to nothing. -/
theorem run_of_leads (observe : σ → Action → State → σ) (leads : Leads task state last)
    (reached : ReachedBySteps task state) (halted : last.mode.isHalted) (fuel : Nat) (seen : σ) :
    (run task observe fuel state seen).2 =
      if last.steps ≤ state.steps + fuel then some (.ok (last.verdict task)) else none := by
  obtain ⟨count, steps, runs⟩ := leads.run_eq reached observe
  split
  · obtain ⟨more, rfl⟩ := Nat.exists_eq_add_of_le (by omega : count ≤ fuel)
    obtain ⟨later, same⟩ := (runs seen).2 more
    rw [same, run_of_isHalted halted]
  · exact (runs seen).1 fuel (by omega)

/-- A run breaks off where the search does, if it may take one step more than led there, and else
it comes to nothing. -/
theorem run_of_leads_overflow (observe : σ → Action → State → σ) (leads : Leads task state last)
    (reached : ReachedBySteps task state) (broken : step task last = .overflow)
    (going : ¬ last.mode.isHalted) (fuel : Nat) (seen : σ) :
    (run task observe fuel state seen).2 =
      if last.steps + 1 ≤ state.steps + fuel then some .overflow else none := by
  obtain ⟨count, steps, runs⟩ := leads.run_eq reached observe
  split
  · obtain ⟨more, rfl⟩ := Nat.exists_eq_add_of_le (by omega : count + 1 ≤ fuel)
    obtain ⟨later, same⟩ := (runs seen).2 (1 + more)
    rw [Nat.add_assoc, same, Nat.add_comm, run_succ_of_overflow going broken]
  · rcases Nat.lt_or_ge fuel count with few | enough
    · exact (runs seen).1 fuel few
    · obtain rfl : fuel = count := by omega
      obtain ⟨later, same⟩ := (runs seen).2 0
      rw [← Nat.add_zero fuel, same, run_zero going]

end Descent.Search
