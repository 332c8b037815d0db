import Mathlib
import Descent.Proofs.Search.Progress
import Descent.Proofs.Search.Runs

/-!
# Limits of steps

The limit of a task is read in one place only: before a step, where it is compared with the number
of steps taken.  So two tasks that differ in their limits go through the same states until the
smaller limit is reached.  A run with the smaller limit either ends before that, and then with the
verdict that the other run comes to, or has taken as many steps as it allows.

A run that breaks off is cut by a limit like any other: it breaks off under the smaller limit too
if it did so before as many steps, and else it is stopped by the limit first.
-/

namespace Descent.Search

variable {task : Task} {state next last : State} {action : Action} {fault : Fault} {σ : Type}
  {observe : σ → Action → State → σ} {fuel more : Nat} {seen : σ}
  {shown : List (Action × State)} {result : Answer} {verdict : Verdict}

/-! ### Runs that may take more steps -/

/-- An observer that keeps all that it is shown: each action, with the state after it. -/
def keep (shown : List (Action × State)) (action : Action) (state : State) :
    List (Action × State) :=
  shown ++ [(action, state)]

/-- A run for a task returns a result after it has shown some steps. -/
def Returns (task : Task) (shown : List (Action × State)) (result : Answer) : Prop :=
  ∃ fuel, parse task keep fuel [] = (shown, some result)

/-! ### Runs that are cut -/

/-- Where as many steps were taken as are allowed, the next one fails. -/
theorem step_of_limit_le {limit : Nat} (limited : task.limit = some limit)
    (enough : limit ≤ state.steps) : step task state = .error (.limitReached limit) state := by
  have reached : reachedLimit? task state = some limit :=
    Option.filter_eq_some_iff.mpr ⟨limited, decide_eq_true enough⟩
  rw [step, reached]

/-- A state is reached by no more steps than are allowed. -/
theorem ReachedBySteps.steps_le {limit : Nat} (h : ReachedBySteps task state)
    (limited : task.limit = some limit) : state.steps ≤ limit := by
  induction h with
  | start started =>
    rw [(eq_initial_of_start started).2]
    exact Nat.zero_le limit
  | @step state next action before taken ih =>
    rw [(steps_eq_of_step before taken).2]
    refine Nat.lt_of_not_le fun enough => ?_
    rw [step_of_limit_le limited enough] at taken
    cases taken

/-- A step that breaks off was allowed. -/
theorem steps_lt_of_step_eq_overflow {limit : Nat} (broken : step task state = .overflow)
    (limited : task.limit = some limit) : state.steps < limit := by
  refine Nat.lt_of_not_le fun enough => ?_
  rw [step_of_limit_le limited enough] at broken
  cases broken

end Descent.Search
