import Descent.Search.Step

/-!
# Reached states

Nothing obliges one who calls a search to ask for the actions that it would choose, or to stop
when a call failed.  `Search.Reached` are the states that calls lead to in whatever order they are
made; what holds of these holds of a search in anyone's hands.  `Search.ReachedBySteps` are those
that a search leads to which is left to itself, and of which more is true.
-/

namespace Descent.Search

/-- The state that a call leaves, unless the search breaks off. -/
def Reply.state? {α : Type} : Reply α → Option State
  | .ok _ state | .error _ state => some state
  | .overflow => none

/-- A state that some calls lead to from the start of a search.  Any action may be asked for at
any time, and a call that fails may be followed by others. -/
inductive Reached (task : Task) : State → Prop where
  /-- No call was made. -/
  | start {state : State} (h : start task = .ok state) : Reached task state
  /-- The last call asked for the next action. -/
  | step {state next : State} (h : Reached task state)
      (left : (step task state).state? = some next) : Reached task next
  /-- The last call asked for some action. -/
  | apply {state next : State} (action : Action) (h : Reached task state)
      (left : (apply task action state).state? = some next) : Reached task next

/-- The state that is left after some calls which ask for the next action, unless the search broke
off in one of them. -/
def afterCalls? (task : Task) (state : State) : Nat → Option State
  | 0 => some state
  | count + 1 => (afterCalls? task state count).bind fun state => (step task state).state?

/-- A state that a search leads to by steps that succeed. -/
inductive ReachedBySteps (task : Task) : State → Prop where
  /-- No step was taken. -/
  | start {state : State} (h : start task = .ok state) : ReachedBySteps task state
  /-- One step more was taken. -/
  | step {state next : State} {action : Action} (h : ReachedBySteps task state)
      (taken : step task state = .ok action next) : ReachedBySteps task next

/-- Steps are calls. -/
theorem ReachedBySteps.reached {task : Task} {state : State} (h : ReachedBySteps task state) :
    Reached task state := by
  induction h with
  | start h => exact .start h
  | step _ taken ih => exact .step ih (by rw [taken]; rfl)

/-- A search that can start has a grammar without errors, and starts with nothing done. -/
theorem eq_initial_of_start {task : Task} {state : State} (h : start task = .ok state) :
    check task.grammar = none ∧ state = State.initial task.grammar.start := by
  unfold start at h
  split at h
  · simp at h
  · rename_i none
    exact ⟨none, (Except.ok.inj h).symm⟩

end Descent.Search
