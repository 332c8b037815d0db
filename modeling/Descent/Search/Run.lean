import Descent.Search.Step
import Descent.Search.Verdict

/-!
# Running a search

A search over a left-recursive grammar may go on for ever, so a run is given a number of steps to
take at most.  When they do not suffice there is no answer, which is different from the fault of a
task that allows only so many steps.  Each step is shown to an observer, which is how a trace is
written, and how one can speak of the states that a run went through.
-/

namespace Descent.Search

/-- What a run comes to. -/
inductive Answer where
  /-- The search is over. -/
  | ok (verdict : Verdict)
  /-- A step failed. -/
  | error (fault : Fault)
  /-- The tree had no room for what a step derived. -/
  | overflow
deriving DecidableEq, Repr

/-- Takes at most `fuel` steps, until the search is over, a step fails, or the search breaks off.
Each step and the state after it are shown to `observe`; the result is what was made of them, and
the answer, if it came to one. -/
def run {σ : Type} (task : Task) (observe : σ → Action → State → σ) (fuel : Nat) (state : State)
    (seen : σ) : σ × Option Answer :=
  if state.mode.isHalted then (seen, some (.ok (state.verdict task)))
  else
    match fuel with
    | 0 => (seen, none)
    | fuel + 1 =>
      match step task state with
      | .error fault _ => (seen, some (.error fault))
      | .overflow => (seen, some .overflow)
      | .ok action state => run task observe fuel state (observe seen action state)
termination_by structural fuel

/-- The answer to the tokens of a task, if `fuel` steps suffice, and what an observer makes of the
search. -/
def parse {σ : Type} (task : Task) (observe : σ → Action → State → σ) (fuel : Nat) (seen : σ) :
    σ × Option Answer :=
  match start task with
  | .error fault => (seen, some (.error fault))
  | .ok state => run task observe fuel state seen

/-- The number of steps, the action, and the state after it. -/
def traceLine (action : Action) (state : State) : String :=
  Text.padLeft 6 (Nat.repr state.steps) ++ " " ++ Text.padRight 20 action.name ++ " " ++
    state.render ++ "\n"

/-- An observer that sees nothing. -/
def unobserved (_ : Unit) (_ : Action) (_ : State) : Unit := ()

end Descent.Search
