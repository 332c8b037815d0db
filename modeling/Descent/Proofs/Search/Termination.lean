import Mathlib
import Descent.Proofs.Search.Completeness
import Descent.Proofs.Search.Progress

/-!
# Termination of the search

Doing things leads only so far.  Matching a token leaves fewer of them, and between two matches
alternatives are taken in place of their left corners, which ends where no reachable nonterminal
is left-recursive.  By induction on how far a stage is from where doing things ends, the search
comes back to it, or is over: it comes back from what the next thing leads to, and then there is
one alternative less to try.

No bound on the number of steps is needed for this, only that each branch is finite;
`Search.exists_settled` is the induction.  The search may also break off on the way, as a tree can
be too large to be held.
-/

namespace Descent.Search

variable {task : Task} {state : State} {frames : List Frame} {stage : Stage}

/-! ### Doing things ends -/

/-- `Extends task next prior` says that doing one thing leads from `prior` to `next`. -/
def Extends (task : Task) (next prior : Stage) : Prop := ∃ frame, Redo task prior frame next

/-- Doing things ends from a stage with a symbol at the front from which chains of left corners
end, if it ends once a token more is matched. -/
theorem acc_of_acc_leftCorner {symbol : Symbol} {cursor : Nat}
    (corner : Acc (fun corner symbol => task.grammar.LeftCorner symbol corner) symbol)
    (later : ∀ {frames stage}, Replay task frames stage → cursor < stage.cursor →
      Acc (Extends task) stage)
    (replay : Replay task frames stage) (same : stage.cursor = cursor)
    (front : stage.form.head? = some symbol) : Acc (Extends task) stage := by
  induction corner generalizing frames stage with
  | intro symbol _ ih =>
    refine Acc.intro stage fun next step => ?_
    obtain ⟨frame, redo⟩ := step
    cases frame with
    | matched terminal node =>
      obtain ⟨-, -, -, moved, -⟩ := redo_matched_iff.mp redo
      exact later (.redo replay redo) (by omega)
    | expanded nonterminal alternative node children =>
      obtain ⟨index, production, rest, rfl, chosen, rfl, front', rfl, -⟩ :=
        redo_expanded_iff.mp redo
      rw [Stage.form, front', List.map_cons, List.head?_cons, Option.some.injEq] at front
      subst front
      have first : task.grammar.LeftCorner nonterminal production.first :=
        Grammar.leftCorner_iff.mpr ⟨production, List.mem_of_getElem? chosen, rfl⟩
      refine ih production.first first (.redo replay redo) same ?_
      rw [Stage.form, List.map_append, map_symbol_pendingFrom]
      rfl

/-- **Doing things ends** where no reachable nonterminal is left-recursive. -/
theorem Replay.acc (replay : Replay task frames stage) (usable : task.grammar.Usable)
    (h : ∀ symbol ∈ task.grammar.reachable, ¬ task.grammar.isLeftRecursive symbol) :
    Acc (Extends task) stage := by
  -- The outer induction is on the tokens that are left, the inner one on the symbol at the front.
  induction remaining : task.tokens.size - stage.cursor using Nat.strong_induction_on
    generalizing frames stage with
  | _ count ih =>
    cases front : stage.input with
    | nil =>
      refine Acc.intro stage fun next step => ?_
      obtain ⟨frame, redo⟩ := step
      cases redo <;> cases front
    | cons head input =>
      have known := replay.pending_reachable usable head (by rw [front]; exact List.mem_cons_self)
      have first : stage.form.head? = some head.symbol := by
        rw [Stage.form, front]
        rfl
      refine acc_of_acc_leftCorner (Grammar.acc_leftCorner h known.2) ?_ replay rfl first
      intro frames' stage' replay' further
      have inside := replay'.cursor_le
      exact ih (task.tokens.size - stage'.cursor) (by omega) replay' rfl

/-! ### Coming back -/

/-- The search is over or breaks off, since its tree has no room for the next action. -/
def Stopped (task : Task) (last : State) : Prop :=
  last.mode.isHalted ∨ last.mode.isHalted = false ∧ step task last = .overflow

/-- The search is over or breaks off, or it goes back from the stage that doing `working` leads to,
and something is still done. -/
def Settled (task : Task) (working : List Frame) (stage : Stage) (last : State) : Prop :=
  Stopped task last ∨
    working ≠ [] ∧ last.mode = .backtrack ∧ last.working = working ∧ last.stage = stage

/-- Where there is no room for the next action, the search breaks off, if steps are not limited. -/
theorem Overfull.stopped {action : Action} (full : Overfull task state action)
    (unlimited : task.limit = none) (mode : state.mode = action.mode)
    (replay : Replay task state.working state.stage)
    (chosen : nextAction task state = .ok action) : Stopped task state := by
  have broken := full.step_eq mode replay (reachedLimit?_eq_none unlimited state) chosen
  exact .inr ⟨by rw [mode, Action.isHalted_mode], broken⟩

/-- A search that comes back from each alternative of a nonterminal, from the one that it has taken
on, comes back from the nonterminal or is over. -/
theorem exists_settled_expanded {nonterminal : Symbol} {alternative : Nat} {node children : Index}
    {working : List Frame} {prior : Stage} (unlimited : task.limit = none)
    (settled : ∀ {state}, Extends task state.stage prior → state.mode = .normal →
      Replay task state.working state.stage →
      ∃ last, Leads task state last ∧ Settled task state.working state.stage last)
    (mode : state.mode = .normal)
    (top : state.working = .expanded nonterminal alternative node children :: working)
    (replay : Replay task state.working state.stage)
    (redo : Redo task prior (.expanded nonterminal alternative node children) state.stage) :
    ∃ last, Leads task state last ∧ Settled task working prior last := by
  induction remaining : (task.grammar.alternatives nonterminal).length - alternative
    using Nat.strong_induction_on generalizing state alternative with
  | _ count ih =>
    obtain ⟨last, leads, stopped | ⟨-, backtrack, same, there⟩⟩ := settled ⟨_, redo⟩ mode replay
    · exact ⟨last, leads, .inl stopped⟩
    rw [← same] at replay top
    rw [← there] at replay redo
    have chosen : nextAction task last = .ok .anotherTry := by
      simp only [nextAction, backtrack, top]
    by_cases ended : (task.grammar.alternatives nonterminal).length = alternative
    · cases working with
      | nil =>
        have move := Move.reject top redo ended
        exact ⟨_, leads.trans (move.leads unlimited backtrack chosen), .inl (.inl rfl)⟩
      | cons frame frames =>
        have others : frame :: frames ≠ [] := List.cons_ne_nil frame frames
        have move := Move.exhaust top redo ended others
        exact ⟨_, leads.trans (move.leads unlimited backtrack chosen),
          .inr ⟨others, rfl, rfl, rfl⟩⟩
    · obtain ⟨production, following, onward⟩ := redo.exists_following ended
      by_cases room : prior.tree.HasRoom production.length
      case neg =>
        have cut : last.tree.truncate children = prior.tree := redo.truncate_eq
        have full : Overfull task last .anotherTry :=
          .anotherTry top following (by rwa [cut])
        exact ⟨last, leads, .inl (full.stopped unlimited backtrack replay chosen)⟩
      obtain ⟨after, again⟩ := onward room
      have inside := again.le_length
      have move := Move.retry top redo again
      have sound := (move.sound replay).counted
      obtain ⟨final, further, outcome⟩ :=
        ih _ (by omega) rfl rfl (sound.replay (by simp)) again rfl
      have leads := leads.trans (move.leads unlimited backtrack chosen)
      exact ⟨final, leads.trans further, outcome⟩

/-- **The search comes back** from every stage from which doing things ends, or is over. -/
theorem exists_settled (usable : task.grammar.Usable) (unlimited : task.limit = none)
    (ends : Acc (Extends task) stage) (same : state.stage = stage) (mode : state.mode = .normal)
    (replay : Replay task state.working state.stage) :
    ∃ last, Leads task state last ∧ Settled task state.working state.stage last := by
  induction ends generalizing state with
  | intro stage _ ih =>
    subst same
    obtain ⟨action, forward, normal, moves⟩ := exists_forward replay usable
    have chosen : nextAction task state = .ok action := by rw [nextAction, mode, forward]
    rcases moves with ⟨moved, move⟩ | full
    case inr =>
      exact ⟨state, .refl, .inl (full.stopped unlimited (mode.trans normal.symm) replay chosen)⟩
    have leads := move.leads unlimited (mode.trans normal.symm) chosen
    have sound := (move.sound replay).counted
    -- Only an expansion can be the first thing that is done.
    have others : action ≠ .expand → state.working ≠ [] := by
      intro other nothing
      rw [nextForward_of_working_eq_nil replay usable nothing] at forward
      exact other (Except.ok.inj forward).symm
    cases move with
    | expand redo =>
      obtain ⟨last, further, outcome⟩ := exists_settled_expanded unlimited
        (fun step mode replay => ih _ step rfl mode replay) rfl rfl
        (sound.replay (by simp)) redo
      exact ⟨last, leads.trans further, outcome⟩
    | @advance terminal node next redo =>
      have replay := sound.replay (by simp)
      obtain ⟨last, further, outcome⟩ := ih next ⟨_, redo⟩ (by simp) (by simp) replay
      rcases outcome with stopped | ⟨-, backtrack, matched, there⟩
      · exact ⟨last, leads.trans further, .inl stopped⟩
      -- What was matched comes first when the search goes back.
      have landed : last.stage = next := there.trans (by simp)
      rw [← matched, ← there] at replay
      have top : last.working = .matched terminal node :: state.working := by
        rw [matched]
        simp
      have chosen : nextAction task last = .ok .back := by
        simp only [nextAction, backtrack, top]
      have undone := Move.back top (by rwa [landed])
      have leads := leads.trans (further.trans (undone.leads unlimited backtrack chosen))
      exact ⟨_, leads, .inr ⟨others (by decide), rfl, rfl, rfl⟩⟩
    | giveUp => exact ⟨_, leads, .inr ⟨others (by decide), rfl, rfl, rfl⟩⟩
    | success => exact ⟨_, leads, .inl (.inl rfl)⟩
    | back | retry | exhaust | reject => cases normal

/-! ### Verdicts -/

/-- **Every search comes to a verdict**, and to the right one, over a grammar without errors in
which no reachable nonterminal is left-recursive, if it may take as many steps as it needs.  Only
where its tree runs out of room before that, which takes so many steps that their nodes fill the
tree, it breaks off instead; in no case does it go on for ever or fail. -/
theorem exists_verdict_of_not_leftRecursive {grammar : Grammar} (valid : grammar.isValid)
    (h : ∀ nonterminal ∈ grammar.reachable, .leftRecursive nonterminal ∉ grammar.problems)
    (tokens : Array Symbol) :
    (∃ verdict : Verdict,
      ((∃ tree steps, verdict = .accepted tree steps) ↔
        tokens.toList ∈ grammar.toContextFree.language) ∧
      ∀ {σ : Type} (observe : σ → Action → State → σ) (fuel : Nat) (seen : σ),
        (parse ⟨grammar, tokens, none⟩ observe fuel seen).2 =
          if verdict.steps ≤ fuel then some (.ok verdict) else none) ∨
    ∃ last action, ReachedBySteps ⟨grammar, tokens, none⟩ last ∧
      nextAction ⟨grammar, tokens, none⟩ last = .ok action ∧
      Overfull ⟨grammar, tokens, none⟩ last action ∧
      (∀ width, Narrow grammar width → ¬ 1 + (last.steps + 1) * width < Index.last) ∧
      ∀ {σ : Type} (observe : σ → Action → State → σ) (fuel : Nat) (seen : σ),
        (parse ⟨grammar, tokens, none⟩ observe fuel seen).2 =
          if last.steps + 1 ≤ fuel then some .overflow else none := by
  have usable := Grammar.isValid_iff_usable.mp valid
  have noRecursion : ∀ symbol ∈ grammar.reachable, ¬ grammar.isLeftRecursive symbol := by
    intro symbol reached recursive
    refine h symbol reached (Grammar.leftRecursive_mem_problems_iff.mpr ⟨?_, recursive⟩)
    exact Grammar.mem_nonterminals_iff.mp (mem_fresh_of_mem_reach reached)
  have started : start ⟨grammar, tokens, none⟩ = .ok (.initial grammar.start) := start_eq usable
  have replay : Replay ⟨grammar, tokens, none⟩ [] (State.initial grammar.start).stage := .start
  have first : (State.initial grammar.start).steps = 0 := rfl
  obtain ⟨last, leads, (halted | ⟨going, broken⟩) | ⟨others, -⟩⟩ :=
    exists_settled usable rfl (replay.acc usable noRecursion) rfl rfl replay
  · have reached := leads.reachedBySteps (.start started)
    refine .inl ⟨last.verdict ⟨grammar, tokens, none⟩, reached.accepted_iff halted,
      fun observe fuel seen => ?_⟩
    have result := run_of_leads observe leads (.start started) halted fuel seen
    rw [first, Nat.zero_add, ← State.steps_verdict] at result
    rw [parse, started]
    exact result
  · have reached := leads.reachedBySteps (.start started)
    obtain ⟨action, chosen, full⟩ := overfull_of_step_eq_overflow reached.reached broken
    refine .inr ⟨last, action, reached, chosen, full,
      fun width narrow => full.not_lt reached narrow, fun observe fuel seen => ?_⟩
    have result := run_of_leads_overflow observe leads (.start started) broken (by simp [going])
      fuel seen
    rw [first, Nat.zero_add] at result
    rw [parse, started]
    exact result
  · exact absurd rfl others

/-- Whether some tokens are a sum is decided. -/
theorem exists_verdict_sums :
    ∃ verdict : Verdict,
      ((∃ tree steps, verdict = .accepted tree steps) ↔
        ["x", "+"] ∈ Grammar.sums.toContextFree.language) ∧
      ∀ {σ : Type} (observe : σ → Action → State → σ) (fuel : Nat) (seen : σ),
        (parse ⟨.sums, #["x", "+"], none⟩ observe fuel seen).2 =
          if verdict.steps ≤ fuel then some (.ok verdict) else none := by
  have valid : Grammar.sums.isValid := by cbv
  have problems : Grammar.sums.problems = [] := by cbv
  rcases exists_verdict_of_not_leftRecursive valid (fun nonterminal _ => by
    rw [problems]
    exact List.not_mem_nil) #["x", "+"] with decided | ⟨last, action, -, -, -, -, broken⟩
  · exact decided
  · have result : (parse ⟨.sums, #["x", "+"], none⟩ unobserved 31 ()).2 =
        some (.ok (.rejected ⟨some "T", 2, none, ["(", "x"], 31⟩)) := by cbv
    rw [broken] at result
    split at result <;> cases result

end Descent.Search
