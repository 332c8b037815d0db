import Mathlib
import Descent.Proofs.Search.Completeness
import Descent.Proofs.Search.Limit

/-!
# Left recursion at the start

Where chains of left corners from the start symbol do not end, there are derivations of every
length that have not come to a token yet.  The search goes through them one after the other: none
of them is passed over before all of its alternatives are on the working stack, which takes as
many steps.  So some of them are always left, and tokens are never rejected.

Each of these derivations is held in the tree, which has room for so many nodes and no more.  A
search that runs into this breaks off, but not before as many steps as `Overfull.not_lt` says.
-/

namespace Descent

open Relation

namespace Grammar

variable {grammar : Grammar} {symbol : Symbol}

/-! ### Endless chains of left corners -/

/-- Some chain of left corners leads from the symbol to one that a further chain leads back to, so
that it can go on for ever. -/
def EndlessCorners (grammar : Grammar) (symbol : Symbol) : Prop :=
  ∃ nonterminal, ReflTransGen grammar.LeftCorner symbol nonterminal ∧
    TransGen grammar.LeftCorner nonterminal nonterminal

/-- An endless chain goes on with an alternative, the first symbol of which it goes on from. -/
theorem EndlessCorners.exists_alternative (h : grammar.EndlessCorners symbol) :
    ∃ (index : Nat) (production : Production),
      (grammar.alternatives symbol)[index]? = some production ∧
      grammar.EndlessCorners production.first := by
  obtain ⟨nonterminal, chain, cycle⟩ := h
  have onward : ∃ corner, grammar.LeftCorner symbol corner ∧ grammar.EndlessCorners corner := by
    rcases chain.cases_head with rfl | ⟨corner, first, chain⟩
    · obtain ⟨corner, first, back⟩ := TransGen.head'_iff.mp cycle
      exact ⟨corner, first, symbol, back, cycle⟩
    · exact ⟨corner, first, nonterminal, chain, cycle⟩
  obtain ⟨corner, first, endless⟩ := onward
  obtain ⟨production, mem, rfl⟩ := leftCorner_iff.mp first
  obtain ⟨index, chosen⟩ := List.mem_iff_getElem?.mp mem
  exact ⟨index, production, chosen, endless⟩

/-- **There are derivations of every length that read nothing** and stop before a nonterminal. -/
theorem EndlessCorners.exists_leftReads (h : grammar.EndlessCorners symbol) (count : Nat) :
    ∃ choices corner rest, choices.length = count ∧ grammar.EndlessCorners corner ∧
      grammar.LeftReads [symbol] choices [] (corner :: rest) := by
  induction count with
  | zero => exact ⟨[], symbol, [], rfl, h, .stop _⟩
  | succ count ih =>
    obtain ⟨choices, corner, rest, rfl, endless, reads⟩ := ih
    obtain ⟨index, production, chosen, onward⟩ := endless.exists_alternative
    refine ⟨choices ++ [index + 1], production.first, production.rest ++ rest,
      List.length_append, onward, ?_⟩
    exact reads.concat_nonterminal chosen

end Grammar

namespace Search

variable {task : Task} {state moved : State} {action : Action} {other : List Nat}
  {corner : Symbol} {rest : List Symbol}

/-! ### What is pursued -/

/-- A move puts one alternative on the working stack at most. -/
theorem Move.length_choices_le (h : Move task state action moved) :
    (choices moved.working).length ≤ (choices state.working).length + 1 := by
  cases h with
  | expand | advance => simp [choices]
  | giveUp | success => exact Nat.le_succ _
  | back top | retry top | reject top => simp [choices, top]
  | exhaust top =>
    rw [top, choices, List.length_append]
    exact (Nat.le_add_right _ _).trans (Nat.le_succ _)

/-- Where the search gives up, a derivation that reads nothing and stops before some symbol does
not go on. -/
theorem eq_choices_of_giveUp (replay : Replay task state.working state.stage)
    (stuck : nextForward task state = .ok .momentaryInsuccess)
    (reads : task.grammar.LeftReads [task.grammar.start] other [] (corner :: rest))
    (goesOn : choices state.working <+: other) :
    other = choices state.working := by
  obtain ⟨more, rfl⟩ := goesOn
  rcases replay.of_leftReads reads with ⟨later, nothing, onward⟩ | ⟨stopped, -⟩
  · obtain ⟨-, rfl⟩ := List.append_eq_nil_iff.mp nothing.symm
    rw [Stage.form, State.stage_input] at onward
    rcases stuck_of_nextForward stuck with ⟨derived, -⟩ | ⟨head, input, front, terminal, -⟩
    · rw [derived] at onward
      cases onward
    · rw [front, List.map_cons] at onward
      obtain rfl := Grammar.choices_eq_nil_of_leftReads terminal onward
      exact List.append_nil _
  · rw [stopped, List.append_nil]

/-- **A derivation that reads nothing is pursued** for as many steps as it takes alternatives. -/
theorem ReachedBySteps.pursued (h : ReachedBySteps task state)
    (reads : task.grammar.LeftReads [task.grammar.start] other [] (corner :: rest)) :
    (choices state.working).length ≤ state.steps ∧
      (state.steps ≤ other.length → Pursued state other) := by
  refine h.of_moves (motive := fun state => (choices state.working).length ≤ state.steps ∧
    (state.steps ≤ other.length → Pursued state other)) ?initial ?moves
  case initial => exact ⟨Nat.le_refl 0, fun _ => .inr ⟨.inl rfl, List.nil_prefix⟩⟩
  case moves =>
    rintro state action moved replay mode chosen move ⟨height, known⟩
    have counted : moved.counted.steps = state.steps + 1 := by
      rw [State.steps_counted, move.steps_eq]
    rw [counted]
    refine ⟨move.length_choices_le.trans (Nat.succ_le_succ height), fun early => ?_⟩
    -- It would be passed over only with all of its alternatives on the working stack.
    have short : other ≠ choices state.working := by
      rintro rfl
      exact absurd height (Nat.not_le_of_lt early)
    rcases move.pursued replay mode reads (known (Nat.le_of_succ_le early)) with
      pursued | ⟨-, same⟩ | ⟨rfl, goesOn⟩
    · exact pursued
    · exact absurd same short
    · rw [nextAction, mode] at chosen
      exact absurd (eq_choices_of_giveUp replay chosen reads goesOn) short

/-- **A search never comes to reject tokens** where chains of left corners from the start symbol do
not end. -/
theorem ReachedBySteps.mode_ne_error (h : ReachedBySteps task state)
    (endless : task.grammar.EndlessCorners task.grammar.start) : state.mode ≠ .error := by
  intro mode
  obtain ⟨other, corner, rest, length, -, reads⟩ := endless.exists_leftReads state.steps
  have pursued := (h.pursued reads).2 (Nat.le_of_eq length.symm)
  exact not_pursued_of_error mode (h.reached.sound.rejected mode).1 pursued

/-- Where chains of left corners from the start symbol do not end, a search that is over has
accepted the tokens. -/
theorem ReachedBySteps.mode_eq_final (h : ReachedBySteps task state)
    (endless : task.grammar.EndlessCorners task.grammar.start) (halted : state.mode.isHalted) :
    state.mode = .final :=
  (Mode.isHalted_iff.mp halted).resolve_left (h.mode_ne_error endless)

/-! ### Runs with a limit -/

/-- **What a run comes to that may take only so many steps**, if it is given more: the verdict of a
state that it ends in, or that it may take no more steps, unless it breaks off. -/
theorem run_of_limit {σ : Type} (observe : σ → Action → State → σ) {limit : Nat}
    (limited : task.limit = some limit) (h : ReachedBySteps task state) (fuel : Nat)
    (enough : limit < state.steps + fuel) (seen : σ) :
    (∃ last, ReachedBySteps task last ∧ last.mode.isHalted ∧
      (run task observe fuel state seen).2 = some (.ok (last.verdict task))) ∨
      (run task observe fuel state seen).2 = some (.error (.limitReached limit)) ∨
      ∃ last, ReachedBySteps task last ∧ step task last = .overflow ∧
        (run task observe fuel state seen).2 = some .overflow := by
  induction fuel generalizing state seen with
  | zero => exact absurd (h.steps_le limited) (Nat.not_le_of_lt enough)
  | succ fuel ih =>
    by_cases halted : state.mode.isHalted
    · exact .inl ⟨state, h, halted, by rw [run_of_isHalted halted]⟩
    cases taken : step task state with
    | error fault next =>
      right
      left
      rw [run_succ_of_error halted taken]
      rcases fault_of_step_eq_error h taken with ⟨limit', limited', -, rfl⟩ | ⟨ended, -⟩
      · obtain rfl := Option.some.inj (limited.symm.trans limited')
        rfl
      · exact absurd ended halted
    | overflow => exact .inr (.inr ⟨state, h, taken, by rw [run_succ_of_overflow halted taken]⟩)
    | ok action next =>
      rw [run_succ_of_ok halted taken]
      refine ih (.step h taken) ?_ _
      rw [(steps_eq_of_step h taken).2, Nat.add_right_comm]
      exact enough

/-- A step that breaks off under a limit comes after so many steps that their nodes fill the
tree. -/
theorem not_lt_of_step_eq_overflow {limit width : Nat} (h : ReachedBySteps task state)
    (limited : task.limit = some limit) (broken : step task state = .overflow)
    (narrow : Narrow task.grammar width) : ¬ 1 + limit * width < Index.last := by
  obtain ⟨action, -, full⟩ := overfull_of_step_eq_overflow h.reached broken
  have fewer : (state.steps + 1) * width ≤ limit * width :=
    Nat.mul_le_mul_right width (steps_lt_of_step_eq_overflow broken limited)
  exact fun early => full.not_lt h narrow (Nat.lt_of_le_of_lt (Nat.add_le_add_left fewer 1) early)

/-- **Left recursion at the start never rejects.**  If nothing is missing in a grammar and a chain
of left corners leads from the start symbol to a nonterminal that is reported as left-recursive,
then tokens are never rejected, however steps are taken.  A run that may take only so many steps
accepts the tokens or takes them all, and takes them all if the tokens are not in the language.
Only a run with so many steps that their nodes fill the tree can break off instead. -/
theorem never_rejected_of_leftRecursive (grammar : Grammar) (checked : check grammar = none)
    (nonterminal : Symbol)
    (chain : ReflTransGen grammar.LeftCorner grammar.start nonterminal)
    (reported : .leftRecursive nonterminal ∈ grammar.problems) (tokens : Array Symbol) :
    (∀ limit first, start ⟨grammar, tokens, limit⟩ = .ok first → ∀ count state,
      afterCalls? ⟨grammar, tokens, limit⟩ first count = some state → state.mode ≠ .error) ∧
    (∀ (σ : Type) (observe : σ → Action → State → σ) (limit : Option Nat) (fuel : Nat) (seen : σ)
      (rejection : Rejection),
      (parse ⟨grammar, tokens, limit⟩ observe fuel seen).2 ≠ some (.ok (.rejected rejection))) ∧
    ∀ (σ : Type) (observe : σ → Action → State → σ) (limit fuel : Nat) (seen : σ), limit < fuel →
      (((∃ tree steps, (parse ⟨grammar, tokens, some limit⟩ observe fuel seen).2 =
          some (.ok (.accepted tree steps))) ∨
        (parse ⟨grammar, tokens, some limit⟩ observe fuel seen).2 =
          some (.error (.limitReached limit))) ∧
      (tokens.toList ∉ grammar.toContextFree.language →
        (parse ⟨grammar, tokens, some limit⟩ observe fuel seen).2 =
          some (.error (.limitReached limit)))) ∨
      (parse ⟨grammar, tokens, some limit⟩ observe fuel seen).2 = some .overflow ∧
        ∀ width, Narrow grammar width → ¬ 1 + limit * width < Index.last := by
  have endless : grammar.EndlessCorners grammar.start :=
    ⟨nonterminal, chain, Grammar.transGen_of_isLeftRecursive
      (Grammar.leftRecursive_mem_problems_iff.mp reported).2⟩
  refine ⟨fun limit first started count state left => ?steps, ?runs, ?limited⟩
  case steps => exact (reachedBySteps_of_afterCalls started left).mode_ne_error endless
  case runs =>
    intro σ observe limit fuel seen rejection rejected
    obtain ⟨last, reached, mode, -⟩ := exists_error_of_parse rejected
    exact reached.mode_ne_error endless mode
  case limited =>
    intro σ observe limit fuel seen enough
    have started : start ⟨grammar, tokens, some limit⟩ = .ok (.initial grammar.start) :=
      start_eq (check_eq_none_iff_usable.mp checked)
    have first : (State.initial grammar.start).steps = 0 := rfl
    simp only [parse, started]
    rcases run_of_limit observe rfl (.start started) fuel
      (by rw [first, Nat.zero_add]; exact enough) seen with
      ⟨last, reached, halted, result⟩ | result | ⟨last, reached, broken, result⟩
    · have accepted := @State.verdict_of_final ⟨grammar, tokens, some limit⟩ last
        (reached.mode_eq_final endless halted)
      rw [result, accepted]
      refine .inl ⟨.inl ⟨_, _, rfl⟩, fun absent => ?_⟩
      exact absurd ((reached.accepted_iff halted).mp ⟨_, _, accepted⟩) absent
    · exact .inl ⟨.inr result, fun _ => result⟩
    · exact .inr ⟨result, fun width narrow => not_lt_of_step_eq_overflow reached rfl broken narrow⟩

/-- A list that starts with a shorter one: no number of steps is enough to reject a token that does
not come up in it. -/
theorem never_rejected_of_leftRecursive_lists :
    let grammar : Grammar := ⟨[⟨"S", [⟨"L", [";"]⟩]⟩, ⟨"L", [⟨"x", []⟩, ⟨"L", ["x"]⟩]⟩],
      ["x", ";"], "S"⟩
    check grammar = none ∧ ReflTransGen grammar.LeftCorner grammar.start "L" ∧
      .leftRecursive "L" ∈ grammar.problems ∧
      ["y"] ∉ grammar.toContextFree.language ∧
      ∀ limit, 1 + limit * 2 < Index.last →
        (parse ⟨grammar, #["y"], some limit⟩ unobserved (limit + 1) ()).2 =
          some (.error (.limitReached limit)) := by
  intro grammar
  have checked : check grammar = none := by cbv
  have chain : ReflTransGen grammar.LeftCorner grammar.start "L" :=
    .single (Grammar.leftCorner_iff.mpr ⟨⟨"L", [";"]⟩, by decide, rfl⟩)
  have again : grammar.LeftCorner "L" "L" :=
    Grammar.leftCorner_iff.mpr ⟨⟨"L", ["x"]⟩, by decide, rfl⟩
  have reported : .leftRecursive "L" ∈ grammar.problems :=
    Grammar.leftRecursive_mem_problems_iff.mpr (Grammar.isLeftRecursive_of_transGen (.single again))
  have absent : ["y"] ∉ grammar.toContextFree.language := by
    rw [(check_eq_none_iff_usable.mp checked).mem_language_iff_generates]
    intro generated
    exact absurd (generated.2 "y" List.mem_cons_self) (by decide)
  obtain ⟨-, -, limited⟩ :=
    never_rejected_of_leftRecursive grammar checked "L" chain reported #["y"]
  have narrow : Narrow grammar 2 := by
    unfold Narrow
    decide
  refine ⟨checked, chain, reported, absent, fun limit early => ?_⟩
  rcases limited Unit unobserved limit (limit + 1) () (Nat.lt_succ_self limit) with
    ⟨-, all⟩ | ⟨-, late⟩
  · exact all absent
  · exact absurd early (late 2 narrow)

end Search

end Descent
