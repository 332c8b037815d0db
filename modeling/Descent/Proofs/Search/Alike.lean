import Descent.Proofs.Search.Furthest
import Descent.Proofs.Search.Progress

/-!
# What a search reads

A step reads of a task the token at the cursor, whether this is the end, and the declarations of
the symbols at hand.  Two tasks that agree on these in every state that one search goes through
have the same search.  Nothing behind the furthest position matters for a rejection, and nothing
that the start symbol does not lead to matters at all.

Both consequences come from `Search.Alike` in the same way: an invariant of one search says that
it never looks beyond some border, and the other search is then the same step by step.  The trees
that they make are the same too, so if one has no room the other has none.
-/

namespace Descent.Search

variable {task other : Task} {state last : State} {σ : Type}
  {observe : σ → Action → State → σ} {fuel : Nat} {seen : σ}

/-- Two tasks agree on all that is read of them in a state. -/
structure Alike (task other : Task) (state : State) : Prop where
  /-- They allow as many steps. -/
  limit : other.limit = task.limit
  /-- The symbols to be derived are of the same kinds. -/
  kind : ∀ pending ∈ state.input,
    other.grammar.kind? pending.symbol = task.grammar.kind? pending.symbol
  /-- They have the same alternatives. -/
  pending : ∀ pending ∈ state.input,
    other.grammar.alternatives pending.symbol = task.grammar.alternatives pending.symbol
  /-- So have the symbols of what was done. -/
  done : ∀ frame ∈ state.working,
    other.grammar.alternatives frame.symbol = task.grammar.alternatives frame.symbol
  /-- The next token is the same. -/
  token : state.currentToken? other = state.currentToken? task
  /-- The tokens end at the cursor in both or in neither. -/
  ended : state.cursor = other.tokens.size ↔ state.cursor = task.tokens.size
  /-- The token after the furthest position is the same. -/
  found : other.tokens[state.furthest]? = task.tokens[state.furthest]?

namespace Alike

/-! ### One step -/

theorem nextAction_eq (h : Alike task other state) :
    nextAction other state = nextAction task state := by
  have forward : nextForward other state = nextForward task state := by
    unfold nextForward
    cases front : state.input with
    | nil => simp only [h.ended]
    | cons head input =>
      have kind := h.kind head (by rw [front]; exact List.mem_cons_self)
      simp only [kind, h.token]
  simp only [nextAction, forward]

theorem isTerminal_eq (h : Alike task other state) {head : Pending} {input : List Pending}
    (front : state.input = head :: input) :
    other.grammar.isTerminal head.symbol = task.grammar.isTerminal head.symbol := by
  have kind := h.kind head (by rw [front]; exact List.mem_cons_self)
  rw [Grammar.isTerminal, kind, Grammar.isTerminal]

theorem expand_eq (h : Alike task other state) : expand other state = expand task state := by
  unfold expand
  cases front : state.input with
  | nil => rfl
  | cons head input =>
    have mem : head ∈ state.input := by
      rw [front]
      exact List.mem_cons_self
    simp only [h.kind head mem, h.pending head mem]

theorem advance_eq (h : Alike task other state) : advance other state = advance task state := by
  unfold advance
  cases front : state.input with
  | nil => rfl
  | cons head input => simp only [h.isTerminal_eq front, h.token]

theorem giveUp_eq (h : Alike task other state) : giveUp other state = giveUp task state := by
  have noted : state.noteExpected other = state.noteExpected task := by
    unfold State.noteExpected
    cases front : state.input with
    | nil => rfl
    | cons head input => simp only [h.isTerminal_eq front]
  rw [giveUp, noted, giveUp]

theorem anotherTry_eq (h : Alike task other state) :
    anotherTry other state = anotherTry task state := by
  unfold anotherTry
  cases top : state.working with
  | nil => rfl
  | cons frame working =>
    cases frame with
    | matched terminal node => rfl
    | expanded nonterminal alternative node children =>
      have alternatives := h.done (.expanded nonterminal alternative node children) (by
        rw [top]
        exact List.mem_cons_self)
      rw [Frame.symbol] at alternatives
      simp only [alternatives]

theorem succeed_eq (h : Alike task other state) : succeed other state = succeed task state := by
  simp only [succeed, h.ended]

/-- Every action does the same. -/
theorem perform_eq (h : Alike task other state) (action : Action) :
    perform other action state = perform task action state := by
  cases action with
  | expand => exact h.expand_eq
  | advance => exact h.advance_eq
  | momentaryInsuccess => exact h.giveUp_eq
  | back => rfl
  | anotherTry => exact h.anotherTry_eq
  | success => exact h.succeed_eq

/-- **The next step is the same.** -/
theorem step_eq (h : Alike task other state) : step other state = step task state := by
  simp only [step, reachedLimit?, h.limit, h.nextAction_eq, apply, h.perform_eq]

theorem verdict_eq (h : Alike task other state) : state.verdict other = state.verdict task := by
  simp only [State.verdict, State.rejection, h.found]

end Alike

/-! ### The whole search -/

/-- A run that goes through states in which two tasks agree is the same for both. -/
theorem run_eq_of_alike (alike : ∀ {state}, ReachedBySteps task state → Alike task other state)
    (reached : ReachedBySteps task state) :
    run other observe fuel state seen = run task observe fuel state seen := by
  induction fuel generalizing state seen with
  | zero => rw [run, run, (alike reached).verdict_eq]
  | succ fuel ih =>
    rw [run, run, (alike reached).verdict_eq, (alike reached).step_eq]
    cases taken : step task state with
    | error fault next => rfl
    | overflow => rfl
    | ok action next => simp only [ih (.step reached taken)]

/-- **A search is the same for two tasks** that agree in the states that one of them goes
through. -/
theorem parse_eq_of_alike (alike : ∀ {state}, ReachedBySteps task state → Alike task other state)
    (started : start other = start task) :
    parse other observe fuel seen = parse task observe fuel seen := by
  rw [parse, parse, started]
  cases first : start task with
  | error fault => rfl
  | ok state => exact run_eq_of_alike alike (.start first)

/-! ### Behind the furthest position -/

/-- The furthest position never goes back. -/
theorem Leads.furthest_le (leads : Leads task state last) (reached : ReachedBySteps task state) :
    state.furthest ≤ last.furthest := by
  induction leads with
  | refl => exact Nat.le_refl _
  | tail before taken ih =>
    obtain ⟨action, taken⟩ := taken
    have sound := (Leads.reachedBySteps before reached).reached.sound
    obtain ⟨-, -, moved, move, rfl⟩ := sound.exists_move_of_step taken
    exact ih.trans move.furthest_le.1

/-- No state of a search is further than the one in which it is over. -/
theorem ReachedBySteps.furthest_le (reached : ReachedBySteps task state)
    (stopped : ReachedBySteps task last) (halted : last.mode.isHalted) :
    state.cursor ≤ last.furthest ∧ state.furthest ≤ last.furthest := by
  have furthest := (reached.leads_of_isHalted stopped halted).furthest_le reached
  exact ⟨reached.witnessed.cursor_le.trans furthest, furthest⟩

/-- Tokens that begin alike have the same token at each of the first positions. -/
theorem getElem?_eq_of_take_eq {tokens tokens' : Array Symbol} {count index : Nat}
    (same : tokens'.toList.take count = tokens.toList.take count) (below : index < count) :
    tokens'[index]? = tokens[index]? := by
  rw [← Array.getElem?_toList, ← List.getElem?_take_of_lt below, same,
    List.getElem?_take_of_lt below, Array.getElem?_toList]

/-- **Nothing behind the token that a rejection reports matters.**  Where tokens are rejected with
some of them left at the furthest position, other tokens that begin alike up to the one at this
position are rejected for the same reason, and are searched in the same way. -/
theorem rejected_of_take_eq {tokens : Array Symbol} {rejection : Rejection}
    (rejected : (parse task observe fuel seen).2 = some (.ok (.rejected rejection)))
    (left : rejection.furthest < task.tokens.size)
    (same : tokens.toList.take (rejection.furthest + 1) =
      task.tokens.toList.take (rejection.furthest + 1)) :
    (parse { task with tokens } observe fuel seen).2 = some (.ok (.rejected rejection)) ∧
      (parse { task with tokens } observe fuel seen).1 = (parse task observe fuel seen).1 := by
  obtain ⟨last, stopped, mode, rfl⟩ := exists_error_of_parse rejected
  change last.furthest < task.tokens.size at left
  change tokens.toList.take (last.furthest + 1) = task.tokens.toList.take (last.furthest + 1)
    at same
  have token {index : Nat} (below : index ≤ last.furthest) : tokens[index]? = task.tokens[index]? :=
    getElem?_eq_of_take_eq same (Nat.lt_succ_of_le below)
  have longer : last.furthest < tokens.size := by
    have found := token (Nat.le_refl _)
    rw [Array.getElem?_eq_getElem left] at found
    exact (Array.getElem?_eq_some_iff.mp found).1
  have alike {state : State} (reached : ReachedBySteps task state) :
      Alike task { task with tokens } state := by
    obtain ⟨cursor, furthest⟩ := reached.furthest_le stopped (Mode.isHalted_iff.mpr (.inl mode))
    exact {
      limit := rfl
      kind := fun _ _ => rfl
      pending := fun _ _ => rfl
      done := fun _ _ => rfl
      token := token cursor
      ended := iff_of_false (Nat.ne_of_lt (cursor.trans_lt longer))
        (Nat.ne_of_lt (cursor.trans_lt left))
      found := token furthest }
  have equal : parse { task with tokens } observe fuel seen = parse task observe fuel seen :=
    parse_eq_of_alike alike rfl
  rw [equal]
  exact ⟨rejected, rfl⟩

/-- After `x x` of a sum it does not matter that `+ (` comes behind. -/
theorem rejected_of_take_eq_sums :
    let record := fun (seen : List Action) (action : Action) (_ : State) => seen ++ [action]
    let short : Task := ⟨.sums, #["x", "x"], none⟩
    let long := { short with tokens := #["x", "x", "+", "("] }
    (parse long record 20 []).2 = some (.ok (.rejected ⟨some "T", 1, some "x", ["+"], 17⟩)) ∧
      (parse long record 20 []).1 = (parse short record 20 []).1 := by
  intro record short long
  have rejected : (parse short record 20 []).2 =
      some (.ok (.rejected ⟨some "T", 1, some "x", ["+"], 17⟩)) := by cbv
  exact rejected_of_take_eq rejected (by decide) (by decide)

/-! ### What the start symbol does not lead to -/

/-- **Only what the start symbol leads to matters in a grammar.**  Two grammars that can be
searched, start alike and agree on the kinds and the alternatives of the symbols that are reachable
in the first one have the same verdicts, and search for them in the same way. -/
theorem parse_eq_of_reachable {grammar grammar' : Grammar} (accepted : check grammar = none)
    (accepted' : check grammar' = none) (starts : grammar'.start = grammar.start)
    (agree : ∀ symbol, grammar.Reachable symbol →
      grammar'.kind? symbol = grammar.kind? symbol ∧
        grammar'.alternatives symbol = grammar.alternatives symbol)
    (tokens : Array Symbol) (limit : Option Nat) (observe : σ → Action → State → σ) (fuel : Nat)
    (seen : σ) :
    parse ⟨grammar', tokens, limit⟩ observe fuel seen =
      parse ⟨grammar, tokens, limit⟩ observe fuel seen := by
  refine parse_eq_of_alike (fun {state} reached => ?_) ?_
  · obtain ⟨ahead, done⟩ : (∀ pending ∈ state.input, grammar.Reachable pending.symbol) ∧
        ∀ frame ∈ state.working, grammar.Reachable frame.symbol := by
      have sound := reached.reached.sound
      by_cases mode : state.mode = .error
      · -- Nothing is left on either stack once the tokens are rejected.
        obtain ⟨nothing, stage⟩ := sound.rejected mode
        have derived : state.input = [] := congrArg Stage.input stage
        rw [nothing, derived]
        exact ⟨nofun, nofun⟩
      · exact (sound.replay mode).reachable
    exact {
      limit := rfl
      kind := fun pending mem => (agree _ (ahead pending mem)).1
      pending := fun pending mem => (agree _ (ahead pending mem)).2
      done := fun frame mem => (agree _ (done frame mem)).2
      token := rfl
      ended := Iff.rfl
      found := rfl }
  · rw [start, start]
    simp only [accepted, accepted', starts]

/-- The grammar of sums, declared in another order and with a left-recursive nonterminal that no sum
leads to. -/
def sumsAndMore : Grammar where
  rules := [
    ⟨"L", [⟨"L", ["y"]⟩, ⟨"x", []⟩]⟩,
    ⟨"T", [⟨"(", ["E", ")"]⟩, ⟨"x", []⟩]⟩,
    ⟨"E", [⟨"T", ["+", "E"]⟩, ⟨"T", []⟩]⟩]
  terminals := ["y", "(", ")", "+", "x"]
  start := "E"

/-- Sums lead to symbols that are declared as before, so that `x + x` is accepted as before. -/
theorem parse_eq_of_reachable_sums :
    parse ⟨sumsAndMore, #["x", "+", "x"], none⟩ unobserved 30 () =
      parse ⟨.sums, #["x", "+", "x"], none⟩ unobserved 30 () := by
  have accepted : check .sums = none := by cbv
  have accepted' : check sumsAndMore = none := by cbv
  have closed : ∀ left ∈ ["E", "T", "+", "(", ")", "x"],
      ∀ symbol ∈ Grammar.sums.alternativeSymbols left,
        symbol ∈ ["E", "T", "+", "(", ")", "x"] := by decide
  have agree : ∀ symbol ∈ ["E", "T", "+", "(", ")", "x"],
      sumsAndMore.kind? symbol = Grammar.sums.kind? symbol ∧
        sumsAndMore.alternatives symbol = Grammar.sums.alternatives symbol := by decide
  refine parse_eq_of_reachable accepted accepted' rfl (fun symbol reached => agree symbol ?_) _ _ _
    _ _
  induction reached with
  | refl => decide
  | tail _ last mem => exact closed _ mem _ last

end Descent.Search
