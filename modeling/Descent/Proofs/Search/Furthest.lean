import Mathlib
import Descent.Proofs.Search.Completeness

/-!
# The report on rejected tokens

A rejection names the furthest position to which tokens were matched, and the terminals that were
tried and failed there.  Both are collected on the way: the position only grows, and when it does
the terminals are forgotten.  What is reported in the end can be said without the search: how far
the tokens begin a derivable line, and which terminals can follow that far.

## Three invariants

Nothing false is recorded (`Search.Witnessed`): what was matched begins a derivable line, and a
terminal that was tried can follow.  Nothing is missing (`Search.Surveyed`): each derivation that
was stopped somewhere is still pursued or accounted for, by further progress or by the terminal
before which it stopped.  And it is known why the search gets no further (`Search.Explained`), so
that nothing is expected in the end only if the tokens up to the furthest position are derived,
and more of them follow.
-/

namespace Descent.Search

variable {task : Task} {action : Action} {state moved : State}

/-! ### What is recorded -/

namespace State

/-- A new furthest position is noted, and what was expected before is forgotten. -/
theorem noteFurthest_of_lt (h : state.furthest < state.cursor) :
    state.noteFurthest = { state with furthest := state.cursor, expected := [] } :=
  if_pos h

/-- An old position changes nothing. -/
theorem noteFurthest_of_le (h : state.cursor ≤ state.furthest) : state.noteFurthest = state :=
  if_neg (Nat.not_lt.mpr h)

@[simp] theorem furthest_noteExpected (state : State) (task : Task) :
    (state.noteExpected task).furthest = state.furthest := by
  unfold noteExpected
  split
  · rfl
  · split <;> rfl

/-- Giving up does not change the furthest position. -/
theorem furthest_giveUp :
    ((state.noteExpected task).goTo .backtrack state.working state.stage).furthest =
      state.furthest :=
  state.furthest_noteExpected task

/-- At the furthest position the terminal at the front is added. -/
theorem mem_expected_noteExpected_iff {symbol : Symbol} :
    symbol ∈ (state.noteExpected task).expected ↔
      symbol ∈ state.expected ∨ state.cursor = state.furthest ∧
        task.grammar.isTerminal symbol ∧ state.stage.form.head? = some symbol := by
  unfold noteExpected
  rw [Stage.form, stage_input]
  cases front : state.input with
  | nil => simp
  | cons head input =>
    rw [List.map_cons, List.head?_cons, Option.some.injEq]
    dsimp only
    split
    · rename_i added
      rw [List.mem_append, List.mem_singleton]
      refine or_congr_right ⟨?_, fun found => found.2.2.symm⟩
      rintro rfl
      exact ⟨added.1, added.2.1, rfl⟩
    · rename_i known
      refine ⟨.inl, fun h => h.elim id ?_⟩
      rintro ⟨here, kind, rfl⟩
      by_contra new
      exact known ⟨here, kind, new⟩

theorem nodup_expected_noteExpected (h : state.expected.Nodup) :
    (state.noteExpected task).expected.Nodup := by
  unfold noteExpected
  split
  · exact h
  · split
    · rename_i added
      refine List.nodup_append.mpr ⟨h, List.nodup_singleton _, ?_⟩
      intro first mem second last same
      rw [List.mem_singleton] at last
      exact added.2.2 (last ▸ same ▸ mem)
    · exact h

end State

/-- The furthest position never goes back, and as long as it stays no terminal is forgotten. -/
theorem Move.furthest_le (h : Move task state action moved) :
    state.furthest ≤ moved.furthest ∧
      (moved.furthest = state.furthest → state.expected ⊆ moved.expected) := by
  cases h with
  | @advance terminal node next redo =>
    by_cases further : state.furthest < next.cursor
    · rw [State.noteFurthest_of_lt further]
      exact ⟨Nat.le_of_lt further, fun same => absurd same (Nat.ne_of_gt further)⟩
    · rw [State.noteFurthest_of_le (Nat.le_of_not_lt further)]
      exact ⟨Nat.le_refl _, fun _ => List.Subset.refl _⟩
  | giveUp =>
    rw [State.furthest_giveUp]
    exact ⟨Nat.le_refl _, fun _ _ mem => State.mem_expected_noteExpected_iff.mpr (.inl mem)⟩
  | expand | back | retry | exhaust | reject | success =>
    exact ⟨Nat.le_refl _, fun _ => List.Subset.refl _⟩

/-! ### Nothing recorded is stale -/

/-- All that is recorded is true of the grammar and the tokens: the tokens up to the furthest
position begin a derivable line, and each recorded terminal can follow them. -/
structure Witnessed (task : Task) (state : State) : Prop where
  /-- The furthest position is not behind the cursor. -/
  cursor_le : state.cursor ≤ state.furthest
  /-- It is no further than there are tokens. -/
  furthest_le : state.furthest ≤ task.tokens.size
  /-- The tokens up to there begin a derivable line. -/
  read : ∃ choices rest, task.grammar.LeftReads [task.grammar.start] choices
    (task.tokens.toList.take state.furthest) rest
  /-- No terminal is recorded twice. -/
  nodup : state.expected.Nodup
  /-- The recorded terminals can follow. -/
  follows : ∀ symbol ∈ state.expected, task.grammar.isTerminal symbol ∧
    ∃ choices rest, task.grammar.LeftReads [task.grammar.start] choices
      (task.tokens.toList.take state.furthest) (symbol :: rest)

theorem witnessed_initial : Witnessed task (State.initial task.grammar.start) where
  cursor_le := Nat.le_refl 0
  furthest_le := Nat.zero_le _
  read := ⟨[], _, .stop _⟩
  nodup := List.nodup_nil
  follows := by simp [State.initial]

/-- What is recorded stays true when the search does not get further. -/
theorem Witnessed.of_cursor_le (h : Witnessed task state)
    (furthest : moved.furthest = state.furthest) (expected : moved.expected = state.expected)
    (cursor : moved.cursor ≤ state.cursor) :
    Witnessed task moved where
  cursor_le := by
    rw [furthest]
    exact cursor.trans h.cursor_le
  furthest_le := furthest ▸ h.furthest_le
  read := furthest ▸ h.read
  nodup := expected ▸ h.nodup
  follows := by
    rw [furthest, expected]
    exact h.follows

/-- An expansion does not move the cursor. -/
theorem Redo.cursor_eq {nonterminal : Symbol} {alternative : Nat} {node children : Index}
    {prior next : Stage}
    (h : Redo task prior (.expanded nonterminal alternative node children) next) :
    next.cursor = prior.cursor := by
  cases h
  rfl

/-- **Moves record nothing but what is true.** -/
theorem Move.witnessed (h : Move task state action moved) (witnessed : Witnessed task state)
    (replay : Replay task state.working state.stage) : Witnessed task moved := by
  cases h with
  | expand redo => exact witnessed.of_cursor_le rfl rfl (Nat.le_of_eq redo.cursor_eq)
  | @advance terminal node next redo =>
    have inside : next.cursor ≤ task.tokens.size := (replay.redo redo).cursor_le
    by_cases further : state.furthest < next.cursor
    · -- The tokens up to the new furthest position were just derived.
      rw [State.noteFurthest_of_lt further]
      exact ⟨Nat.le_refl _, inside, ⟨_, _, (replay.redo redo).leftReads⟩, List.nodup_nil, nofun⟩
    · have old := Nat.le_of_not_lt further
      rw [State.noteFurthest_of_le old]
      exact ⟨old, witnessed.furthest_le, witnessed.read, witnessed.nodup, witnessed.follows⟩
  | giveUp =>
    have furthest := @State.furthest_giveUp task state
    refine ⟨furthest ▸ witnessed.cursor_le, furthest ▸ witnessed.furthest_le,
      furthest ▸ witnessed.read, State.nodup_expected_noteExpected witnessed.nodup, ?_⟩
    intro symbol mem
    rw [furthest]
    rcases State.mem_expected_noteExpected_iff.mp mem with mem | ⟨here, kind, front⟩
    · exact witnessed.follows symbol mem
    · obtain ⟨rest, form⟩ := List.head?_eq_some_iff.mp front
      have read := replay.leftReads
      rw [form, State.stage_cursor, here] at read
      exact ⟨kind, _, _, read⟩
  | back top undo =>
    refine witnessed.of_cursor_le rfl rfl ?_
    have cursor : state.cursor = _ := (redo_matched_iff.mp undo).2.2.2.1
    rw [cursor]
    exact Nat.le_succ _
  | retry top undo redo =>
    exact witnessed.of_cursor_le rfl rfl (Nat.le_of_eq (redo.cursor_eq.trans undo.cursor_eq.symm))
  | exhaust top undo =>
    exact witnessed.of_cursor_le rfl rfl (Nat.le_of_eq undo.cursor_eq.symm)
  | reject top undo =>
    exact witnessed.of_cursor_le rfl rfl (Nat.le_of_eq undo.cursor_eq.symm)
  | success => exact witnessed.of_cursor_le rfl rfl (Nat.le_refl _)

theorem Witnessed.counted (h : Witnessed task state) : Witnessed task state.counted :=
  h.of_cursor_le rfl rfl (Nat.le_refl _)

theorem ReachedBySteps.witnessed (h : ReachedBySteps task state) : Witnessed task state :=
  h.of_moves witnessed_initial fun replay _ _ move known => (move.witnessed known replay).counted

/-! ### Nothing is missing from the record -/

/-- A derivation that stops after `count` tokens before `rest` is accounted for: the search has
got further, or as far, and if it stops there before a terminal this is the next token or is
recorded. -/
def Noted (task : Task) (state : State) (count : Nat) (rest : List Symbol) : Prop :=
  count < state.furthest ∨ count = state.furthest ∧
    ∀ symbol, rest.head? = some symbol → task.grammar.isTerminal symbol →
      task.tokens[count]? = some symbol ∨ symbol ∈ state.expected

/-- What is accounted for stays so. -/
theorem Noted.move {count : Nat} {rest : List Symbol} (h : Noted task state count rest)
    (move : Move task state action moved) : Noted task moved count rest := by
  obtain ⟨furthest, expected⟩ := move.furthest_le
  rcases h with less | ⟨rfl, recorded⟩
  · exact .inl (Nat.lt_of_lt_of_le less furthest)
  · rcases Nat.eq_or_lt_of_le furthest with same | further
    · refine .inr ⟨same, fun symbol front kind => ?_⟩
      exact (recorded symbol front kind).imp_right fun mem => expected same.symm mem
    · exact .inl further

/-- Every derivation that was stopped after some of the tokens is still pursued or accounted
for. -/
def Surveyed (task : Task) (state : State) : Prop :=
  ∀ other count rest, count ≤ task.tokens.size →
    task.grammar.LeftReads [task.grammar.start] other (task.tokens.toList.take count) rest →
    Pursued state other ∨ Noted task state count rest

theorem surveyed_initial (start : Symbol) : Surveyed task (State.initial start) :=
  fun _ _ _ _ _ => .inl (.inr ⟨.inl rfl, List.nil_prefix⟩)

/-- Some of the tokens, where they are known to go on from the cursor. -/
theorem eq_cursor_add_length {count : Nat} {later : List Symbol}
    (replay : Replay task state.working state.stage) (inside : count ≤ task.tokens.size)
    (read : task.tokens.toList.take count =
      task.tokens.toList.take state.stage.cursor ++ later) :
    count = state.cursor + later.length := by
  have length := congrArg List.length read
  have matched : state.cursor ≤ task.tokens.size := replay.cursor_le
  rw [List.length_append, List.length_take, List.length_take, Array.length_toList,
    Nat.min_eq_left inside, State.stage_cursor, Nat.min_eq_left matched] at length
  exact length

/-- A derivation that stops before the last match is accounted for. -/
theorem noted_of_lt_cursor {count : Nat} {rest : List Symbol} (witnessed : Witnessed task state)
    (inside : count ≤ task.tokens.size)
    (short : (task.tokens.toList.take count).length < state.stage.cursor) :
    Noted task state count rest := by
  rw [List.length_take, Array.length_toList, Nat.min_eq_left inside] at short
  exact .inl (Nat.lt_of_lt_of_le short witnessed.cursor_le)

/-- A derivation that stops before a nonterminal that the search expands is accounted for. -/
theorem noted_of_expand {count : Nat} {rest : List Symbol} {nonterminal : Symbol}
    {alternative : Nat} {node children : Index} {next : Stage}
    (replay : Replay task state.working state.stage) (witnessed : Witnessed task state)
    (redo : Redo task state.stage (.expanded nonterminal alternative node children) next)
    (inside : count ≤ task.tokens.size)
    (reads : task.grammar.LeftReads [task.grammar.start] (choices state.working)
      (task.tokens.toList.take count) rest) : Noted task state count rest := by
  obtain ⟨index, production, input, -, chosen, -, front, -⟩ := redo_expanded_iff.mp redo
  have kind := Grammar.isNonterminal_of_alternatives_getElem? chosen
  rw [← List.append_nil (choices state.working)] at reads
  rcases replay.of_leftReads reads with ⟨later, read, onward⟩ | ⟨-, short⟩
  · rw [Stage.form, front, List.map_cons, Grammar.leftReads_cons_nonterminal_nil_iff kind] at onward
    obtain ⟨rfl, rfl⟩ := onward
    have here : count = state.cursor := eq_cursor_add_length replay inside read
    rcases Nat.eq_or_lt_of_le witnessed.cursor_le with same | less
    · refine .inr ⟨here.trans same, fun symbol first terminal => ?_⟩
      obtain rfl := Option.some.inj first
      exact absurd kind (Grammar.not_isNonterminal_of_isTerminal terminal)
    · exact .inl (here ▸ less)
  · exact noted_of_lt_cursor witnessed inside short

/-- Where a terminal is at the front that is not the next token, a derivation stops. -/
theorem eq_stage_of_stuck {count : Nat} {later rest : List Symbol} {others : List Nat}
    (replay : Replay task state.working state.stage)
    (stuck : nextForward task state = .ok .momentaryInsuccess) (inside : count ≤ task.tokens.size)
    (read : task.tokens.toList.take count = task.tokens.toList.take state.stage.cursor ++ later)
    (onward : task.grammar.LeftReads state.stage.form others later rest) :
    count = state.cursor ∧ rest = state.stage.form := by
  have length := eq_cursor_add_length replay inside read
  rw [Stage.form, State.stage_input] at onward ⊢
  rcases stuck_of_nextForward stuck with ⟨nothing, -⟩ | ⟨head, input, front, kind, other⟩
  · rw [nothing, List.map_nil] at onward ⊢
    cases onward
    exact ⟨length, rfl⟩
  · rw [front, List.map_cons] at onward ⊢
    cases later with
    | nil =>
      obtain rfl := Grammar.choices_eq_nil_of_leftReads kind onward
      cases onward
      exact ⟨length, rfl⟩
    | cons first later =>
      obtain ⟨rfl, -⟩ := (Grammar.leftReads_cons_terminal_iff kind).mp onward
      have matched : state.cursor ≤ task.tokens.size := replay.cursor_le
      refine absurd ?_ other
      calc task.tokens[state.cursor]?
        _ = (task.tokens.toList.take count)[state.cursor]? := by
          rw [List.getElem?_take_of_lt (by rw [length, List.length_cons]; omega),
            Array.getElem?_toList]
        _ = some head.symbol := by
          rw [read, State.stage_cursor, List.getElem?_append_right (by simp), List.length_take,
            Array.length_toList, Nat.min_eq_left matched, Nat.sub_self, List.getElem?_cons_zero]

/-- Where the search gives up, a derivation that goes on stops there, and is accounted for once the
terminal at the front is recorded. -/
theorem noted_of_giveUp {count : Nat} {rest : List Symbol} {others : List Nat}
    (replay : Replay task state.working state.stage) (witnessed : Witnessed task state)
    (stuck : nextForward task state = .ok .momentaryInsuccess)
    (inside : count ≤ task.tokens.size)
    (reads : task.grammar.LeftReads [task.grammar.start] (choices state.working ++ others)
      (task.tokens.toList.take count) rest) :
    Noted task ((state.noteExpected task).goTo .backtrack state.working state.stage)
      count rest := by
  rcases replay.of_leftReads reads with ⟨later, read, onward⟩ | ⟨-, short⟩
  · obtain ⟨rfl, rfl⟩ := eq_stage_of_stuck replay stuck inside read onward
    have furthest := @State.furthest_giveUp task state
    rcases Nat.eq_or_lt_of_le witnessed.cursor_le with same | less
    · refine .inr ⟨same.trans furthest.symm, fun symbol front kind => .inr ?_⟩
      exact State.mem_expected_noteExpected_iff.mpr (.inr ⟨same, kind, front⟩)
    · exact .inl (furthest ▸ less)
  · exact (noted_of_lt_cursor witnessed inside short).move .giveUp

/-- **Moves account for every derivation that they pass over.** -/
theorem Move.surveyed (h : Move task state action moved) (surveyed : Surveyed task state)
    (witnessed : Witnessed task state) (replay : Replay task state.working state.stage)
    (mode : state.mode = action.mode) (chosen : nextAction task state = .ok action) :
    Surveyed task moved := by
  intro other count rest inside reads
  rcases surveyed other count rest inside reads with known | noted
  · rcases h.pursued replay mode reads known with known | ⟨rfl, rfl⟩ | ⟨rfl, others, rfl⟩
    · exact .inl known
    · cases h with
      | expand redo =>
        have noted := noted_of_expand replay witnessed redo inside reads
        exact .inr (noted.move (.expand redo))
    · rw [nextAction, mode] at chosen
      cases h with
      | giveUp => exact .inr (noted_of_giveUp replay witnessed chosen inside reads)
  · exact .inr (noted.move h)

/-! ### Why the search gets no further -/

/-- It is known why the search does not get further: a terminal is recorded that would be needed,
or the tokens up to there are derived and more of them follow. -/
def Barred (task : Task) (state : State) : Prop :=
  state.expected ≠ [] ∨
    task.grammar.Generates (task.tokens.toList.take state.furthest) ∧
      state.furthest < task.tokens.size

theorem Barred.of_furthest_eq (h : Barred task state) (furthest : moved.furthest = state.furthest)
    (expected : state.expected ⊆ moved.expected) : Barred task moved := by
  rcases h with some | ⟨derived, more⟩
  · obtain ⟨symbol, mem⟩ := List.exists_mem_of_ne_nil _ some
    exact .inl (List.ne_nil_of_mem (expected mem))
  · rw [← furthest] at derived more
    exact .inr ⟨derived, more⟩

/-- The search goes forward at the furthest position, or it is known why it does not get
further. -/
def Explained (task : Task) (state : State) : Prop :=
  (state.mode = .normal ∨ state.mode = .final) ∧ state.cursor = state.furthest ∨ Barred task state

theorem explained_initial (start : Symbol) : Explained task (State.initial start) :=
  .inl ⟨.inl rfl, rfl⟩

/-- Where the search is not forward, the reason is known. -/
theorem Explained.barred (h : Explained task state)
    (mode : state.mode = .backtrack ∨ state.mode = .error) : Barred task state := by
  refine h.resolve_left fun ⟨forward, _⟩ => ?_
  rcases mode with mode | mode <;> simp [mode] at forward

/-- Giving up at the furthest position, the terminal at the front is recorded, or there is none and
everything is derived. -/
theorem barred_of_giveUp (replay : Replay task state.working state.stage)
    (stuck : nextForward task state = .ok .momentaryInsuccess)
    (here : state.cursor = state.furthest) :
    Barred task ((state.noteExpected task).goTo .backtrack state.working state.stage) := by
  have furthest := @State.furthest_giveUp task state
  rcases stuck_of_nextForward stuck with ⟨nothing, incomplete⟩ | ⟨head, input, front, kind, -⟩
  · have inside : state.cursor ≤ task.tokens.size := replay.cursor_le
    have read := replay.leftReads
    rw [Stage.form, State.stage_input, nothing, State.stage_cursor, here, ← furthest] at read
    refine .inr ⟨⟨?_, read.isTerminal⟩, ?_⟩
    · simpa using read.derives
    · rw [furthest, ← here]
      exact Nat.lt_of_le_of_ne inside incomplete
  · have recorded : head.symbol ∈ (state.noteExpected task).expected := by
      refine State.mem_expected_noteExpected_iff.mpr (.inr ⟨here, kind, ?_⟩)
      rw [Stage.form, State.stage_input, front]
      rfl
    exact .inl (List.ne_nil_of_mem recorded)

/-- **Moves keep the reason**, or find one. -/
theorem Move.explained (h : Move task state action moved) (explained : Explained task state)
    (replay : Replay task state.working state.stage) (mode : state.mode = action.mode)
    (chosen : nextAction task state = .ok action) : Explained task moved := by
  cases h with
  | expand redo =>
    exact explained.imp_left fun ⟨_, here⟩ => ⟨.inl rfl, redo.cursor_eq.trans here⟩
  | @advance terminal node next redo =>
    have cursor : next.cursor = state.cursor + 1 := (redo_matched_iff.mp redo).2.2.2.1
    by_cases further : state.furthest < next.cursor
    · rw [State.noteFurthest_of_lt further]
      exact .inl ⟨.inl rfl, rfl⟩
    · rw [State.noteFurthest_of_le (Nat.le_of_not_lt further)]
      refine .inr (explained.resolve_left fun ⟨_, here⟩ => further ?_)
      rw [cursor, here]
      exact Nat.lt_succ_self _
  | giveUp =>
    right
    rcases explained with ⟨-, here⟩ | barred
    · rw [nextAction, mode] at chosen
      exact barred_of_giveUp replay chosen here
    · exact barred.of_furthest_eq State.furthest_giveUp fun _ mem =>
        State.mem_expected_noteExpected_iff.mpr (.inl mem)
  | back | retry | exhaust | reject => exact .inr (explained.barred (.inl mode))
  | success => exact explained.imp_left fun ⟨_, here⟩ => ⟨.inr rfl, here⟩

/-! ### What a rejection reports -/

/-- A search that is left to itself keeps all three. -/
theorem ReachedBySteps.recorded (h : ReachedBySteps task state) :
    Witnessed task state ∧ Surveyed task state ∧ Explained task state := by
  refine h.of_moves
    (motive := fun state => Witnessed task state ∧ Surveyed task state ∧ Explained task state)
    ⟨witnessed_initial, surveyed_initial _, explained_initial _⟩
    fun replay mode chosen move ⟨witnessed, surveyed, explained⟩ => ⟨?_, ?_, ?_⟩
  · exact (move.witnessed witnessed replay).counted
  · exact move.surveyed surveyed witnessed replay mode chosen
  · exact move.explained explained replay mode chosen

/-- Once the tokens are rejected, every derivation is accounted for. -/
theorem Surveyed.noted (h : Surveyed task state) (mode : state.mode = .error)
    (nothing : state.working = []) {count : Nat} {rest : List Symbol} {other : List Nat}
    (inside : count ≤ task.tokens.size)
    (reads : task.grammar.LeftReads [task.grammar.start] other (task.tokens.toList.take count)
      rest) : Noted task state count rest :=
  (h other count rest inside reads).resolve_left (not_pursued_of_error mode nothing)

/-- Once the tokens are rejected, the furthest position is the largest number of tokens that begin
a derivable line. -/
theorem isGreatest_furthest (usable : task.grammar.Usable) (witnessed : Witnessed task state)
    (surveyed : Surveyed task state) (mode : state.mode = .error)
    (nothing : state.working = []) :
    IsGreatest {count | count ≤ task.tokens.size ∧
      task.grammar.Viable (task.tokens.toList.take count)} state.furthest := by
  constructor
  · exact ⟨witnessed.furthest_le, usable.viable_iff_exists_leftReads.mpr witnessed.read⟩
  · rintro count ⟨inside, viable⟩
    obtain ⟨other, rest, reads⟩ := usable.viable_iff_exists_leftReads.mp viable
    rcases surveyed.noted mode nothing inside reads with less | ⟨same, -⟩
    · exact Nat.le_of_lt less
    · exact Nat.le_of_eq same

/-- The token after the furthest position cannot follow. -/
theorem not_viable_of_isGreatest {furthest : Nat} {symbol : Symbol}
    (greatest : IsGreatest {count | count ≤ task.tokens.size ∧
      task.grammar.Viable (task.tokens.toList.take count)} furthest)
    (token : task.tokens[furthest]? = some symbol) :
    ¬ task.grammar.Viable (task.tokens.toList.take furthest ++ [symbol]) := by
  intro viable
  obtain ⟨inside, -⟩ := Array.getElem?_eq_some_iff.mp token
  have longer : task.tokens.toList.take (furthest + 1) =
      task.tokens.toList.take furthest ++ [symbol] := by
    rw [List.take_add_one, Array.getElem?_toList, token]
    rfl
  rw [← longer] at viable
  exact absurd (greatest.2 ⟨inside, viable⟩) (Nat.not_succ_le_self furthest)

/-- Once the tokens are rejected, the terminals that are recorded are those that can follow. -/
theorem mem_expected_iff (usable : task.grammar.Usable) (witnessed : Witnessed task state)
    (surveyed : Surveyed task state) (mode : state.mode = .error)
    (nothing : state.working = []) {symbol : Symbol} :
    symbol ∈ state.expected ↔ task.grammar.isTerminal symbol ∧
      task.grammar.Viable (task.tokens.toList.take state.furthest ++ [symbol]) := by
  constructor
  · intro mem
    have follows := witnessed.follows symbol mem
    exact ⟨follows.1, usable.viable_append_iff.mpr follows⟩
  · rintro ⟨kind, viable⟩
    obtain ⟨-, other, rest, reads⟩ := usable.viable_append_iff.mp viable
    rcases surveyed.noted mode nothing witnessed.furthest_le reads with less | ⟨-, recorded⟩
    · exact absurd less (Nat.lt_irrefl _)
    · refine (recorded symbol rfl kind).resolve_left fun token => ?_
      have greatest := isGreatest_furthest usable witnessed surveyed mode nothing
      exact not_viable_of_isGreatest greatest token viable

/-- The start symbol is the last nonterminal that runs out of alternatives, so that there is a first
one. -/
theorem ReachedBySteps.firstExhausted_isSome (h : ReachedBySteps task state)
    (mode : state.mode = .error) : state.firstExhausted.isSome := by
  have known : state.mode = .error → state.firstExhausted.isSome := by
    refine h.of_moves (motive := fun state => state.mode = .error → state.firstExhausted.isSome)
      nofun fun {state action moved} _ _ _ move _ mode => ?_
    cases move with
    | reject =>
      show (state.firstExhausted.or _).isSome
      simp
    | advance => simp at mode
    | expand | giveUp | back | retry | exhaust | success => cases mode
  exact known mode

/-- **What a rejection reports is exact**: the furthest position is the largest number of tokens
that begin a derivable line, and the expected terminals are those that can follow that far. -/
theorem rejection_exact {σ : Type} {observe : σ → Action → State → σ} {fuel : Nat} {seen : σ}
    {rejection : Rejection}
    (h : (parse task observe fuel seen).2 = some (.ok (.rejected rejection))) :
    IsGreatest {count | count ≤ task.tokens.size ∧
        task.grammar.Viable (task.tokens.toList.take count)} rejection.furthest ∧
      rejection.found = task.tokens[rejection.furthest]? ∧
      rejection.expected.Nodup ∧
      (∀ symbol, symbol ∈ rejection.expected ↔ task.grammar.isTerminal symbol ∧
        task.grammar.Viable (task.tokens.toList.take rejection.furthest ++ [symbol])) ∧
      (∀ symbol, rejection.found = some symbol → symbol ∉ rejection.expected) ∧
      (rejection.expected = [] → rejection.furthest < task.tokens.size ∧
        task.tokens.toList.take rejection.furthest ∈ task.grammar.toContextFree.language) ∧
      rejection.firstExhausted.isSome := by
  obtain ⟨last, reached, mode, rfl⟩ := exists_error_of_parse h
  obtain ⟨witnessed, surveyed, explained⟩ := reached.recorded
  have usable := reached.reached.usable
  have nothing := (reached.reached.sound.rejected mode).1
  have greatest := isGreatest_furthest usable witnessed surveyed mode nothing
  have expected : ∀ symbol, symbol ∈ last.expected ↔ task.grammar.isTerminal symbol ∧
      task.grammar.Viable (task.tokens.toList.take last.furthest ++ [symbol]) :=
    fun symbol => mem_expected_iff usable witnessed surveyed mode nothing
  refine ⟨greatest, rfl, witnessed.nodup, expected, ?_, ?_, reached.firstExhausted_isSome mode⟩
  · intro symbol token mem
    exact not_viable_of_isGreatest greatest token ((expected symbol).mp mem).2
  · intro none
    obtain ⟨derived, more⟩ := (explained.barred (.inr mode)).resolve_left (not_not_intro none)
    exact ⟨more, usable.mem_language_iff_generates.mpr derived⟩

/-- What can follow `x +` in a sum, and a token too many after the only word of a language. -/
theorem rejection_exact_sums :
    (∀ symbol, symbol ∈ ["(", "x"] ↔ Grammar.sums.isTerminal symbol ∧
      Grammar.sums.Viable (["x", "+"] ++ [symbol])) ∧
    ["a"] ∈ (Grammar.mk [⟨"S", [⟨"a", []⟩]⟩] ["a"] "S").toContextFree.language := by
  have incomplete : (parse ⟨.sums, #["x", "+"], none⟩ unobserved 31 ()).2 =
      some (.ok (.rejected ⟨some "T", 2, none, ["(", "x"], 31⟩)) := by cbv
  have tooLong : (parse ⟨⟨[⟨"S", [⟨"a", []⟩]⟩], ["a"], "S"⟩, #["a", "a"], none⟩ unobserved 5 ()).2 =
      some (.ok (.rejected ⟨some "S", 1, some "a", [], 5⟩)) := by cbv
  obtain ⟨-, -, -, expected, -, -, -⟩ := rejection_exact incomplete
  obtain ⟨-, -, -, -, -, derived, -⟩ := rejection_exact tooLong
  exact ⟨expected, (derived rfl).2⟩

end Descent.Search
