import Mathlib
import Descent.Proofs.Grammar.Viable
import Descent.Proofs.Search.Runs

/-!
# Completeness of the search

A leftmost derivation is the list of the alternatives that it takes.  The search goes through
these lists in lexicographic order: at any time the alternatives on the working stack are such a
list as far as it was taken, and every derivation of the tokens either goes on from it or takes a
later alternative where the two part.  So none is left when the start symbol runs out.

`Search.Sifted` is this invariant.  It holds of searches that are left to themselves only: one can
be asked to give up early, and it would pass over derivations then.  Going back is where a
derivation could get lost, so the proof is about why the search goes back: a terminal that is not
the next token stops every derivation that goes on from there.
-/

namespace Descent.Search

variable {task : Task} {action : Action} {state moved : State} {frames : List Frame}
  {stage : Stage}

/-! ### Choices -/

/-- The numbers of the alternatives that were taken, the first one first. -/
def choices : List Frame → List Nat
  | [] => []
  | .matched _ _ :: frames => choices frames
  | .expanded _ alternative _ _ :: frames => choices frames ++ [alternative]

/-- What is done so far can be completed to a derivation of the tokens by those alternatives that
derive the tokens left over from the symbols left over. -/
theorem Replay.leftDerives_iff (h : Replay task frames stage) (rest : List Nat) :
    task.grammar.LeftDerives [task.grammar.start] (choices frames ++ rest) task.tokens.toList ↔
      task.grammar.LeftDerives stage.form rest (task.tokens.toList.drop stage.cursor) := by
  induction h generalizing rest with
  | start => rfl
  | redo _ step ih =>
    cases step with
    | @matched cursor terminal node input tree kind token =>
      have drop : task.tokens.toList.drop cursor =
          terminal :: task.tokens.toList.drop (cursor + 1) := by
        rw [List.drop_eq_getElem?_toList_append, Array.getElem?_toList, token]
        rfl
      rw [choices, ih, Stage.form, List.map_cons, Grammar.leftDerives_cons_terminal_iff kind, drop]
      constructor
      · rintro ⟨others, same, derived⟩
        rw [List.tail_eq_of_cons_eq same]
        exact derived
      · intro derived
        exact ⟨_, rfl, derived⟩
    | @expanded cursor index nonterminal node input tree production chosen =>
      have kind := Grammar.isNonterminal_of_alternatives_getElem? chosen
      rw [choices, List.append_assoc, List.singleton_append, ih, Stage.form, Stage.form,
        List.map_cons, List.map_append, map_symbol_pendingFrom,
        Grammar.leftDerives_cons_nonterminal_iff kind]
      constructor
      · rintro ⟨index', production', others, same, chosen', derived⟩
        obtain ⟨number, rfl⟩ := List.cons.inj same
        obtain rfl := Nat.succ.inj number
        obtain rfl := Option.some.inj (chosen.symm.trans chosen')
        exact derived
      · intro derived
        exact ⟨index, production, rest, rfl, chosen, derived⟩

/-- What was done so far derives the matched tokens, and has come to the symbols left over. -/
theorem Replay.leftReads (h : Replay task frames stage) :
    task.grammar.LeftReads [task.grammar.start] (choices frames)
      (task.tokens.toList.take stage.cursor) stage.form := by
  induction h with
  | start => exact .stop _
  | redo _ step ih =>
    cases step with
    | matched kind token =>
      rw [List.take_add_one, Array.getElem?_toList, token]
      exact ih.concat_terminal kind
    | expanded chosen =>
      rw [Stage.form, List.map_append, map_symbol_pendingFrom]
      exact ih.concat_nonterminal chosen

/-- A derivation that takes the alternatives of what was done so far goes on from there, or it
stops before the last match. -/
theorem Replay.of_leftReads (h : Replay task frames stage) {rest : List Nat}
    {read left : List Symbol}
    (reads : task.grammar.LeftReads [task.grammar.start] (choices frames ++ rest) read left) :
    (∃ later, read = task.tokens.toList.take stage.cursor ++ later ∧
      task.grammar.LeftReads stage.form rest later left) ∨
      rest = [] ∧ read.length < stage.cursor := by
  induction h generalizing rest with
  | start => exact .inl ⟨read, rfl, reads⟩
  | redo _ step ih =>
    cases step with
    | @matched cursor terminal node input tree kind token =>
      rcases ih reads with ⟨later, rfl, onward⟩ | ⟨stopped, short⟩
      · rw [Stage.form, List.map_cons] at onward
        cases later with
        | nil =>
          refine .inr ⟨Grammar.choices_eq_nil_of_leftReads kind onward, ?_⟩
          rw [List.append_nil, List.length_take]
          exact Nat.lt_succ_of_le (Nat.min_le_left _ _)
        | cons first later =>
          obtain ⟨rfl, further⟩ := (Grammar.leftReads_cons_terminal_iff kind).mp onward
          refine .inl ⟨later, ?_, further⟩
          rw [List.take_add_one, Array.getElem?_toList, token, List.append_assoc]
          rfl
      · exact .inr ⟨stopped, Nat.lt_succ_of_lt short⟩
    | @expanded cursor index nonterminal node input tree production chosen =>
      have kind := Grammar.isNonterminal_of_alternatives_getElem? chosen
      rw [choices, List.append_assoc, List.singleton_append] at reads
      rcases ih reads with ⟨later, rfl, onward⟩ | ⟨stopped, -⟩
      · rw [Stage.form, List.map_cons] at onward
        obtain ⟨index', production', number, chosen', further⟩ :=
          (Grammar.leftReads_cons_nonterminal_iff kind).mp onward
        obtain rfl := Nat.succ.inj number
        obtain rfl := Option.some.inj (chosen.symm.trans chosen')
        refine .inl ⟨later, rfl, ?_⟩
        rwa [Stage.form, List.map_append, map_symbol_pendingFrom]
      · cases stopped

/-! ### Order -/

/-- `Ahead taken other` says that `other` takes a later alternative than `taken` at the first place
where the two differ. -/
def Ahead (taken other : List Nat) : Prop :=
  ∃ common number rest number' rest',
    taken = common ++ number :: rest ∧ other = common ++ number' :: rest' ∧ number < number'

theorem not_ahead_nil (other : List Nat) : ¬ Ahead [] other := by
  rintro ⟨common, number, rest, number', rest', h, -⟩
  simp at h

theorem Ahead.append {taken other : List Nat} (h : Ahead taken other) (more : List Nat) :
    Ahead (taken ++ more) other := by
  obtain ⟨common, number, rest, number', rest', rfl, rfl, less⟩ := h
  exact ⟨common, number, rest ++ more, number', rest', by simp, rfl, less⟩

/-- What is ahead of a list is ahead of it less its last number, or goes on from that with a
larger number. -/
theorem ahead_append_singleton_iff {taken other : List Nat} {number : Nat} :
    Ahead (taken ++ [number]) other ↔
      Ahead taken other ∨ ∃ number' rest, other = taken ++ number' :: rest ∧ number < number' := by
  constructor
  · rintro ⟨common, number, rest, number', rest', same, rfl, less⟩
    rcases List.eq_nil_or_concat rest with rfl | ⟨rest, last, rfl⟩
    · obtain ⟨rfl, last⟩ := List.append_inj' same rfl
      obtain rfl := List.singleton_inj.mp last
      exact .inr ⟨number', rest', rfl, less⟩
    · refine .inl ⟨common, number, rest, number', rest', ?_, rfl, less⟩
      rw [List.concat_eq_append, ← List.cons_append, ← List.append_assoc] at same
      exact (List.append_inj' same rfl).1
  · rintro (ahead | ⟨number', rest, rfl, less⟩)
    · exact ahead.append [number]
    · exact ⟨taken, number, [], number', rest, rfl, rfl, less⟩

/-- When an alternative is replaced by the next one, what was ahead stays ahead or goes on with
that. -/
theorem Ahead.next {taken other : List Nat} {number : Nat} (h : Ahead (taken ++ [number]) other) :
    Ahead (taken ++ [number + 1]) other ∨ taken ++ [number + 1] <+: other := by
  rcases ahead_append_singleton_iff.mp h with ahead | ⟨number', rest, rfl, less⟩
  · exact .inl (ahead.append [number + 1])
  · rcases Nat.eq_or_lt_of_le less with rfl | less
    · exact .inr ⟨rest, by simp⟩
    · exact .inl (ahead_append_singleton_iff.mpr (.inr ⟨number', rest, rfl, less⟩))

/-! ### What is pursued -/

/-- A list of alternatives is ahead of what was done so far or, unless the search goes back, goes
on from it. -/
def Pursued (state : State) (other : List Nat) : Prop :=
  Ahead (choices state.working) other ∨
    (state.mode = .normal ∨ state.mode = .final) ∧ choices state.working <+: other

/-- Going back, all that is pursued is ahead. -/
theorem Pursued.ahead {other : List Nat} (h : Pursued state other)
    (mode : state.mode = .backtrack) : Ahead (choices state.working) other := by
  refine h.resolve_right fun forward => ?_
  rw [mode] at forward
  simp at forward

/-- Once the tokens are rejected nothing is pursued. -/
theorem not_pursued_of_error {other : List Nat} (mode : state.mode = .error)
    (nothing : state.working = []) : ¬ Pursued state other := by
  rintro (ahead | ⟨forward, -⟩)
  · rw [nothing] at ahead
    exact not_ahead_nil other ahead
  · rw [mode] at forward
    simp at forward

/-- A derivation that goes on from where a nonterminal is at the front takes one of its
alternatives next. -/
theorem le_length_of_leftReads {nonterminal : Symbol} {alternative number : Nat}
    {node children : Index} {prior next : Stage} {rest : List Nat} {read left : List Symbol}
    (replay : Replay task frames prior)
    (redo : Redo task prior (.expanded nonterminal alternative node children) next)
    (reads : task.grammar.LeftReads [task.grammar.start] (choices frames ++ number :: rest) read
      left) : 0 < number ∧ number ≤ (task.grammar.alternatives nonterminal).length := by
  obtain ⟨index, production, input, rfl, chosen, -, front, -⟩ := redo_expanded_iff.mp redo
  rcases replay.of_leftReads reads with ⟨later, -, onward⟩ | ⟨stopped, -⟩
  · rw [Stage.form, front, List.map_cons] at onward
    obtain ⟨index', production', rfl, chosen', -⟩ := (Grammar.leftReads_cons_nonterminal_iff
      (Grammar.isNonterminal_of_alternatives_getElem? chosen)).mp onward
    exact ⟨Nat.succ_pos _, (List.getElem?_eq_some_iff.mp chosen').1⟩
  · cases stopped

/-- When the last alternative is taken off, a derivation that was ahead stays ahead. -/
theorem Ahead.of_last {nonterminal : Symbol} {alternative : Nat} {node children : Index}
    {prior next : Stage} {other : List Nat} {read left : List Symbol}
    (h : Ahead (choices frames ++ [alternative]) other) (replay : Replay task frames prior)
    (undo : Redo task prior (.expanded nonterminal alternative node children) next)
    (last : (task.grammar.alternatives nonterminal).length = alternative)
    (reads : task.grammar.LeftReads [task.grammar.start] other read left) :
    Ahead (choices frames) other := by
  rcases ahead_append_singleton_iff.mp h with ahead | ⟨number, rest, rfl, less⟩
  · exact ahead
  · have inside := (le_length_of_leftReads replay undo reads).2
    rw [last] at inside
    exact absurd less (Nat.not_lt.mpr inside)

/-- **Where a derivation can be passed over**: at an expansion, if the derivation stops there, and
where the search gives up, if it goes on from there. -/
theorem Move.pursued {other : List Nat} {read left : List Symbol}
    (h : Move task state action moved) (replay : Replay task state.working state.stage)
    (mode : state.mode = action.mode)
    (reads : task.grammar.LeftReads [task.grammar.start] other read left)
    (known : Pursued state other) :
    Pursued moved other ∨ action = .expand ∧ other = choices state.working ∨
      action = .momentaryInsuccess ∧ choices state.working <+: other := by
  cases h with
  | @expand nonterminal node children next redo =>
    rcases known with ahead | ⟨-, rest, rfl⟩
    · exact .inl (.inl (ahead.append [1]))
    cases rest with
    | nil => exact .inr (.inl ⟨rfl, List.append_nil _⟩)
    | cons number rest =>
      -- The derivation takes the first alternative and goes on, or it takes a later one.
      have positive := (le_length_of_leftReads replay redo reads).1
      rcases Nat.eq_or_lt_of_le positive with rfl | less
      · exact .inl (.inr ⟨.inl rfl, rest, List.append_assoc _ _ _⟩)
      · exact .inl (.inl (ahead_append_singleton_iff.mpr (.inr ⟨number, rest, rfl, less⟩)))
  | advance redo =>
    left
    rcases known with ahead | ⟨-, goesOn⟩
    · exact .inl (by simpa [choices] using ahead)
    · exact .inr ⟨.inl (by simp), by simpa [choices] using goesOn⟩
  | giveUp =>
    rcases known with ahead | ⟨-, goesOn⟩
    · exact .inl (.inl ahead)
    · exact .inr (.inr ⟨rfl, goesOn⟩)
  | back top undo =>
    have ahead := known.ahead mode
    rw [top] at ahead
    exact .inl (.inl ahead)
  | retry top undo redo =>
    have ahead := known.ahead mode
    rw [top] at ahead
    exact .inl (ahead.next.imp_right fun goesOn => ⟨.inl rfl, goesOn⟩)
  | exhaust top undo last others =>
    have ahead := known.ahead mode
    rw [top] at ahead replay
    exact .inl (.inl (ahead.of_last (replay.of_undo undo) undo last reads))
  | reject top undo last =>
    have ahead := known.ahead mode
    rw [top] at ahead replay
    exact absurd (ahead.of_last (replay.of_undo undo) undo last reads) (not_ahead_nil other)
  | success => exact .inl (known.imp_right fun goesOn => ⟨.inr rfl, goesOn.2⟩)

/-! ### What is known of all derivations -/

/-- Every derivation of the tokens is ahead of what was done so far or, unless the search goes
back, goes on from it. -/
def Sifted (task : Task) (state : State) : Prop :=
  ∀ other, task.grammar.LeftDerives [task.grammar.start] other task.tokens.toList →
    Ahead (choices state.working) other ∨
      (state.mode = .normal ∨ state.mode = .final) ∧ choices state.working <+: other

theorem sifted_initial (start : Symbol) : Sifted task (State.initial start) :=
  fun _ _ => .inr ⟨.inl rfl, List.nil_prefix⟩

/-- The search gives up where everything is derived before the last token, or where a terminal is
at the front that is not the next token. -/
theorem stuck_of_nextForward (stuck : nextForward task state = .ok .momentaryInsuccess) :
    state.input = [] ∧ state.cursor ≠ task.tokens.size ∨
      ∃ head input, state.input = head :: input ∧ task.grammar.isTerminal head.symbol ∧
        task.tokens[state.cursor]? ≠ some head.symbol := by
  unfold nextForward at stuck
  split at stuck
  · rename_i nothing
    refine .inl ⟨nothing, fun complete => ?_⟩
    rw [if_pos complete] at stuck
    cases stuck
  · rename_i head input front
    split at stuck
    · cases stuck
    · rename_i kind
      refine .inr ⟨head, input, front, Grammar.isTerminal_iff.mpr kind, fun token => ?_⟩
      rw [State.currentToken?, if_pos token] at stuck
      cases stuck
    · cases stuck

/-- Where the search gives up, no derivation goes on from what was done. -/
theorem not_leftDerives_of_giveUp (replay : Replay task state.working state.stage)
    (stuck : nextForward task state = .ok .momentaryInsuccess) (rest : List Nat) :
    ¬ task.grammar.LeftDerives state.stage.form rest
      (task.tokens.toList.drop state.cursor) := by
  intro derived
  have inside : state.cursor ≤ task.tokens.size := replay.cursor_le
  rw [Stage.form, State.stage_input] at derived
  rcases stuck_of_nextForward stuck with ⟨nothing, incomplete⟩ | ⟨head, input, front, kind, other⟩
  · rw [nothing, List.map_nil, Grammar.leftDerives_nil_iff, List.drop_eq_nil_iff,
      Array.length_toList] at derived
    exact incomplete (Nat.le_antisymm inside derived.2)
  · rw [front, List.map_cons, Grammar.leftDerives_cons_terminal_iff kind] at derived
    obtain ⟨others, same, -⟩ := derived
    refine other ?_
    rw [← Array.getElem?_toList, ← List.head?_drop, same]
    rfl

/-- **No move passes over a derivation.** -/
theorem Move.sifted (h : Move task state action moved) (sifted : Sifted task state)
    (replay : Replay task state.working state.stage) (mode : state.mode = action.mode)
    (chosen : nextAction task state = .ok action) : Sifted task moved := by
  intro other derived
  rcases h.pursued replay mode derived.leftReads (sifted other derived) with
    known | ⟨rfl, rfl⟩ | ⟨rfl, rest, rfl⟩
  · exact known
  · -- A complete derivation does not stop where a nonterminal is at the front.
    cases h with
    | expand redo =>
      obtain ⟨index, production, input, -, chosen, -, front, -⟩ := redo_expanded_iff.mp redo
      rw [← List.append_nil (choices state.working), replay.leftDerives_iff, Stage.form, front,
        List.map_cons, Grammar.leftDerives_cons_nonterminal_iff
          (Grammar.isNonterminal_of_alternatives_getElem? chosen)] at derived
      obtain ⟨_, _, _, same, -⟩ := derived
      cases same
  · -- Giving up is chosen only where no derivation goes on.
    rw [nextAction, mode] at chosen
    rw [replay.leftDerives_iff] at derived
    exact absurd derived (not_leftDerives_of_giveUp replay chosen rest)

/-- **No derivation of the tokens is ever passed over** by a search that is left to itself. -/
theorem ReachedBySteps.sifted (h : ReachedBySteps task state) : Sifted task state :=
  h.of_moves (sifted_initial task.grammar.start) fun replay mode chosen move sifted =>
    move.sifted sifted replay mode chosen

/-- A search that is over with an error has left no derivation of the tokens. -/
theorem ReachedBySteps.not_generates (h : ReachedBySteps task state) (mode : state.mode = .error) :
    ¬ task.grammar.Generates task.tokens.toList := by
  rw [Grammar.generates_iff_exists_leftDerives]
  rintro ⟨other, derived⟩
  exact not_pursued_of_error mode (h.reached.sound.rejected mode).1 (h.sifted other derived)

/-- Where the tokens are accepted, the alternatives on the working stack derive them. -/
theorem ReachedBySteps.leftDerives_choices (h : ReachedBySteps task state)
    (mode : state.mode = .final) :
    task.grammar.LeftDerives [task.grammar.start] (choices state.working)
      task.tokens.toList := by
  have sound := h.reached.sound
  obtain ⟨derived, complete⟩ := sound.accepted mode
  have replay := sound.replay (by rw [mode]; decide)
  rw [← List.append_nil (choices state.working), replay.leftDerives_iff, Stage.form,
    State.stage_input, derived, State.stage_cursor, complete, ← Array.length_toList,
    List.drop_length]
  exact .done

/-- A search that is over has accepted the tokens exactly if they are in the language of the
grammar. -/
theorem ReachedBySteps.accepted_iff (h : ReachedBySteps task state)
    (halted : state.mode.isHalted) :
    (∃ tree steps, state.verdict task = .accepted tree steps) ↔
      task.tokens.toList ∈ task.grammar.toContextFree.language := by
  rw [h.reached.usable.mem_language_iff_generates]
  rcases Mode.isHalted_iff.mp halted with mode | mode
  · refine iff_of_false ?_ (h.not_generates mode)
    rintro ⟨tree, steps, accepted⟩
    rw [State.verdict_of_error mode] at accepted
    cases accepted
  · refine iff_of_true ⟨_, _, State.verdict_of_final mode⟩ ?_
    exact Grammar.generates_iff_exists_leftDerives.mpr ⟨_, h.leftDerives_choices mode⟩

/-- **Rejected tokens are not in the language of the grammar**, whether or not the number of steps
is limited. -/
theorem not_mem_language_of_rejected {σ : Type} {observe : σ → Action → State → σ} {fuel : Nat}
    {seen : σ} {rejection : Rejection}
    (h : (parse task observe fuel seen).2 = some (.ok (.rejected rejection))) :
    task.tokens.toList ∉ task.grammar.toContextFree.language := by
  obtain ⟨last, reached, mode, -⟩ := exists_error_of_parse h
  rw [reached.reached.usable.mem_language_iff_generates]
  exact reached.not_generates mode

/-- A sum with nothing after its last sign is no sum. -/
theorem not_mem_language_sums :
    ["x", "+"] ∉ Grammar.sums.toContextFree.language := by
  have rejected : (parse ⟨.sums, #["x", "+"], none⟩ unobserved 31 ()).2 =
      some (.ok (.rejected ⟨some "T", 2, none, ["(", "x"], 31⟩)) := by cbv
  have absent := not_mem_language_of_rejected rejected
  exact absent

end Descent.Search
