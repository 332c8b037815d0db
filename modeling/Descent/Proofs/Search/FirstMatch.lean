import Mathlib
import Descent.Proofs.Grammar.Forest
import Descent.Proofs.Search.Completeness

/-!
# The first derivation wins

All derivations of accepted tokens are ahead of the one that was found or are that one.  So its
alternatives are the least in lexicographic order, and the tree that the search has made is the
tree of these alternatives, node by node.

For the latter a search in the middle of its work is seen as part of a whole derivation: its tree,
with the rest of the derivation planted in it, is the tree of the whole derivation at every stage
(`Search.Replay.exists_forest`), and in the end there is no rest.
-/

namespace Descent.Search

variable {task : Task} {state : State} {frames : List Frame} {stage : Stage}

/-! ### The order of derivations -/

theorem Ahead.lt {taken other : List Nat} (h : Ahead taken other) : taken < other := by
  obtain ⟨common, number, rest, number', rest', rfl, rfl, less⟩ := h
  exact List.append_left_lt (List.cons_lt_cons_iff.mpr (.inl less))

/-- Where the tokens are accepted, the alternatives on the working stack derive them, and no other
derivation comes before. -/
theorem ReachedBySteps.isLeast_choices (h : ReachedBySteps task state)
    (mode : state.mode = .final) :
    IsLeast {choices | task.grammar.LeftDerives [task.grammar.start] choices task.tokens.toList}
      (choices state.working) := by
  refine ⟨h.leftDerives_choices mode, fun other leftmost => ?_⟩
  rcases h.sifted other leftmost with ahead | ⟨-, goesOn⟩
  · exact ahead.lt.le
  · exact le_of_not_gt goesOn.le

/-! ### The tree of a derivation -/

/-- What was done so far can be completed by any forest over the symbols that are left. -/
theorem Replay.exists_forest (h : Replay task frames stage) {rest : Forest}
    (licensed : task.grammar.Licenses rest) (roots : rest.roots = stage.form) :
    ∃ whole, task.grammar.Licenses whole ∧ whole.roots = [task.grammar.start] ∧
      whole.choices = choices frames ++ rest.choices ∧
      rest.plant (stage.input.map (·.node)) stage.tree =
        whole.plant [Index.first] (.ofRoot task.grammar.start) := by
  induction h generalizing rest with
  | start => exact ⟨rest, licensed, roots, rfl, rfl⟩
  | @redo frame frames prior next earlier step ih =>
    cases step with
    | @matched cursor terminal node input tree kind token =>
      have grown : (Forest.leaf terminal rest).roots = terminal :: input.map (·.symbol) :=
        congrArg (terminal :: ·) roots
      exact @ih (.leaf terminal rest) ⟨kind, licensed⟩ grown
    | @expanded cursor index nonterminal node input tree production chosen =>
      -- The trees over the alternative are hung below its nonterminal, beside the others.
      rw [Stage.form, List.map_append, map_symbol_pendingFrom] at roots
      obtain ⟨below, others, rfl, spelled, beside⟩ := Forest.exists_append_of_roots roots
      obtain ⟨licensedBelow, licensedOthers⟩ := Grammar.licenses_append_iff.mp licensed
      have grown : (Forest.branch nonterminal (index + 1) below others).roots =
          nonterminal :: input.map (·.symbol) :=
        congrArg (nonterminal :: ·) beside
      obtain ⟨whole, licensedWhole, root, taken, planted⟩ :=
        @ih (.branch nonterminal (index + 1) below others)
          ⟨⟨index, production, rfl, chosen, spelled⟩, licensedBelow, licensedOthers⟩ grown
      refine ⟨whole, licensedWhole, root, ?_, ?_⟩
      · rw [taken, choices, Forest.choices, Forest.choices_append, List.append_assoc,
          List.singleton_append]
      · have length : (DerivationTree.indicesFrom tree.nextIndex production.symbols.length).length =
            below.roots.length := by
          rw [spelled, DerivationTree.indicesFrom, List.length_range']
        rw [← planted, List.map_append, map_node_pendingFrom, Forest.plant_append length, ← spelled]
        rfl

/-- The tree of accepted tokens is the tree of the alternatives on the working stack. -/
theorem Replay.treeOf (h : Replay task frames stage) (derived : stage.input = []) :
    task.grammar.TreeOf (choices frames) stage.tree := by
  obtain ⟨whole, licensed, root, taken, planted⟩ :=
    @Replay.exists_forest _ _ _ h .nil trivial (by rw [Stage.form, derived]; rfl)
  refine ⟨whole, licensed, root, ?_, planted⟩
  rw [taken, Forest.choices, List.append_nil]

/-- **The tree of accepted tokens is that of their least leftmost derivation**, in lexicographic
order of the alternatives that it takes. -/
theorem exists_isLeast_of_accepted {σ : Type} {observe : σ → Action → State → σ} {fuel : Nat}
    {seen : σ} {tree : DerivationTree} {steps : Nat}
    (h : (parse task observe fuel seen).2 = some (.ok (.accepted tree steps))) :
    ∃ choices,
      IsLeast {choices |
        task.grammar.LeftDerives [task.grammar.start] choices task.tokens.toList} choices ∧
      ∀ other, task.grammar.TreeOf choices other ↔ other = tree := by
  obtain ⟨last, reached, mode, rfl⟩ := exists_final_of_parse h
  have sound := reached.reached.sound
  have replay := sound.replay (by rw [mode]; decide)
  have made := replay.treeOf (sound.accepted mode).1
  refine ⟨choices last.working, reached.isLeast_choices mode, fun other => ?_⟩
  constructor
  · intro treeOf
    exact treeOf.unique made
  · rintro rfl
    exact made

/-- The least derivation of the shortest sum. -/
theorem exists_isLeast_sums :
    ∃ choices, IsLeast {choices | Grammar.sums.LeftDerives ["E"] choices ["x"]} choices ∧
      ∀ other, Grammar.sums.TreeOf choices other ↔
        other = ⟨#[⟨"E", none, none⟩, ⟨"T", some 0, none⟩, ⟨"x", some 1, none⟩]⟩ := by
  have accepted : (parse ⟨.sums, #["x"], none⟩ unobserved 14 ()).2 = some (.ok (.accepted
      ⟨#[⟨"E", none, none⟩, ⟨"T", some 0, none⟩, ⟨"x", some 1, none⟩]⟩ 14)) := by cbv
  have least := exists_isLeast_of_accepted accepted
  exact least

end Descent.Search
