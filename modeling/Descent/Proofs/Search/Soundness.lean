import Mathlib
import Descent.Proofs.Search.Runs
import Descent.Proofs.Tree.Frontier

/-!
# Soundness of the tree

The nodes that stand for matched tokens and then those of the symbols to be derived are, in this
order, what is read as the leaves of the tree.  Every other node was replaced by an alternative,
and the frame for that still stands on the working stack.  Both are proved of replays, so they
hold in every reached state in which the tokens are not rejected, however the search was led
there.
-/

namespace Descent

/-! ### Trees of a grammar -/

/-- A derivation tree in which some nonterminals may still have no children. -/
structure Grammar.PartialTree (grammar : Grammar) (tree : DerivationTree) : Prop where
  /-- Every node but the first has a parent before it. -/
  ordered : tree.Ordered
  /-- The first node stands for the start symbol. -/
  root : tree.symbol? Index.first = some grammar.start
  /-- The children of a node spell an alternative of its symbol. -/
  spelled : ∀ i, tree.children i ≠ [] → ∃ nonterminal production,
    tree.symbol? i = some nonterminal ∧ production ∈ grammar.alternatives nonterminal ∧
      (tree.children i).map tree.symbol? = production.symbols.map some

/-- A derivation tree of some tokens. -/
structure Grammar.CompleteTree (grammar : Grammar) (tokens : List Symbol) (tree : DerivationTree) :
    Prop extends grammar.PartialTree tree where
  /-- Only terminals have no children. -/
  complete : ∀ i symbol, tree.symbol? i = some symbol → tree.children i = [] →
    grammar.isTerminal symbol
  /-- The leaves are the tokens. -/
  leaves : tree.leaves = .ok tokens

/-- Terminals have no children. -/
theorem Grammar.PartialTree.children_eq_nil {grammar : Grammar} {tree : DerivationTree}
    (h : grammar.PartialTree tree) {i : Nat} {terminal : Symbol}
    (found : tree.symbol? i = some terminal) (kind : grammar.isTerminal terminal) :
    tree.children i = [] := by
  cases kids : tree.children i with
  | nil => rfl
  | cons =>
    obtain ⟨nonterminal, production, found', chosen, -⟩ := h.spelled i (by rw [kids]; nofun)
    obtain rfl := Option.some.inj (found.symm.trans found')
    rw [Grammar.alternatives_eq_nil_of_isTerminal kind] at chosen
    cases chosen

namespace Search

variable {task : Task} {frame : Frame} {frames : List Frame} {prior stage next : Stage}
  {tree : DerivationTree}

/-! ### The frontier -/

/-- The terminals that were matched, from left to right. -/
def matched : List Frame → List Pending
  | [] => []
  | .matched terminal node :: frames => matched frames ++ [⟨terminal, node⟩]
  | .expanded _ _ _ _ :: frames => matched frames

/-- Everything that a replay does keeps the frontier: first what was matched, then what is
pending. -/
theorem Replay.frontier (h : Replay task frames stage) :
    stage.tree.Frontier ((matched frames ++ stage.input).map (·.node)) := by
  induction h with
  | start => exact DerivationTree.frontier_ofRoot task.grammar.start
  | redo _ step ih =>
    cases step with
    | matched => simpa [matched] using ih
    | @expanded cursor index nonterminal node input tree production chosen =>
      rw [List.map_append, List.map_cons] at ih
      have nonempty : production.symbols ≠ [] := List.cons_ne_nil _ _
      have grown := ih.append nonempty
      rw [matched, List.map_append, List.map_append, map_node_pendingFrom, ← List.append_assoc]
      exact grown

/-- Symbols that are pending with the new nodes are the symbols of these. -/
theorem symbol?_of_mem_pendingFrom {parent : Nat} {symbols : List Symbol} {pending : Pending}
    (mem : pending ∈ pendingFrom tree.nextIndex symbols) :
    (tree.append parent symbols).symbol? pending.node = some pending.symbol := by
  obtain ⟨k, found⟩ := List.getElem?_of_mem mem
  rw [pendingFrom, List.getElem?_zipWith_eq_some] at found
  obtain ⟨symbol, node, symbolAt, nodeAt, rfl⟩ := found
  obtain ⟨bound, -⟩ := List.getElem?_eq_some_iff.mp symbolAt
  rw [DerivationTree.indicesFrom, List.getElem?_range' bound, Nat.one_mul] at nodeAt
  rw [← Option.some.inj nodeAt, ← symbolAt]
  exact DerivationTree.symbol?_append_add k

/-- The nodes on the frontier have the symbols that were matched and are pending. -/
theorem Replay.symbol?_eq (h : Replay task frames stage) :
    ∀ pending ∈ matched frames ++ stage.input,
      stage.tree.symbol? pending.node = some pending.symbol := by
  induction h with
  | start =>
    intro pending mem
    rw [List.mem_singleton.mp mem]
    rfl
  | @redo frame frames prior next _ step ih =>
    cases step with
    | matched => simpa [matched] using ih
    | @expanded cursor index nonterminal node input tree production chosen =>
      intro pending mem
      have old : pending ∈ matched frames ++ input →
          (tree.append node production.symbols).symbol? pending.node = some pending.symbol := by
        intro mem
        have found := ih pending (by
          rcases List.mem_append.mp mem with mem | mem <;> simp [mem])
        rw [← found]
        exact DerivationTree.symbol?_append_of_lt
          (DerivationTree.lt_size_of_symbol?_eq_some found)
      rcases List.mem_append.mp mem with mem | mem
      · exact old (List.mem_append_left _ mem)
      · rcases List.mem_append.mp mem with mem | mem
        · exact symbol?_of_mem_pendingFrom mem
        · exact old (List.mem_append_right _ mem)

/-- The symbols that were matched are the tokens before the cursor. -/
theorem Replay.map_symbol_matched (h : Replay task frames stage) :
    (matched frames).map (·.symbol) = task.tokens.toList.take stage.cursor := by
  induction h with
  | start => rfl
  | redo _ step ih =>
    cases step with
    | matched _ token =>
      rw [matched, List.map_append, ih, List.take_add_one]
      simp [token]
    | expanded => exact ih

/-- The leaves are the matched tokens and then the symbols to be derived. -/
theorem Replay.leaves_eq (h : Replay task frames stage) :
    stage.tree.leaves = .ok (task.tokens.toList.take stage.cursor ++ stage.form) := by
  have frontier := h.frontier
  have symbols : ∀ {line : List Pending},
      (∀ pending ∈ line, stage.tree.symbol? pending.node = some pending.symbol) →
      (line.map (·.node)).filterMap stage.tree.symbol? = line.map (·.symbol) := by
    intro line known
    induction line with
    | nil => rfl
    | cons pending line ih =>
      obtain ⟨first, others⟩ := List.forall_mem_cons.mp known
      rw [List.map_cons, List.filterMap_cons_some first, ih others, List.map_cons]
  rw [DerivationTree.leaves_of_reads frontier.ordered frontier.nonempty frontier.reads
    (Nat.le_refl _), symbols h.symbol?_eq, List.map_append, h.map_symbol_matched]
  rfl

/-! ### The frames -/

/-- Whether a frame stands for replacing the symbol of a node. -/
def Frame.replaces (node : Index) : Frame → Bool
  | .matched _ _ => false
  | .expanded _ _ replaced _ => replaced = node

/-- What a frame says of the tree: the node has the symbol that was matched or replaced, and in
the latter case its children spell the alternative. -/
def Recorded (grammar : Grammar) (tree : DerivationTree) : Frame → Prop
  | .matched terminal node => grammar.isTerminal terminal ∧ tree.symbol? node = some terminal
  | .expanded nonterminal alternative node children =>
    ∃ index production, alternative = index + 1 ∧
      (grammar.alternatives nonterminal)[index]? = some production ∧
      tree.symbol? node = some nonterminal ∧
      tree.children node = DerivationTree.indicesFrom children production.length ∧
      (tree.children node).map tree.symbol? = production.symbols.map some

/-- A node that a recorded frame replaced has children. -/
theorem Recorded.children_ne_nil {grammar : Grammar} (h : Recorded grammar tree frame) {i : Index}
    (replaced : frame.replaces i) : tree.children i ≠ [] := by
  cases frame with
  | matched terminal node => cases replaced
  | expanded nonterminal alternative node children =>
    obtain rfl : node = i := by simpa [Frame.replaces] using replaced
    obtain ⟨index, production, -, -, -, kids, -⟩ := h
    rw [kids, DerivationTree.indicesFrom, Ne, List.range'_eq_nil_iff]
    exact Nat.succ_ne_zero _

/-- What was recorded stays true when a leaf gets children. -/
theorem Recorded.append {grammar : Grammar} (h : Recorded grammar tree frame) {i : Nat}
    {symbols : List Symbol} (childless : tree.children i = []) :
    Recorded grammar (tree.append i symbols) frame := by
  cases frame with
  | matched terminal node =>
    obtain ⟨kind, found⟩ := h
    refine ⟨kind, ?_⟩
    rwa [DerivationTree.symbol?_append_of_lt (DerivationTree.lt_size_of_symbol?_eq_some found)]
  | expanded nonterminal alternative node children =>
    have other : node ≠ i := by
      rintro rfl
      exact h.children_ne_nil (by simp [Frame.replaces]) childless
    obtain ⟨index, production, number, chosen, found, kids, spelled⟩ := h
    refine ⟨index, production, number, chosen, ?_, ?_, ?_⟩
    · rwa [DerivationTree.symbol?_append_of_lt (DerivationTree.lt_size_of_symbol?_eq_some found)]
    · rwa [DerivationTree.children_append, if_neg other]
    · rw [DerivationTree.children_append, if_neg other, ← spelled]
      refine List.map_congr_left fun j mem => ?_
      exact DerivationTree.symbol?_append_of_lt (DerivationTree.lt_size_of_mem_children mem)

/-- **Every frame is recorded in the tree.** -/
theorem Replay.recorded (h : Replay task frames stage) :
    ∀ frame ∈ frames, Recorded task.grammar stage.tree frame := by
  induction h with
  | start => simp
  | @redo frame frames prior next earlier step ih =>
    have front := earlier.symbol?_eq
    cases step with
    | @matched cursor terminal node input tree kind token =>
      exact List.forall_mem_cons.mpr ⟨⟨kind, front ⟨terminal, node⟩ (by simp)⟩, ih⟩
    | @expanded cursor index nonterminal node input tree production chosen =>
      have childless : tree.children node = [] := earlier.frontier.children_eq_nil (by simp)
      have found : tree.symbol? node = some nonterminal := front ⟨nonterminal, node⟩ (by simp)
      have kids : (tree.append node production.symbols).children node =
          DerivationTree.indicesFrom tree.size production.length := by
        rw [DerivationTree.children_append, if_pos rfl, childless, List.nil_append,
          Production.length_symbols]
      refine List.forall_mem_cons.mpr ⟨?_, fun frame mem => (ih frame mem).append childless⟩
      refine ⟨index, production, rfl, chosen, ?_, kids, ?_⟩
      · rwa [DerivationTree.symbol?_append_of_lt
          (DerivationTree.lt_size_of_symbol?_eq_some found)]
      · rw [kids]
        exact DerivationTree.map_symbol?_append

/-- A node with children was replaced by one frame. -/
theorem Replay.exists_replaces (h : Replay task frames stage) {i : Index}
    (parent : stage.tree.children i ≠ []) :
    ∃ frame ∈ frames, frame.replaces i ∧ ∀ other ∈ frames, other.replaces i → other = frame := by
  induction h with
  | start => exact absurd rfl parent
  | @redo frame frames prior next earlier step ih =>
    cases step with
    | @matched cursor terminal node input tree kind token =>
      obtain ⟨found, mem, replaced, unique⟩ := ih parent
      refine ⟨found, List.mem_cons_of_mem _ mem, replaced, fun other mem same => ?_⟩
      rcases List.mem_cons.mp mem with rfl | mem
      · cases same
      · exact unique other mem same
    | @expanded cursor index nonterminal node input tree production chosen =>
      -- The node was on the frontier before, so no earlier frame replaced it.
      have childless : tree.children node = [] := earlier.frontier.children_eq_nil (by simp)
      by_cases new : i = node
      · subst new
        refine ⟨_, List.mem_cons_self, by simp [Frame.replaces], fun other mem same => ?_⟩
        rcases List.mem_cons.mp mem with rfl | mem
        · rfl
        · exact absurd childless ((earlier.recorded other mem).children_ne_nil same)
      · rw [DerivationTree.children_append, if_neg new] at parent
        obtain ⟨found, mem, replaced, unique⟩ := ih parent
        refine ⟨found, List.mem_cons_of_mem _ mem, replaced, fun other mem same => ?_⟩
        rcases List.mem_cons.mp mem with rfl | mem
        · exact absurd (by simpa [Frame.replaces] using same : node = i) (Ne.symm new)
        · exact unique other mem same

/-! ### The tree -/

theorem frame_of_mem_matched {pending : Pending} (mem : pending ∈ matched frames) :
    .matched pending.symbol pending.node ∈ frames := by
  induction frames with
  | nil => cases mem
  | cons frame frames ih =>
    cases frame with
    | matched terminal node =>
      rcases List.mem_append.mp mem with mem | mem
      · exact List.mem_cons_of_mem _ (ih mem)
      · rw [List.mem_singleton.mp mem]
        exact List.mem_cons_self
    | expanded => exact List.mem_cons_of_mem _ (ih mem)

/-- The first node always stands for the start symbol. -/
theorem Replay.root (h : Replay task frames stage) :
    stage.tree.symbol? Index.first = some task.grammar.start := by
  induction h with
  | start => rfl
  | redo _ step ih =>
    cases step with
    | matched => exact ih
    | expanded =>
      rwa [DerivationTree.symbol?_append_of_lt (DerivationTree.lt_size_of_symbol?_eq_some ih)]

/-- What was done so far is a partial derivation. -/
theorem Replay.partialTree (h : Replay task frames stage) :
    task.grammar.PartialTree stage.tree where
  ordered := h.frontier.ordered
  root := h.root
  spelled i parent := by
    obtain ⟨frame, mem, replaced, -⟩ := h.exists_replaces parent
    have recorded := h.recorded frame mem
    cases frame with
    | matched => cases replaced
    | expanded nonterminal alternative node children =>
      obtain rfl : node = i := by simpa [Frame.replaces] using replaced
      obtain ⟨index, production, -, chosen, found, -, spelled⟩ := recorded
      exact ⟨nonterminal, production, found, List.mem_of_getElem? chosen, spelled⟩

/-- Where all tokens are matched and nothing is to be derived, the derivation is complete. -/
theorem Replay.completeTree (h : Replay task frames stage) (derived : stage.input = [])
    (complete : stage.cursor = task.tokens.size) :
    task.grammar.CompleteTree task.tokens.toList stage.tree where
  toPartialTree := h.partialTree
  complete i symbol found free := by
    have covered := h.frontier.covers i (DerivationTree.lt_size_of_symbol?_eq_some found) free
    rw [derived, List.append_nil] at covered
    obtain ⟨pending, mem, rfl⟩ := List.mem_map.mp covered
    obtain ⟨kind, found'⟩ := h.recorded _ (frame_of_mem_matched mem)
    rw [found] at found'
    rwa [Option.some.inj found']
  leaves := by
    rw [h.leaves_eq, Stage.form, derived, complete, ← Array.length_toList, List.take_length]
    simp

/-- What holds of the tree in a state: it is a partial derivation, its nodes with children are
those of the frames, and its leaves are the matched tokens and the symbols to be derived. -/
structure TreeSound (task : Task) (state : State) : Prop where
  /-- The tree is a partial derivation. -/
  tree : task.grammar.PartialTree state.tree
  /-- There is one frame for each node with children. -/
  replaced : ∀ i, state.tree.children i ≠ [] → ∃ frame ∈ state.working, frame.replaces i ∧
    ∀ other ∈ state.working, other.replaces i → other = frame
  /-- The children of its node spell the alternative that it holds. -/
  recorded : ∀ frame ∈ state.working, Recorded task.grammar state.tree frame
  /-- Terminals have no children. -/
  childless : ∀ i terminal, state.tree.symbol? i = some terminal →
    task.grammar.isTerminal terminal → state.tree.children i = []
  /-- The leaves, from left to right. -/
  leaves : state.tree.leaves =
    .ok (task.tokens.toList.take state.cursor ++ state.input.map (·.symbol))

variable {state : State}

theorem Sound.treeSound (h : Sound task state) (mode : state.mode ≠ .error) :
    TreeSound task state where
  tree := (h.replay mode).partialTree
  replaced _ := (h.replay mode).exists_replaces
  recorded := (h.replay mode).recorded
  childless _ _ := (h.replay mode).partialTree.children_eq_nil
  leaves := (h.replay mode).leaves_eq

theorem Sound.completeTree (h : Sound task state) (mode : state.mode = .final) :
    task.grammar.CompleteTree task.tokens.toList state.tree := by
  obtain ⟨derived, complete⟩ := h.accepted mode
  exact (h.replay (by rw [mode]; decide)).completeTree derived complete

/-- **The tree is sound** in every reached state but those in which the tokens are rejected, and a
derivation tree of the tokens when they are accepted. -/
theorem reached_tree_sound (task : Task) :
    (∀ state, Reached task state → state.mode ≠ .error →
      TreeSound task state ∧
        (state.mode = .final → task.grammar.CompleteTree task.tokens.toList state.tree)) ∧
    ∀ {σ : Type} (observe : σ → Action → State → σ) (fuel : Nat) (seen : σ)
      (tree : DerivationTree) (steps : Nat),
      (parse task observe fuel seen).2 = some (.ok (.accepted tree steps)) →
        task.grammar.CompleteTree task.tokens.toList tree := by
  constructor
  · intro state reached mode
    exact ⟨reached.sound.treeSound mode, reached.sound.completeTree⟩
  · intro σ observe fuel seen tree steps result
    obtain ⟨last, reached, mode, rfl⟩ := exists_final_of_parse result
    exact reached.reached.sound.completeTree mode

/-- The tree of a search for a sum, after an expansion and a failed attempt to match a token, and
when it is over. -/
theorem reached_tree_sound_sums :
    (∃ state, afterActions? ⟨.sums, #["x"], none⟩ (.initial "E") [.expand, .advance] = some state ∧
      TreeSound ⟨.sums, #["x"], none⟩ state) ∧
    Grammar.sums.CompleteTree ["x"]
      ⟨#[⟨"E", none, none⟩, ⟨"T", some 0, none⟩, ⟨"x", some 1, none⟩]⟩ := by
  have started : start ⟨.sums, #["x"], none⟩ = .ok (.initial "E") :=
    start_eq Grammar.usable_sums
  obtain ⟨states, verdicts⟩ := reached_tree_sound ⟨.sums, #["x"], none⟩
  obtain ⟨state, left⟩ : ∃ state,
    afterActions? ⟨.sums, #["x"], none⟩ (.initial "E") [.expand, .advance] = some state := ⟨_, rfl⟩
  have mode : state.mode ≠ .error := by
    cases left
    decide
  refine ⟨⟨state, left, (states state ((Reached.start started).afterActions left) mode).1⟩, ?_⟩
  exact verdicts unobserved 14 () _ 14 (by cbv)

end Search

end Descent
