import Descent.Proofs.Search.Soundness

/-!
# Links of the tree

The children of a node are added all at once, at a time when it has none, and nodes are cut off at
the end only, together with everything that was added after them.  So the links of a tree say the
same thing in several ways: a node is linked to the one before it exactly if both have the same
parent, and the nodes that are met by following these links from a last child are the children of
one node.

`DerivationTree.Chained` is the first of these and the one that is kept by adding and cutting.
The others follow from it wherever children follow each other and come after their parent, with no
search in sight.
-/

namespace Descent

namespace DerivationTree

variable {tree : DerivationTree} {i parent first count : Nat} {symbols : List Symbol}

/-- The sibling to the left of the node with an index. -/
def previousSibling? (tree : DerivationTree) (i : Index) : Option Index :=
  (tree.get? i).bind (·.previousSibling)

/-- `tree.Leftward i visited` says that following the links to the left from the node `i` on meets
the nodes `visited`, itself among them, and comes to an end. -/
inductive Leftward (tree : DerivationTree) : Index → List Index → Prop
  /-- A node without a link ends the way. -/
  | stop {i : Index} (unlinked : tree.previousSibling? i = none) : Leftward tree i [i]
  /-- A link leads to the next node. -/
  | go {i previous : Index} {visited : List Index} (link : tree.previousSibling? i = some previous)
      (onward : Leftward tree previous visited) : Leftward tree i (i :: visited)

/-- Each node is linked to the one before it if both have the same parent, and else to none. -/
def Chained (tree : DerivationTree) : Prop :=
  ∀ i < tree.size, tree.previousSibling? i =
    if 0 < i ∧ tree.parent? (i - 1) = tree.parent? i then some (i - 1) else none

theorem chained_ofRoot (symbol : Symbol) : (ofRoot symbol).Chained := by
  intro i inside
  obtain rfl : i = 0 := Nat.lt_one_iff.mp inside
  rfl

theorem previousSibling?_append_of_lt (h : i < tree.size) :
    (tree.append parent symbols).previousSibling? i = tree.previousSibling? i := by
  rw [previousSibling?, previousSibling?, get?_append_of_lt h]

/-- Of the nodes that are added, each but the first is linked to the one before it. -/
theorem previousSibling?_append_of_le (h : tree.size ≤ i)
    (bound : i < tree.size + symbols.length) :
    (tree.append parent symbols).previousSibling? i =
      if i = tree.size then none else some (i - 1) := by
  have inside : i - tree.size < symbols.length := by omega
  rw [previousSibling?, get?_append, if_neg (Nat.not_lt.mpr h), List.getElem?_eq_getElem inside]
  rfl

/-- Children that are added to a leaf keep a tree chained. -/
theorem Chained.append (h : tree.Chained) (childless : tree.children parent = []) :
    (tree.append parent symbols).Chained := by
  intro i inside
  rw [size_append] at inside
  by_cases old : i < tree.size
  · have before : i - 1 < tree.size := by omega
    rw [previousSibling?_append_of_lt old, parent?_append_of_lt old, parent?_append_of_lt before]
    exact h i old
  have new : tree.size ≤ i := Nat.le_of_not_lt old
  rw [previousSibling?_append_of_le new inside, parent?_append_of_le new inside]
  by_cases lead : i = tree.size
  · -- The node before the first one that is added has another parent, or there is none.
    rw [if_pos lead, if_neg]
    rintro ⟨positive, same⟩
    have before : i - 1 < tree.size := by omega
    rw [parent?_append_of_lt before] at same
    have mem : i - 1 ∈ tree.children parent := mem_children_iff.mpr same
    rw [childless] at mem
    exact List.not_mem_nil mem
  · have above : tree.size ≤ i - 1 := by omega
    rw [if_neg lead, if_pos ⟨by omega, parent?_append_of_le above (by omega)⟩]

/-- The first of some children that follow each other is not linked, and each other one to the one
before it. -/
theorem Chained.previousSibling?_of_mem (h : tree.Chained)
    (kids : tree.children parent = indicesFrom first count) (mem : i ∈ tree.children parent) :
    tree.previousSibling? i = if i = first then none else some (i - 1) := by
  have found : tree.parent? i = some parent := mem_children_iff.mp mem
  have inside : first ≤ i ∧ i < first + count := by
    rw [kids] at mem
    exact List.mem_range'_1.mp mem
  have before : tree.parent? (i - 1) = some parent ↔ first ≤ i - 1 ∧ i - 1 < first + count := by
    rw [← mem_children_iff, kids]
    exact List.mem_range'_1
  rw [h i (lt_size_of_mem_children mem), found]
  simp only [before]
  by_cases lead : i = first
  · rw [if_pos lead, if_neg (by omega)]
  · rw [if_neg lead, if_pos (by omega)]

/-- **The links lead through children that follow each other**, from the last one to the first. -/
theorem Chained.leftward (h : tree.Chained)
    (kids : tree.children parent = indicesFrom first count) :
    ∀ before < count, tree.Leftward (first + before) (indicesFrom first (before + 1)).reverse := by
  have inside : ∀ {before}, before < count → first + before ∈ tree.children parent := by
    intro before bound
    rw [kids]
    exact List.mem_range'_1.mpr (by omega)
  intro before bound
  induction before with
  | zero =>
    refine .stop ?_
    rw [h.previousSibling?_of_mem kids (inside bound), if_pos (Nat.add_zero first)]
  | succ before ih =>
    have last : (indicesFrom first (before + 1 + 1)).reverse =
        (first + (before + 1)) :: (indicesFrom first (before + 1)).reverse := by
      rw [indicesFrom, List.range'_1_concat, List.reverse_append]
      rfl
    rw [last]
    refine .go ?_ (ih (Nat.lt_of_succ_lt bound))
    rw [h.previousSibling?_of_mem kids (inside bound), if_neg (by omega)]
    rfl

/-- The children of every node follow each other. -/
def Consecutive (tree : DerivationTree) : Prop :=
  ∀ parent, ∃ first count, tree.children parent = indicesFrom first count

/-- Where the children of every node follow each other, a node is linked to no sibling exactly if it
is the first one of the tree or the first child of a node. -/
theorem Chained.previousSibling?_eq_none_iff (h : tree.Chained) (ordered : tree.Ordered)
    (consecutive : tree.Consecutive) (inside : i < tree.size) :
    tree.previousSibling? i = none ↔
      i = Index.first ∨ ∃ parent, (tree.children parent).head? = some i := by
  rcases ordered i inside with ⟨root, -⟩ | ⟨parent, before, found⟩
  · refine iff_of_true ?_ (.inl root)
    rw [h i inside, if_neg]
    rintro ⟨positive, -⟩
    exact Nat.ne_of_gt positive root
  have mem : i ∈ tree.children parent := mem_children_iff.mpr found
  obtain ⟨first, count, kids⟩ := consecutive parent
  have filled : count ≠ 0 := by
    rintro rfl
    rw [kids] at mem
    exact List.not_mem_nil mem
  have lead : (tree.children parent).head? = some first := by
    rw [kids, indicesFrom, List.head?_range', if_neg filled]
  rw [h.previousSibling?_of_mem kids mem]
  constructor
  · intro unlinked
    have same : i = first := by
      by_contra other
      rw [if_neg other] at unlinked
      cases unlinked
    exact .inr ⟨parent, by rw [lead, same]⟩
  · rintro (root | ⟨other, leads⟩)
    · subst root
      exact absurd before (Nat.not_lt_zero parent)
    · -- A node is the child of one node only.
      have child : tree.parent? i = some other :=
        mem_children_iff.mp (List.mem_of_head? leads)
      obtain rfl : parent = other := Option.some.inj (found.symm.trans child)
      rw [lead] at leads
      exact if_pos (Option.some.inj leads).symm

/-- A link to a sibling leads to the node before, which has the same parent. -/
theorem Chained.eq_of_previousSibling? (h : tree.Chained) (ordered : tree.Ordered) {previous : Nat}
    (link : tree.previousSibling? i = some previous) :
    previous + 1 = i ∧ ∃ parent, tree.parent? previous = some parent ∧
      tree.parent? i = some parent := by
  have inside : i < tree.size := by
    obtain ⟨node, found, -⟩ := Option.bind_eq_some_iff.mp link
    exact lt_size_of_get?_eq_some found
  rw [h i inside] at link
  split at link
  · rename_i siblings
    obtain rfl := Option.some.inj link
    rcases ordered i inside with ⟨root, -⟩ | ⟨parent, -, found⟩
    · exact absurd root (Nat.ne_of_gt siblings.1)
    · exact ⟨Nat.succ_pred_eq_of_pos siblings.1, parent, siblings.2.trans found, found⟩
  · cases link

/-- From a last child the links lead through all children. -/
theorem Chained.leftward_children (h : tree.Chained) (consecutive : tree.Consecutive) {last : Nat}
    (ends : (tree.children parent).getLast? = some last) :
    tree.Leftward last (tree.children parent).reverse := by
  obtain ⟨first, count, kids⟩ := consecutive parent
  rw [kids, indicesFrom, List.getLast?_range'] at ends
  split at ends
  · cases ends
  · rename_i filled
    obtain ⟨before, rfl⟩ := Nat.exists_eq_succ_of_ne_zero filled
    obtain rfl := Option.some.inj ends
    have way := h.leftward kids before (Nat.lt_succ_self before)
    rw [kids]
    simpa using way

end DerivationTree

namespace Search

open DerivationTree

variable {task : Task} {state : State} {frames : List Frame} {stage : Stage}

/-- Everything that a replay does keeps the tree chained, since a node that is expanded has no
children. -/
theorem Replay.chained (h : Replay task frames stage) : stage.tree.Chained := by
  induction h with
  | start => exact chained_ofRoot task.grammar.start
  | redo earlier step ih =>
    cases step with
    | matched => exact ih
    | expanded => exact ih.append (earlier.frontier.children_eq_nil (by simp))

/-- What the links of the tree say in a state. -/
structure Linked (task : Task) (state : State) : Prop where
  /-- There is a first node. -/
  nonempty : 0 < state.tree.size
  /-- It is the only one without a parent. -/
  root : ∀ i < state.tree.size, state.tree.parent? i = none ↔ i = Index.first
  /-- Every other node comes after its parent. -/
  parent_lt : ∀ i parent, state.tree.parent? i = some parent → parent < i
  /-- A node with children was replaced by an alternative that stands on the working stack, and they
  follow each other in the order of its symbols. -/
  spelled : ∀ i, state.tree.children i ≠ [] → ∃ nonterminal index first production,
    .expanded nonterminal (index + 1) i first ∈ state.working ∧
      (task.grammar.alternatives nonterminal)[index]? = some production ∧
      state.tree.symbol? i = some nonterminal ∧
      state.tree.children i = indicesFrom first production.length ∧
      (state.tree.children i).map state.tree.symbol? = production.symbols.map some
  /-- The first node and each first child are linked to no sibling, and no other node is. -/
  unlinked : ∀ i < state.tree.size, state.tree.previousSibling? i = none ↔
    i = Index.first ∨ ∃ parent, (state.tree.children parent).head? = some i
  /-- A link to a sibling leads to the node before, which has the same parent. -/
  linked : ∀ i previous, state.tree.previousSibling? i = some previous →
    previous + 1 = i ∧ ∃ parent, state.tree.parent? previous = some parent ∧
      state.tree.parent? i = some parent
  /-- From a last child these links lead through all children, from right to left. -/
  leftward : ∀ parent last, (state.tree.children parent).getLast? = some last →
    state.tree.Leftward last (state.tree.children parent).reverse

/-- What links say follows from the order of the nodes, if every node with children was replaced by
an alternative that the children spell. -/
theorem linked_of_chained (ordered : state.tree.Ordered) (nonempty : 0 < state.tree.size)
    (chained : state.tree.Chained)
    (spelled : ∀ i, state.tree.children i ≠ [] → ∃ nonterminal index first production,
      .expanded nonterminal (index + 1) i first ∈ state.working ∧
        (task.grammar.alternatives nonterminal)[index]? = some production ∧
        state.tree.symbol? i = some nonterminal ∧
        state.tree.children i = indicesFrom first production.length ∧
        (state.tree.children i).map state.tree.symbol? = production.symbols.map some) :
    Linked task state := by
  have consecutive : state.tree.Consecutive := by
    intro parent
    by_cases leaf : state.tree.children parent = []
    · exact ⟨0, 0, leaf⟩
    · obtain ⟨-, -, first, production, -, -, -, kids, -⟩ := spelled parent leaf
      exact ⟨first, production.length, kids⟩
  refine ⟨nonempty, ?root, ?parent_lt, spelled, ?unlinked, ?linked, ?leftward⟩
  case root =>
    intro i inside
    rcases ordered i inside with ⟨root, none⟩ | ⟨parent, before, found⟩
    · exact iff_of_true none root
    · refine iff_of_false (by rw [found]; nofun) ?_
      exact Nat.ne_of_gt (Nat.zero_lt_of_lt before)
  case parent_lt =>
    intro i parent found
    exact ordered.lt_of_mem_children (mem_children_iff.mpr found)
  case unlinked =>
    intro i inside
    exact chained.previousSibling?_eq_none_iff ordered consecutive inside
  case linked =>
    intro i previous link
    exact chained.eq_of_previousSibling? ordered link
  case leftward =>
    intro parent last ends
    exact chained.leftward_children consecutive ends

/-- **What the links say**, in every reached state, those in which the tokens are rejected
included. -/
theorem links_exact (task : Task) (state : State) (reached : Reached task state) :
    Linked task state := by
  have sound := reached.sound
  by_cases mode : state.mode = .error
  · -- Nothing is left of the tree but the first node.
    obtain ⟨-, cleared⟩ := sound.rejected mode
    have lone : state.tree = ofRoot task.grammar.start := congrArg Stage.tree cleared
    refine linked_of_chained ?_ ?_ ?_ fun i kids => ?_
    · rw [lone]
      exact ordered_ofRoot task.grammar.start
    · rw [lone]
      exact Nat.one_pos
    · rw [lone]
      exact chained_ofRoot task.grammar.start
    · rw [lone] at kids
      exact absurd rfl kids
  · have replay := sound.replay mode
    have frontier := replay.frontier
    refine linked_of_chained frontier.ordered frontier.nonempty replay.chained fun i kids => ?_
    obtain ⟨frame, mem, replaced, -⟩ := replay.exists_replaces kids
    have recorded := replay.recorded frame mem
    cases frame with
    | matched => cases replaced
    | expanded nonterminal alternative node first =>
      obtain rfl : node = i := by simpa [Frame.replaces] using replaced
      obtain ⟨index, production, rfl, chosen, found, consecutive, symbols⟩ := recorded
      exact ⟨nonterminal, index, first, production, mem, chosen, found, consecutive, symbols⟩

/-- A search for a sum that has replaced the alternative of its first operand and come to the second
one: the first child of the latter comes right after the token of the former, and is not linked to
it. -/
theorem links_exact_sums :
    let task : Task := ⟨.sums, #["x", "+", "x"], none⟩
    let actions : List Action := [.expand, .expand, .momentaryInsuccess, .anotherTry, .advance,
      .advance, .expand]
    ∃ state, afterActions? task (.initial "E") actions = some state ∧
      state.tree.children 1 = [4] ∧ state.tree.children 3 = [5, 6, 7] ∧
      state.tree.previousSibling? 5 = none ∧ state.tree.Leftward 7 [7, 6, 5] := by
  intro task actions
  have started : start task = .ok (.initial "E") := start_eq Grammar.usable_sums
  have shape : (afterActions? task (.initial "E") actions).map (fun state =>
      (state.tree.size, state.tree.children 1, state.tree.children 3)) =
        some (8, [4], [5, 6, 7]) := by decide +kernel
  obtain ⟨state, left, same⟩ := Option.map_eq_some_iff.mp shape
  obtain ⟨size, operand, sum⟩ : state.tree.size = 8 ∧ state.tree.children 1 = [4] ∧
    state.tree.children 3 = [5, 6, 7] := by simpa using same
  have linked : Linked task state :=
    links_exact task state ((Reached.start started).afterActions left)
  have inside : 5 < state.tree.size := by
    rw [size]
    decide
  have way := linked.leftward 3 7 (by rw [sum]; rfl)
  rw [sum] at way
  exact ⟨state, left, operand, sum,
    (linked.unlinked 5 inside).mpr (.inr ⟨3, by rw [sum]; rfl⟩), way⟩

end Search

end Descent
