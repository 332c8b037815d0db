import Descent.Tree

/-!
# How trees grow

A tree is an array of nodes, and only two things happen to it: children are added at the end, and
the end is cut off.  Here both are seen through the nodes at each index and through the children
of each node, so that no later proof looks at the array.

In the trees of a search every node comes after its parent.  Cutting back to where children were
added therefore undoes the adding, and takes no node from under another that stays.
-/

namespace Descent.DerivationTree

variable {tree other : DerivationTree} {parent i : Nat} {symbols : List Symbol}

/-! ### Nodes -/

theorem get?_eq_none_iff : tree.get? i = none ↔ tree.size ≤ i :=
  Array.getElem?_eq_none_iff

theorem lt_size_of_get?_eq_some {node : Node} (h : tree.get? i = some node) : i < tree.size := by
  by_cases bound : i < tree.size
  · exact bound
  · rw [get?_eq_none_iff.mpr (Nat.le_of_not_lt bound)] at h
    cases h

/-- Trees with the same node at each index are the same. -/
theorem ext_get? (h : ∀ i, tree.get? i = other.get? i) : tree = other := by
  obtain ⟨nodes⟩ := tree
  obtain ⟨others⟩ := other
  exact congrArg mk (Array.ext_getElem? h)

/-- The nodes that `append` adds: each knows the one before it, and the first knows `previous`. -/
def siblings (parent first : Nat) (previous : Option Index) : List Symbol → List Node
  | [] => []
  | symbol :: symbols =>
    ⟨symbol, some parent, previous⟩ :: siblings parent (first + 1) (some first) symbols

theorem siblings_getElem? (first : Nat) (previous : Option Index) (k : Nat) :
    (siblings parent first previous symbols)[k]? = symbols[k]?.map fun symbol =>
      ⟨symbol, some parent, if k = 0 then previous else some (first + k - 1)⟩ := by
  induction symbols generalizing first previous k with
  | nil => rfl
  | cons symbol symbols ih =>
    cases k with
    | zero => rfl
    | succ k =>
      rw [siblings, List.getElem?_cons_succ, List.getElem?_cons_succ, ih]
      cases k with
      | zero => rfl
      | succ k => simp [Nat.add_assoc, Nat.add_comm 1]

theorem nodes_appendAfter (previous : Option Index) :
    (tree.appendAfter parent previous symbols).nodes.toList =
      tree.nodes.toList ++ siblings parent tree.size previous symbols := by
  induction symbols generalizing tree previous with
  | nil => simp [appendAfter, siblings]
  | cons symbol symbols ih =>
    rw [appendAfter, ih, size_push]
    simp [push, siblings, nextIndex]

/-- The nodes that were there stay as they are, and new ones follow. -/
theorem get?_append :
    (tree.append parent symbols).get? i =
      if i < tree.size then tree.get? i
      else symbols[i - tree.size]?.map fun symbol =>
        ⟨symbol, some parent, if i = tree.size then none else some (i - 1)⟩ := by
  simp only [get?, append, ← Array.getElem?_toList, nodes_appendAfter]
  split
  · rename_i bound
    rw [List.getElem?_append_left bound]
  · rename_i bound
    have bound := Nat.le_of_not_lt bound
    rw [List.getElem?_append_right bound, siblings_getElem?]
    have length : tree.nodes.toList.length = tree.size := rfl
    have first : i - tree.size = 0 ↔ i = tree.size := by omega
    have before : tree.size + (i - tree.size) - 1 = i - 1 := by omega
    simp only [length, first, before]

theorem get?_append_of_lt (h : i < tree.size) :
    (tree.append parent symbols).get? i = tree.get? i := by
  rw [get?_append, if_pos h]

theorem get?_truncate {first : Nat} :
    (tree.truncate first).get? i = if i < first then tree.get? i else none := by
  rw [truncate, get?, get?, ← Array.getElem?_toList, Array.toList_shrink, List.getElem?_take,
    Array.getElem?_toList]

/-- The symbol of the node with an index. -/
def symbol? (tree : DerivationTree) (i : Nat) : Option Symbol := (tree.get? i).map (·.symbol)

theorem lt_size_of_symbol?_eq_some {symbol : Symbol} (h : tree.symbol? i = some symbol) :
    i < tree.size := by
  obtain ⟨node, found, -⟩ := Option.map_eq_some_iff.mp h
  exact lt_size_of_get?_eq_some found

theorem symbol?_append_of_lt (h : i < tree.size) :
    (tree.append parent symbols).symbol? i = tree.symbol? i := by
  rw [symbol?, symbol?, get?_append_of_lt h]

/-- The new nodes have the symbols that they were added for. -/
theorem symbol?_append_add (k : Nat) :
    (tree.append parent symbols).symbol? (tree.size + k) = symbols[k]? := by
  rw [symbol?, get?_append, if_neg (Nat.not_lt.mpr (Nat.le_add_right _ k)), Nat.add_sub_cancel_left]
  cases symbols[k]? <;> rfl

theorem map_symbol?_append :
    (indicesFrom tree.size symbols.length).map (tree.append parent symbols).symbol? =
      symbols.map some := by
  refine List.ext_getElem? fun k => ?_
  rw [indicesFrom, List.getElem?_map, List.getElem?_map]
  by_cases bound : k < symbols.length
  · rw [List.getElem?_range' bound, Option.map_some, Nat.one_mul, symbol?_append_add,
      List.getElem?_eq_getElem bound, Option.map_some]
  · have bound := Nat.le_of_not_lt bound
    rw [List.getElem?_eq_none (by simpa using bound), List.getElem?_eq_none bound]
    rfl

/-- Cutting the tree back to where children were added takes them away again. -/
theorem truncate_append : (tree.append parent symbols).truncate tree.size = tree := by
  refine ext_get? fun i => ?_
  rw [get?_truncate]
  split
  · exact get?_append_of_lt ‹_›
  · exact (get?_eq_none_iff.mpr (Nat.le_of_not_lt ‹_›)).symm

/-! ### Children -/

theorem mem_children_iff : i ∈ tree.children parent ↔ tree.parent? i = some parent := by
  simp only [children, List.mem_filter, List.mem_range, beq_iff_eq, and_iff_right_iff_imp]
  intro h
  obtain ⟨node, found, -⟩ := Option.bind_eq_some_iff.mp h
  exact lt_size_of_get?_eq_some found

theorem lt_size_of_mem_children (h : i ∈ tree.children parent) : i < tree.size :=
  List.mem_range.mp (List.mem_filter.mp h).1

theorem parent?_append_of_lt (h : i < tree.size) :
    (tree.append parent symbols).parent? i = tree.parent? i := by
  rw [parent?, parent?, get?_append_of_lt h]

theorem parent?_append_of_le (h : tree.size ≤ i) (bound : i < tree.size + symbols.length) :
    (tree.append parent symbols).parent? i = some parent := by
  have inside : i - tree.size < symbols.length := by omega
  rw [parent?, get?_append, if_neg (Nat.not_lt.mpr h), List.getElem?_eq_getElem inside]
  rfl

/-- The new nodes are the last children of the node that they were added to, and no other node
gets children. -/
theorem children_append (of : Nat) :
    (tree.append parent symbols).children of =
      if of = parent then tree.children of ++ indicesFrom tree.size symbols.length
      else tree.children of := by
  have old : (List.range tree.size).filter
        (fun i => (tree.append parent symbols).parent? i == some of) = tree.children of := by
    refine List.filter_congr fun i mem => ?_
    rw [parent?_append_of_lt (List.mem_range.mp mem)]
  have new : ∀ i ∈ List.range' tree.size symbols.length,
      ((tree.append parent symbols).parent? i == some of) = decide (of = parent) := by
    intro i mem
    rw [List.mem_range'_1] at mem
    rw [parent?_append_of_le mem.1 mem.2]
    by_cases same : of = parent
    · simp [same]
    · simp [same, Ne.symm same]
  rw [children, size_append, List.range_eq_range', ← List.range'_append_1, ← List.range_eq_range',
    List.filter_append, old, Nat.zero_add, List.filter_congr new]
  by_cases same : of = parent
  · simp [same, indicesFrom]
  · simp [same]

/-! ### Order -/

/-- Every node but the first has a parent, and comes after it. -/
def Ordered (tree : DerivationTree) : Prop :=
  ∀ i < tree.size, i = Index.first ∧ tree.parent? i = none ∨
    ∃ parent < i, tree.parent? i = some parent

theorem Ordered.lt_of_mem_children (h : tree.Ordered) (mem : i ∈ tree.children parent) :
    parent < i := by
  have found := mem_children_iff.mp mem
  rcases h i (lt_size_of_mem_children mem) with ⟨-, none⟩ | ⟨other, before, some⟩
  · rw [none] at found
    cases found
  · rw [some] at found
    rwa [← Option.some.inj found]

theorem Ordered.children_eq_nil (h : tree.Ordered) (bound : tree.size ≤ i) :
    tree.children i = [] := by
  refine List.eq_nil_iff_forall_not_mem.mpr fun j mem => ?_
  have after := h.lt_of_mem_children mem
  have inside := lt_size_of_mem_children mem
  omega

/-- No parent is missing exactly if every parent that a node names is there. -/
theorem hasParents_iff :
    tree.hasParents ↔ ∀ {parent i}, tree.parent? i = some parent → parent < tree.size := by
  have found {i : Nat} (bound : i < tree.nodes.size) : tree.parent? i = tree.nodes[i].parent := by
    rw [parent?, get?, Array.getElem?_eq_getElem bound, Option.bind_some]
  rw [DerivationTree.hasParents, Array.all_eq_true]
  constructor
  · intro all parent i named
    have bound := lt_size_of_mem_children (mem_children_iff.mpr named)
    have inside := all i bound
    rw [← found bound, named, Option.all_some] at inside
    exact of_decide_eq_true inside
  · intro all i bound
    rw [← found bound]
    cases named : tree.parent? i with
    | none => rfl
    | some parent => exact decide_eq_true (all named)

theorem Ordered.hasParents (h : tree.Ordered) : tree.hasParents := by
  refine hasParents_iff.mpr fun named => ?_
  have mem := mem_children_iff.mpr named
  exact Nat.lt_trans (h.lt_of_mem_children mem) (lt_size_of_mem_children mem)

/-- Adding children of a node that is there keeps the order. -/
theorem Ordered.append (h : tree.Ordered) (bound : parent < tree.size) :
    (tree.append parent symbols).Ordered := by
  intro i inside
  rw [size_append] at inside
  by_cases old : i < tree.size
  · rw [parent?_append_of_lt old]
    exact h i old
  · have new := Nat.le_of_not_lt old
    exact .inr ⟨parent, by omega, parent?_append_of_le new inside⟩

theorem ordered_ofRoot (symbol : Symbol) : (ofRoot symbol).Ordered := by
  intro i inside
  obtain rfl : i = 0 := Nat.lt_one_iff.mp inside
  exact .inl ⟨rfl, rfl⟩

end Descent.DerivationTree
