import Descent.Proofs.Tree.Growth

/-!
# The frontier of a tree

Reading the leaves keeps a list of nodes that are still to be visited.  Here the reading is a
relation, `DerivationTree.Reads`, so that a tree can grow below one of its leaves in the middle of
a reading: children that are added below a leaf take its place in what is read.  The relation
counts the nodes that are visited, because reading is given a number of them that must suffice.
-/

namespace Descent.DerivationTree

variable {tree : DerivationTree} {i : Nat} {symbols : List Symbol}

/-- `tree.Reads work count leaves` says that reading on from the nodes of `work` visits `count`
nodes and meets `leaves`, from left to right. -/
inductive Reads (tree : DerivationTree) : List Nat → Nat → List Nat → Prop
  /-- No node is left to be visited. -/
  | done : Reads tree [] 0 []
  /-- A node without children is a leaf. -/
  | leaf {i count : Nat} {work leaves : List Nat} (childless : tree.children i = [])
      (others : Reads tree work count leaves) : Reads tree (i :: work) (count + 1) (i :: leaves)
  /-- A node with children gives way to them. -/
  | branch {i count : Nat} {work leaves : List Nat} (parent : tree.children i ≠ [])
      (others : Reads tree (tree.children i ++ work) count leaves) :
      Reads tree (i :: work) (count + 1) leaves

/-- The leaves have no children. -/
theorem Reads.children_eq_nil {work leaves : List Nat} {count : Nat}
    (h : tree.Reads work count leaves) : ∀ i ∈ leaves, tree.children i = [] := by
  induction h with
  | done => simp
  | leaf childless _ ih => exact List.forall_mem_cons.mpr ⟨childless, ih⟩
  | branch _ _ ih => exact ih

/-! ### Reading the leaves of a tree -/

/-- A reading that is allowed as many nodes as it visits gives the symbols of the leaves. -/
theorem leavesWithin_of_reads {below : Index → List Index} {work leaves : List Nat}
    {count limit : Nat} (table : ∀ i < tree.size, below i = tree.children i)
    (h : tree.Reads work count leaves) (inside : ∀ i ∈ work, i < tree.size)
    (enough : count ≤ limit) :
    tree.leavesWithin below limit work = some (leaves.filterMap tree.symbol?) := by
  induction h generalizing limit with
  | done => cases limit <;> rfl
  | @leaf i count work leaves childless _ ih =>
    obtain ⟨limit, rfl⟩ : ∃ smaller, limit = smaller + 1 := ⟨limit - 1, by omega⟩
    obtain ⟨first, others⟩ := List.forall_mem_cons.mp inside
    have rest := ih others (Nat.le_of_succ_le_succ enough)
    have symbols : (tree.get? i).toList.map (·.symbol) ++ leaves.filterMap tree.symbol? =
        (i :: leaves).filterMap tree.symbol? := by
      rw [List.filterMap_cons, symbol?]
      cases tree.get? i <;> rfl
    rw [leavesWithin, table i first, childless]
    simp only [rest, Option.map_some, symbols]
  | @branch i count work leaves parent _ ih =>
    obtain ⟨limit, rfl⟩ : ∃ smaller, limit = smaller + 1 := ⟨limit - 1, by omega⟩
    obtain ⟨first, others⟩ := List.forall_mem_cons.mp inside
    have rest := ih (fun j mem => (List.mem_append.mp mem).elim lt_size_of_mem_children (others j))
      (Nat.le_of_succ_le_succ enough)
    rw [leavesWithin, table i first]
    cases kids : tree.children i with
    | nil => exact absurd kids parent
    | cons kid kids' =>
      rw [kids] at rest
      exact rest

theorem root?_of_size_pos (h : 0 < tree.size) : tree.root? = some Index.first := by
  have filled : tree.isEmpty = false := by
    rw [isEmpty, Array.isEmpty_eq_false_iff]
    exact Array.size_pos_iff.mp h
  rw [root?, filled]
  rfl

theorem root?_of_size_eq_zero (h : tree.size = 0) : tree.root? = none := by
  have empty : tree.isEmpty = true := Array.isEmpty_iff_size_eq_zero.mpr h
  rw [root?, if_pos empty]

/-- The first node is the only one that reading starts from. -/
theorem mem_root?_iff : i ∈ tree.root?.toList ↔ i = Index.first ∧ 0 < tree.size := by
  rcases Nat.eq_zero_or_pos tree.size with empty | filled
  · simp [root?_of_size_eq_zero empty, empty]
  · simp [root?_of_size_pos filled, filled]

theorem lt_size_of_mem_root? : ∀ i ∈ tree.root?.toList, i < tree.size := by
  intro i mem
  obtain ⟨rfl, filled⟩ := mem_root?_iff.mp mem
  exact filled

/-- The table leads from each node to its children. -/
theorem childTable_getD (bound : i < tree.size) :
    tree.childTable[i]?.getD [] = tree.children i := by
  rw [childTable_getElem? tree bound]
  rfl

/-- If no parent is missing, and reading from the first node visits no more nodes than there are,
what it meets are the leaves. -/
theorem leaves_of_reads_root {leaves : List Nat} {count : Nat} (parents : tree.hasParents)
    (h : tree.Reads tree.root?.toList count leaves) (enough : count ≤ tree.size) :
    tree.leaves = .ok (leaves.filterMap tree.symbol?) := by
  have read := leavesWithin_of_reads (fun _ => childTable_getD) h lt_size_of_mem_root? enough
  rw [DerivationTree.leaves, if_pos parents]
  simp only [read]

/-- The same for a tree in which parents come before their children. -/
theorem leaves_of_reads {leaves : List Nat} {count : Nat} (ordered : tree.Ordered)
    (nonempty : 0 < tree.size) (h : tree.Reads [Index.first] count leaves)
    (enough : count ≤ tree.size) :
    tree.leaves = .ok (leaves.filterMap tree.symbol?) := by
  refine leaves_of_reads_root ordered.hasParents ?_ enough
  rwa [root?_of_size_pos nonempty]

/-! ### Growing below a leaf -/

/-- Nodes without children are leaves where they stand. -/
theorem Reads.append_left {nodes work leaves : List Nat} {count : Nat}
    (childless : ∀ i ∈ nodes, tree.children i = []) (h : tree.Reads work count leaves) :
    tree.Reads (nodes ++ work) (count + nodes.length) (nodes ++ leaves) := by
  induction nodes with
  | nil => exact h
  | cons i nodes ih =>
    obtain ⟨first, others⟩ := List.forall_mem_cons.mp childless
    exact .leaf first (ih others)

/-- A reading that does not meet a leaf is not changed by what grows below it. -/
theorem Reads.append_of_not_mem {work leaves : List Nat} {count : Nat}
    (h : tree.Reads work count leaves) (childless : tree.children i = []) (absent : i ∉ leaves) :
    (tree.append i symbols).Reads work count leaves := by
  have same : ∀ {j}, j ≠ i → (tree.append i symbols).children j = tree.children j :=
    fun other => by rw [children_append, if_neg other]
  induction h with
  | done => exact .done
  | leaf free _ ih =>
    obtain ⟨other, absent⟩ := List.ne_and_not_mem_of_not_mem_cons absent
    exact .leaf (by rwa [same (Ne.symm other)]) (ih absent)
  | @branch j count work leaves parent _ ih =>
    have other : j ≠ i := by
      rintro rfl
      exact parent childless
    refine .branch (by rwa [same other]) ?_
    rw [same other]
    exact ih absent

/-- Children added below a leaf take its place among the leaves. -/
theorem Reads.append_leaf {work before after : List Nat} {count : Nat}
    (h : tree.Reads work count (before ++ i :: after)) (ordered : tree.Ordered)
    (bound : i < tree.size) (nonempty : symbols ≠ [])
    (notBefore : i ∉ before) (notAfter : i ∉ after) :
    (tree.append i symbols).Reads work (count + symbols.length)
      (before ++ indicesFrom tree.size symbols.length ++ after) := by
  have childless : tree.children i = [] := h.children_eq_nil i (by simp)
  have same : ∀ {j}, j ≠ i → (tree.append i symbols).children j = tree.children j :=
    fun other => by rw [children_append, if_neg other]
  have kids : (tree.append i symbols).children i = indicesFrom tree.size symbols.length := by
    rw [children_append, if_pos rfl, childless, List.nil_append]
  -- The leaf is met once; up to there the reading is as it was.
  generalize line : before ++ i :: after = leaves at h
  induction h generalizing before with
  | done => simp at line
  | @leaf j count work leaves free others ih =>
    cases before with
    | nil =>
      obtain ⟨rfl, rfl⟩ := List.cons_eq_cons.mp line
      have fresh : ∀ k ∈ indicesFrom tree.size symbols.length,
          (tree.append i symbols).children k = [] := by
        intro k mem
        have above : tree.size ≤ k := (List.mem_range'_1.mp mem).1
        rw [same (by omega), ordered.children_eq_nil above]
      have later : (tree.append i symbols).Reads work count after :=
        others.append_of_not_mem childless notAfter
      have grown := Reads.append_left fresh later
      rw [← kids] at grown
      have length : ((tree.append i symbols).children i).length = symbols.length := by
        rw [kids, indicesFrom, List.length_range']
      have next := Reads.branch (by rw [← List.length_pos_iff, length]
                                    exact List.length_pos_iff.mpr nonempty) grown
      rw [length, kids, Nat.add_right_comm] at next
      exact next
    | cons first before =>
      rw [List.cons_append, List.cons.injEq] at line
      obtain ⟨rfl, line⟩ := line
      obtain ⟨other, notBefore⟩ := List.ne_and_not_mem_of_not_mem_cons notBefore
      rw [Nat.add_right_comm]
      exact .leaf (by rwa [same (Ne.symm other)]) (ih notBefore line)
  | @branch j count work leaves parent _ ih =>
    have other : j ≠ i := by
      rintro rfl
      exact parent childless
    rw [Nat.add_right_comm]
    refine .branch (by rwa [same other]) ?_
    rw [same other]
    exact ih notBefore line

/-! ### The whole frontier -/

/-- `tree.Frontier nodes` says that `nodes` are those that are read as leaves, each once, and that
no other node is without children. -/
structure Frontier (tree : DerivationTree) (nodes : List Nat) : Prop where
  /-- Every node but the first comes after its parent. -/
  ordered : tree.Ordered
  /-- There is a first node. -/
  nonempty : 0 < tree.size
  /-- The nodes are there. -/
  bound : ∀ i ∈ nodes, i < tree.size
  /-- None of them is met twice. -/
  nodup : nodes.Nodup
  /-- Reading visits every node once and meets these as leaves. -/
  reads : tree.Reads [Index.first] tree.size nodes
  /-- They are all that have no children. -/
  covers : ∀ i < tree.size, tree.children i = [] → i ∈ nodes

theorem Frontier.children_eq_nil {nodes : List Nat} (h : tree.Frontier nodes) (mem : i ∈ nodes) :
    tree.children i = [] :=
  h.reads.children_eq_nil i mem

theorem frontier_ofRoot (symbol : Symbol) : (ofRoot symbol).Frontier [Index.first] where
  ordered := ordered_ofRoot symbol
  nonempty := Nat.one_pos
  bound := by simp [Index.first, ofRoot, size]
  nodup := by simp
  reads := .leaf rfl .done
  covers i bound _ := by
    obtain rfl : i = 0 := Nat.lt_one_iff.mp bound
    exact List.mem_singleton.mpr rfl

/-- A node on the frontier gives way to the children that it gets. -/
theorem Frontier.append {before after : List Nat} (h : tree.Frontier (before ++ i :: after))
    (nonempty : symbols ≠ []) :
    (tree.append i symbols).Frontier
      (before ++ indicesFrom tree.size symbols.length ++ after) := by
  obtain ⟨nodupBefore, nodupAfter, apart⟩ := List.nodup_append.mp h.nodup
  obtain ⟨notAfter, nodupAfter⟩ := List.nodup_cons.mp nodupAfter
  have notBefore : i ∉ before := fun mem => apart i mem i List.mem_cons_self rfl
  have bound : i < tree.size := h.bound i (by simp)
  have new : ∀ {j}, j ∈ indicesFrom tree.size symbols.length ↔
      tree.size ≤ j ∧ j < tree.size + symbols.length :=
    fun {j} => List.mem_range'_1
  have old : ∀ {j}, j ∈ before ++ after → j < tree.size := by
    intro j mem
    refine h.bound j ?_
    rcases List.mem_append.mp mem with mem | mem <;> simp [mem]
  refine ⟨h.ordered.append bound, ?_, ?_, ?_, ?_, ?_⟩
  · rw [size_append]
    exact Nat.lt_of_lt_of_le h.nonempty (Nat.le_add_right _ _)
  · intro j mem
    rw [size_append]
    rcases List.mem_append.mp mem with mem | mem
    · rcases List.mem_append.mp mem with mem | mem
      · exact Nat.lt_add_right _ (old (List.mem_append_left _ mem))
      · exact (new.mp mem).2
    · exact Nat.lt_add_right _ (old (List.mem_append_right _ mem))
  · refine List.nodup_append.mpr ⟨List.nodup_append.mpr ⟨nodupBefore, List.nodup_range', ?_⟩,
      nodupAfter, ?_⟩
    · intro j mem k added
      exact Nat.ne_of_lt (Nat.lt_of_lt_of_le (old (List.mem_append_left _ mem)) (new.mp added).1)
    · intro j mem k later
      rcases List.mem_append.mp mem with mem | added
      · exact apart j mem k (List.mem_cons_of_mem i later)
      · have above := Nat.lt_of_lt_of_le (old (List.mem_append_right _ later)) (new.mp added).1
        exact (Nat.ne_of_lt above).symm
  · rw [size_append]
    exact h.reads.append_leaf h.ordered bound nonempty notBefore notAfter
  · intro j inside free
    rw [size_append] at inside
    rw [children_append] at free
    by_cases fresh : tree.size ≤ j
    · exact List.mem_append_left _ (List.mem_append_right _ (new.mpr ⟨fresh, inside⟩))
    -- The node that got children is not free any more, so `j` was on the frontier beside it.
    have other : j ≠ i := by
      rintro rfl
      rw [if_pos rfl, List.append_eq_nil_iff, indicesFrom, List.range'_eq_nil_iff,
        List.length_eq_zero_iff] at free
      exact nonempty free.2
    rw [if_neg other] at free
    have mem := h.covers j (Nat.lt_of_not_le fresh) free
    rcases List.mem_append.mp mem with mem | mem
    · exact List.mem_append_left _ (List.mem_append_left _ mem)
    · exact List.mem_append_right _ (List.mem_of_ne_of_mem other mem)

end Descent.DerivationTree
