import Mathlib.Data.List.Perm.Subperm
import Descent.Proofs.Tree.Ancestry
import Descent.Proofs.Tree.Frontier

/-!
# Leaves in depth-first order

Reading the leaves of a list of nodes goes down from the first one and keeps no record of where it
was.  It comes to an end if the nodes below the first can be listed in depth-first order, and then
it meets those of them that have no children, each once.  They can be listed unless the first node
is its own ancestor: no node has two parents, so there is one way down to each.

Since `DerivationTree.DepthFirst` is a finite list by definition, that a reading ends and that
nodes can be listed are two forms of the same thing, and each direction is an induction: over what
is read, and over the nodes below, where every path ends.
-/

namespace Descent.DerivationTree

open Relation

variable {tree : DerivationTree} {i j : Index} {tops nodes work : List Index}
  {below : Index → List Index} {limit : Nat}

/-! ### Depth-first order -/

/-- `tree.DepthFirst tops nodes` says that `nodes` are the nodes of `tops` and those below them in
depth-first order: each is followed by what is below it, child by child, and only then by the
next. -/
inductive DepthFirst (tree : DerivationTree) : List Index → List Index → Prop
  /-- There is nothing at or below no nodes. -/
  | nil : DepthFirst tree [] []
  /-- A node comes before what is below it, and that before the other nodes. -/
  | cons {i : Index} {tops inner outer : List Index}
      (children : DepthFirst tree (tree.children i) inner) (others : DepthFirst tree tops outer) :
      DepthFirst tree (i :: tops) (i :: (inner ++ outer))

/-- There is one depth-first order. -/
theorem DepthFirst.unique {others : List Index} (h : tree.DepthFirst tops nodes)
    (h' : tree.DepthFirst tops others) : others = nodes := by
  induction h generalizing others with
  | nil =>
    cases h'
    rfl
  | cons _ _ ihChildren ihOthers =>
    cases h' with
    | cons children rest => rw [ihChildren children, ihOthers rest]

theorem DepthFirst.exists_of_append {more : List Index}
    (h : tree.DepthFirst (tops ++ more) nodes) :
    ∃ first later, tree.DepthFirst tops first ∧ tree.DepthFirst more later := by
  induction tops generalizing nodes with
  | nil => exact ⟨[], nodes, .nil, h⟩
  | cons top tops ih =>
    cases h with
    | cons children others =>
      obtain ⟨first, later, here, there⟩ := ih others
      exact ⟨_, later, .cons children here, there⟩

/-- **Which nodes are listed**: those from which a chain of parents leads up to one of the first. -/
theorem DepthFirst.mem_iff (h : tree.DepthFirst tops nodes) :
    i ∈ nodes ↔ ∃ top ∈ tops, ReflTransGen tree.Parent top i := by
  induction h with
  | nil => simp
  | @cons top tops inner outer _ _ ihChildren ihOthers =>
    have down : ReflTransGen tree.Parent top i ↔ i = top ∨ i ∈ inner := by
      rw [ihChildren, ReflTransGen.cases_head_iff, eq_comm]
      simp only [parent_iff_mem_children]
    simp only [List.mem_cons, List.mem_append, exists_eq_or_imp, ihOthers, down, or_assoc]

/-! ### When there is a depth-first order -/

/-- Below the nodes that are listed every path ends. -/
theorem DepthFirst.acc (h : tree.DepthFirst tops nodes) :
    ∀ top ∈ tops, Acc (fun i parent => tree.Parent parent i) top := by
  induction h with
  | nil => exact List.forall_mem_nil _
  | cons _ _ ihChildren ihOthers =>
    refine List.forall_mem_cons.mpr ⟨Acc.intro _ fun i step => ?_, ihOthers⟩
    exact ihChildren i (parent_iff_mem_children.mp step)

/-- Nodes can be listed if the children of each can. -/
theorem exists_depthFirst_of_children
    (h : ∀ top ∈ tops, ∃ inner, tree.DepthFirst (tree.children top) inner) :
    ∃ nodes, tree.DepthFirst tops nodes := by
  induction tops with
  | nil => exact ⟨[], .nil⟩
  | cons top tops ih =>
    obtain ⟨⟨inner, children⟩, rest⟩ := List.forall_mem_cons.mp h
    obtain ⟨outer, others⟩ := ih rest
    exact ⟨_, .cons children others⟩

/-- **Nodes below which every path ends can be listed.** -/
theorem exists_depthFirst_of_acc
    (h : ∀ top ∈ tops, Acc (fun i parent => tree.Parent parent i) top) :
    ∃ nodes, tree.DepthFirst tops nodes := by
  refine exists_depthFirst_of_children fun top mem => ?_
  have ends := h top mem
  clear mem
  induction ends with
  | intro top _ ih =>
    exact exists_depthFirst_of_children fun i child => ih i (parent_iff_mem_children.mpr child)

/-! ### No node twice -/

/-- Two children of a node that is on no cycle have nothing below them in common. -/
theorem pairwise_children (h : ¬ tree.Ancestor i i) :
    (tree.children i).Pairwise fun first second =>
      ∀ j, ReflTransGen tree.Parent first j → ¬ ReflTransGen tree.Parent second j := by
  -- Otherwise one of them would be above the other, and its parent above itself.
  have apart : ∀ {first second}, first ∈ tree.children i → second ∈ tree.children i →
      first ≠ second → ¬ ReflTransGen tree.Parent first second := by
    intro first second child child' other chain
    rcases ReflTransGen.cases_tail chain with same | ⟨parent, chain, step⟩
    · exact other same.symm
    · obtain rfl := step.unique (parent_iff_mem_children.mpr child')
      exact h (TransGen.head' (parent_iff_mem_children.mpr child) chain)
  have distinct : (tree.children i).Nodup := List.nodup_range.filter _
  refine distinct.imp_of_mem fun child child' other j chain chain' => ?_
  rcases total_of_descendant chain chain' with above | above
  · exact apart child child' other above
  · exact apart child' child (Ne.symm other) above

/-- **No node is listed twice** if the first ones have nothing below them in common. -/
theorem DepthFirst.nodup (h : tree.DepthFirst tops nodes)
    (apart : tops.Pairwise fun first second =>
      ∀ j, ReflTransGen tree.Parent first j → ¬ ReflTransGen tree.Parent second j) :
    nodes.Nodup := by
  induction h with
  | nil => exact List.nodup_nil
  | @cons top tops inner outer children others ihChildren ihOthers =>
    obtain ⟨first, rest⟩ := List.pairwise_cons.mp apart
    have free : ¬ tree.Ancestor top top :=
      not_transGen_of_acc ((DepthFirst.cons children others).acc top List.mem_cons_self)
    have down : ∀ {j}, j ∈ inner → tree.Ancestor top j := by
      intro j mem
      obtain ⟨child, mem, chain⟩ := children.mem_iff.mp mem
      exact TransGen.head' (parent_iff_mem_children.mpr mem) chain
    have beside : ∀ {j}, ReflTransGen tree.Parent top j → j ∉ outer := by
      intro j chain mem
      obtain ⟨second, mem, chain'⟩ := others.mem_iff.mp mem
      exact first second mem j chain chain'
    refine List.nodup_cons.mpr ⟨fun mem => ?_, List.nodup_append.mpr
      ⟨ihChildren (pairwise_children free), ihOthers rest, fun j mem k mem' same => ?_⟩⟩
    · rcases List.mem_append.mp mem with mem | mem
      · exact free (down mem)
      · exact beside .refl mem
    · exact beside (down mem).to_reflTransGen (same ▸ mem')

/-! ### Reading -/

/-- What is listed is read: the nodes without children are the leaves. -/
theorem DepthFirst.reads {leaves : List Index} {count : Nat} (h : tree.DepthFirst tops nodes)
    (rest : tree.Reads work count leaves) :
    tree.Reads (tops ++ work) (nodes.length + count)
      (nodes.filter (tree.children · = []) ++ leaves) := by
  induction h generalizing work count leaves with
  | nil => simpa using rest
  | @cons top tops inner outer children others ihChildren ihOthers =>
    have later := ihOthers rest
    have total : (top :: (inner ++ outer)).length + count =
        inner.length + (outer.length + count) + 1 := by
      rw [List.length_cons, List.length_append]
      omega
    rw [total, List.filter_cons, List.filter_append, List.cons_append]
    by_cases childless : tree.children top = []
    · rw [childless] at children
      cases children
      rw [if_pos (decide_eq_true childless)]
      simpa using Reads.leaf childless later
    · rw [if_neg (by simpa using childless), List.append_assoc]
      exact .branch childless (ihChildren later)

/-- **Nodes from which reading ends can be listed.** -/
theorem exists_depthFirst_of_leavesWithin {symbols : List Symbol}
    (table : ∀ i < tree.size, below i = tree.children i) (inside : ∀ i ∈ work, i < tree.size)
    (h : tree.leavesWithin below limit work = some symbols) :
    ∃ nodes, tree.DepthFirst work nodes := by
  induction limit generalizing work symbols with
  | zero =>
    cases work with
    | nil => exact ⟨[], .nil⟩
    | cons i work => cases h
  | succ limit ih =>
    cases work with
    | nil => exact ⟨[], .nil⟩
    | cons i work =>
      obtain ⟨first, others⟩ := List.forall_mem_cons.mp inside
      rw [leavesWithin, table i first] at h
      split at h
      · rename_i childless
        obtain ⟨symbols, read, -⟩ := Option.map_eq_some_iff.mp h
        obtain ⟨outer, listed⟩ := ih others read
        have nothing : tree.DepthFirst (tree.children i) [] := by
          rw [childless]
          exact .nil
        exact ⟨_, .cons nothing listed⟩
      · obtain ⟨nodes, listed⟩ := ih (fun j mem =>
          (List.mem_append.mp mem).elim lt_size_of_mem_children (others j)) h
        obtain ⟨inner, outer, children, rest⟩ := listed.exists_of_append
        exact ⟨_, .cons children rest⟩

/-- Reading from the first node ends if it is on no cycle, and only then. -/
theorem exists_depthFirst_root?_iff :
    (∃ nodes, tree.DepthFirst tree.root?.toList nodes) ↔
      ¬ tree.Ancestor Index.first Index.first := by
  constructor
  · rintro ⟨nodes, listed⟩ cycle
    -- A node on a cycle has a parent, so it is there.
    obtain ⟨parent, -, step⟩ := TransGen.tail'_iff.mp cycle
    have filled := Nat.lt_of_le_of_lt (Nat.zero_le _) step.lt_size
    exact not_transGen_of_acc (listed.acc _ (mem_root?_iff.mpr ⟨rfl, filled⟩)) cycle
  · intro free
    refine exists_depthFirst_of_acc fun top mem => ?_
    rw [(mem_root?_iff.mp mem).1]
    exact acc_of_not_ancestor free

/-- The nodes that are listed from the first one. -/
theorem DepthFirst.mem_root?_iff (h : tree.DepthFirst tree.root?.toList nodes) :
    i ∈ nodes ↔ i < tree.size ∧ (i = Index.first ∨ tree.Ancestor Index.first i) := by
  rw [h.mem_iff]
  constructor
  · rintro ⟨top, mem, chain⟩
    obtain ⟨rfl, filled⟩ := DerivationTree.mem_root?_iff.mp mem
    rcases reflTransGen_iff_eq_or_transGen.mp chain with rfl | above
    · exact ⟨filled, .inl rfl⟩
    · obtain ⟨parent, -, step⟩ := TransGen.tail'_iff.mp above
      exact ⟨step.lt_size, .inr above⟩
  · rintro ⟨inside, chain⟩
    have filled := Nat.lt_of_le_of_lt (Nat.zero_le _) inside
    exact ⟨Index.first, DerivationTree.mem_root?_iff.mpr ⟨rfl, filled⟩,
      reflTransGen_iff_eq_or_transGen.mpr chain⟩

theorem DepthFirst.nodup_root? (h : tree.DepthFirst tree.root?.toList nodes) : nodes.Nodup := by
  refine h.nodup ?_
  cases tree.root? with
  | none => exact .nil
  | some root => exact List.pairwise_singleton _ _

/-- Nodes that are there have symbols. -/
theorem exists_map_symbol?_eq (inside : ∀ i ∈ nodes, i < tree.size) :
    nodes.map tree.symbol? = (nodes.filterMap tree.symbol?).map some := by
  induction nodes with
  | nil => rfl
  | cons i nodes ih =>
    obtain ⟨first, others⟩ := List.forall_mem_cons.mp inside
    have found : tree.symbol? i = some tree.nodes[i].symbol := by
      rw [symbol?, get?, Array.getElem?_eq_getElem first]
      rfl
    rw [List.map_cons, List.filterMap_cons_some found, List.map_cons, ih others, found]

/-! ### The leaves of a list of nodes -/

/-- **Leaves are read** if no parent is missing and the first node is on no cycle. -/
theorem leaves_of_depthFirst (parents : tree.hasParents)
    (h : tree.DepthFirst tree.root?.toList nodes) :
    tree.leaves = .ok ((nodes.filter (tree.children · = [])).filterMap tree.symbol?) := by
  have read := h.reads .done
  rw [List.append_nil, List.append_nil, Nat.add_zero] at read
  -- No node is visited twice, so that there are no more visits than nodes.
  have within : nodes ⊆ List.range tree.size := fun i mem =>
    List.mem_range.mpr (h.mem_root?_iff.mp mem).1
  have enough := (h.nodup_root?.subperm within).length_le
  rw [List.length_range] at enough
  exact leaves_of_reads_root parents read enough

/-- **Reading the leaves never ends** if the first node is on a cycle, however many nodes are
visited. -/
theorem leaves_of_cycle (parents : tree.hasParents)
    (h : tree.Ancestor Index.first Index.first) : tree.leaves = .error .endless := by
  rw [DerivationTree.leaves, if_pos parents]
  dsimp only
  split
  · rename_i symbols read
    have listed := exists_depthFirst_of_leavesWithin (fun _ => childTable_getD)
      lt_size_of_mem_root? read
    exact absurd h (exists_depthFirst_root?_iff.mp listed)
  · rfl

/-- **The leaves cannot be read where a parent is missing.** -/
theorem leaves_eq_missingParent_iff :
    tree.leaves = .error .missingParent ↔
      ∃ parent i, tree.Parent parent i ∧ tree.size ≤ parent := by
  by_cases parents : tree.hasParents
  · have going : tree.leaves ≠ .error .missingParent := by
      rw [DerivationTree.leaves, if_pos parents]
      dsimp only
      split <;> rintro ⟨⟩
    refine iff_of_false going ?_
    rintro ⟨parent, i, step, missing⟩
    exact absurd (hasParents_iff.mp parents step) (Nat.not_lt.mpr missing)
  · refine iff_of_true (by rw [DerivationTree.leaves, if_neg parents]) ?_
    rw [hasParents_iff] at parents
    simpa only [Parent, not_forall, Nat.not_lt, exists_prop] using parents

/-- However many nodes reading may visit, it ends only if the first one is on no cycle. -/
theorem exists_leavesWithin_iff :
    (∃ limit, tree.leavesWithin tree.children limit tree.root?.toList ≠ none) ↔
      ¬ tree.Ancestor Index.first Index.first := by
  rw [← exists_depthFirst_root?_iff]
  constructor
  · rintro ⟨limit, ended⟩
    obtain ⟨symbols, read⟩ := Option.ne_none_iff_exists'.mp ended
    exact exists_depthFirst_of_leavesWithin (fun _ _ => rfl) lt_size_of_mem_root? read
  · rintro ⟨nodes, listed⟩
    have read := leavesWithin_of_reads (fun _ _ => rfl) (listed.reads .done)
      (by simpa using lt_size_of_mem_root?) (Nat.le_refl _)
    rw [List.append_nil] at read
    exact ⟨_, read ▸ Option.some_ne_none _⟩

/-- **What reading the leaves gives.**  Of a list of nodes that is put together from one node by
adding children of any node, there or not, and by dropping nodes from the end, the leaves cannot be
read if some parent is missing.  Otherwise reading ends, after some number of visits, unless the
first node is its own ancestor.  Then the nodes at and below the first have one depth-first order,
none comes twice in it, and those without children are the leaves, in this order.  The first node is
not its own ancestor as long as it was never dropped, nor if there are no nodes. -/
theorem leaves_exact (root : Symbol) (edits : List Edit) :
    let tree := (ofRoot root).edited edits
    (tree.leaves = .error .missingParent ↔ ∃ parent i, tree.Parent parent i ∧ tree.size ≤ parent) ∧
    ((∀ parent i, tree.Parent parent i → parent < tree.size) →
      (tree.leaves = .error .endless ↔ tree.Ancestor Index.first Index.first) ∧
      ((∃ limit, tree.leavesWithin tree.children limit tree.root?.toList ≠ none) ↔
        ¬ tree.Ancestor Index.first Index.first) ∧
      (¬ tree.Ancestor Index.first Index.first →
        ∃ nodes symbols, (∀ others, tree.DepthFirst tree.root?.toList others ↔ others = nodes) ∧
          nodes.Nodup ∧
          (∀ i, i ∈ nodes ↔
            i < tree.size ∧ (i = Index.first ∨ tree.Ancestor Index.first i)) ∧
          tree.leaves = .ok symbols ∧
          (nodes.filter (tree.children · = [])).map tree.symbol? = symbols.map some)) ∧
    (.truncate Index.first ∉ edits ∨ tree.isEmpty → ¬ tree.Ancestor Index.first Index.first) := by
  intro tree
  refine ⟨leaves_eq_missingParent_iff, fun named => ?_, ?_⟩
  · have parents : tree.hasParents := hasParents_iff.mpr fun {parent i} => named parent i
    have listing (free : ¬ tree.Ancestor Index.first Index.first) :=
      exists_depthFirst_root?_iff.mpr free
    refine ⟨⟨fun endless => ?_, leaves_of_cycle parents⟩, exists_leavesWithin_iff, fun free => ?_⟩
    · by_contra free
      obtain ⟨nodes, listed⟩ := listing free
      rw [leaves_of_depthFirst parents listed] at endless
      cases endless
    · obtain ⟨nodes, listed⟩ := listing free
      refine ⟨nodes, _, fun others => ⟨listed.unique, ?_⟩, listed.nodup_root?,
        fun i => listed.mem_root?_iff, leaves_of_depthFirst parents listed, ?_⟩
      · rintro rfl
        exact listed
      · exact exists_map_symbol?_eq fun i mem =>
          (listed.mem_root?_iff.mp (List.mem_filter.mp mem).1).1
  · rintro (kept | empty)
    · exact not_ancestor_first kept Nat.one_pos rfl
    · refine not_ancestor_of_parent?_eq_none ?_
      have missing : tree.get? Index.first = none :=
        get?_eq_none_iff.mpr (Nat.le_of_eq (Array.isEmpty_iff_size_eq_zero.mp empty))
      rw [parent?, missing]
      rfl

/-- Children are added to a node that only comes later, and to one that is its own parent.  Both
are out of reach of the first node. -/
theorem leaves_exact_detached :
    let edits := [Edit.append 0 ["A", "c"], .append 1 ["b"], .append 5 ["x", "y"], .append 2 ["d"],
      .truncate 6]
    let tree := (ofRoot "S").edited edits
    tree.leaves = .ok ["b", "c"] ∧ tree.Ancestor 5 5 ∧ ¬ tree.Ancestor 0 0 ∧
      ∃ nodes, tree.DepthFirst [0] nodes ∧ nodes.Nodup := by
  intro edits tree
  obtain ⟨-, reads, free⟩ := leaves_exact "S" edits
  have free : ¬ tree.Ancestor 0 0 := free (.inl (by decide))
  have named : ∀ parent i, tree.Parent parent i → parent < tree.size := fun _ _ step =>
    hasParents_iff.mp (by decide +kernel) step
  obtain ⟨-, -, listed⟩ := reads named
  obtain ⟨nodes, symbols, unique, nodup, -, read, -⟩ := listed free
  have found : tree.leaves = .ok ["b", "c"] := by decide +kernel
  exact ⟨found, .single rfl, free, nodes, (unique nodes).mpr rfl, nodup⟩

/-- A node that is added below itself takes the place of the first one. -/
example : ((ofRoot "S").edited [.truncate 0, .append 0 ["a"]]).leaves = .error .endless := by
  decide +kernel

end Descent.DerivationTree
