import Descent.Proofs.Acyclic
import Descent.Proofs.Tree.Growth

/-!
# Ancestors

A list of nodes that was put together by hand need not be a tree: parents may be missing, come
after their children, or be their own descendants.  What is left of a tree is that no node has two
parents.  So the ancestors of a node are a chain, and a chain that comes back to one of them comes
back to all of those above it.

How many nodes there are plays no part.  `DerivationTree.edited` adds children without asking for
room, so the lists that it leads to are those of all calls for which there is room
(`append?_eq_ite`), and longer ones.
-/

namespace Descent.DerivationTree

open Relation

variable {tree : DerivationTree} {parent other top i j : Index} {symbols : List Symbol}

/-! ### Who stands above a node -/

/-- `tree.Parent parent i` says that node `i` is there and names `parent` as its parent, which may
be missing. -/
def Parent (tree : DerivationTree) (parent i : Index) : Prop := tree.parent? i = some parent

/-- `tree.Ancestor top i` says that `top` is the parent of node `i`, or the parent of its parent,
and so on. -/
def Ancestor (tree : DerivationTree) : Index → Index → Prop := TransGen tree.Parent

theorem parent_iff_mem_children : tree.Parent parent i ↔ i ∈ tree.children parent :=
  mem_children_iff.symm

theorem Parent.lt_size (h : tree.Parent parent i) : i < tree.size :=
  lt_size_of_mem_children (mem_children_iff.mpr h)

/-- No node has two parents. -/
theorem Parent.unique (h : tree.Parent parent i) (h' : tree.Parent other i) : other = parent :=
  Option.some.inj (h'.symm.trans h)

/-- The nodes above a node are a chain. -/
theorem total_of_descendant (h : ReflTransGen tree.Parent i j)
    (h' : ReflTransGen tree.Parent top j) :
    ReflTransGen tree.Parent i top ∨ ReflTransGen tree.Parent top i := by
  induction h with
  | refl => exact .inr h'
  | @tail j k above step ih =>
    rcases ReflTransGen.cases_tail h' with rfl | ⟨other, above', step'⟩
    · exact .inl (above.tail step)
    · obtain rfl := step.unique step'
      exact ih above'

/-- **A node above a cycle is on it**: from below, there is only one way up. -/
theorem Ancestor.of_descendant (h : ReflTransGen tree.Parent top i) (cycle : tree.Ancestor i i) :
    tree.Ancestor top top := by
  induction h using ReflTransGen.head_induction_on with
  | refl => exact cycle
  | @head parent i step _ ih =>
    obtain ⟨other, around, last⟩ := TransGen.tail'_iff.mp ih
    obtain rfl := step.unique last
    exact TransGen.head' step around

/-- The nodes at or below a node are finitely many. -/
theorem finite_descendants (tree : DerivationTree) (top : Index) :
    {i | ReflTransGen tree.Parent top i}.Finite := by
  refine ((Set.finite_lt_nat tree.size).insert top).subset fun i h => ?_
  rcases ReflTransGen.cases_tail h with rfl | ⟨parent, -, step⟩
  · exact Set.mem_insert i _
  · exact Set.mem_insert_of_mem top step.lt_size

/-- **Below a node that is not on a cycle every path ends.** -/
theorem acc_of_not_ancestor (h : ¬ tree.Ancestor top top) :
    Acc (fun i parent => tree.Parent parent i) top :=
  acc_of_acyclic (tree.finite_descendants top) (fun below step => .inl (below.tail step))
    (fun below cycle => h (Ancestor.of_descendant below cycle)) .refl

/-! ### Trees that are put together by hand -/

/-- A change to a tree. -/
inductive Edit where
  /-- Children are added to a node, which may be missing. -/
  | append (parent : Index) (symbols : List Symbol)
  /-- A node is dropped together with all after it. -/
  | truncate (first : Index)
deriving DecidableEq, Repr

/-- The tree after a change. -/
def edit (tree : DerivationTree) : Edit → DerivationTree
  | .append parent symbols => tree.append parent symbols
  | .truncate first => tree.truncate first

/-- The tree after some changes, one after the other. -/
def edited (tree : DerivationTree) (edits : List Edit) : DerivationTree := edits.foldl edit tree

theorem not_ancestor_of_parent?_eq_none (h : tree.parent? i = none) : ¬ tree.Ancestor j i := by
  intro above
  obtain ⟨parent, -, step⟩ := TransGen.tail'_iff.mp above
  rw [Parent, h] at step
  cases step

/-- A change that does not drop the first node leaves it without a parent. -/
theorem parent?_first_edit {edit : Edit} (kept : edit ≠ .truncate Index.first)
    (present : 0 < tree.size) (h : tree.parent? Index.first = none) :
    0 < (tree.edit edit).size ∧ (tree.edit edit).parent? Index.first = none := by
  cases edit with
  | append parent symbols =>
    refine ⟨?_, (parent?_append_of_lt present).trans h⟩
    rw [DerivationTree.edit, size_append]
    exact Nat.add_pos_left present _
  | truncate first =>
    have positive : Index.first < first :=
      Nat.pos_of_ne_zero fun zero => kept (congrArg Edit.truncate zero)
    refine ⟨?_, ?_⟩
    · rw [DerivationTree.edit, size_truncate]
      exact Nat.lt_min.mpr ⟨positive, present⟩
    · rw [DerivationTree.edit, parent?, get?_truncate, if_pos positive]
      exact h

/-- **The first node is on no cycle as long as it is kept.** -/
theorem not_ancestor_first {edits : List Edit} (kept : .truncate Index.first ∉ edits)
    (present : 0 < tree.size) (h : tree.parent? Index.first = none) :
    ¬ (tree.edited edits).Ancestor Index.first Index.first := by
  induction edits generalizing tree with
  | nil => exact not_ancestor_of_parent?_eq_none h
  | cons edit edits ih =>
    obtain ⟨first, others⟩ := List.ne_and_not_mem_of_not_mem_cons kept
    obtain ⟨present, h⟩ := parent?_first_edit first.symm present h
    exact ih others present h

end Descent.DerivationTree
