import Descent.Grammar.Basic
import Descent.Index
import Descent.Text.Padded

/-!
# Derivation trees

A derivation tree is a list of nodes in the order in which they were added.  Each node knows its
parent and the sibling to its left.  A node's place in the list is its name, so the list only
grows at its end and is only cut from its end, and names below the cut stay valid.

## Room

Names take up 32 bits, so a tree has no room for more nodes than these can tell apart.  `append?`
adds nodes one by one and stops where the next one has no name; `append` says what is added where
there is room, and `append?_eq_ite` that this is all there is to it.

## Leaves

Nothing checks that the parent of a node is there or comes before it, so a list built by hand need
not be a tree.  Reading the leaves then has no result, either because a parent is missing, or
because the first node lies below itself and the reading never ends.
-/

namespace Descent

/-- A node of a derivation tree. -/
structure Node where
  /-- What is derived. -/
  symbol : Symbol
  /-- The node that it was derived from. -/
  parent : Option Index
  /-- The sibling to its left. -/
  previousSibling : Option Index
deriving DecidableEq, Repr

/-- A list of nodes in the order in which they were added. -/
structure DerivationTree where
  /-- The nodes. -/
  nodes : Array Node
deriving DecidableEq, Repr

namespace DerivationTree

/-- The tree of one node. -/
def ofRoot (symbol : Symbol) : DerivationTree := ⟨#[⟨symbol, none, none⟩]⟩

/-- The number of nodes. -/
def size (tree : DerivationTree) : Nat := tree.nodes.size

/-- Whether there are no nodes. -/
def isEmpty (tree : DerivationTree) : Bool := tree.nodes.isEmpty

/-- The first node, if there is one. -/
def root? (tree : DerivationTree) : Option Index :=
  if tree.isEmpty then none else some Index.first

/-- The index of the node that is added next. -/
def nextIndex (tree : DerivationTree) : Index := tree.size

/-- The node with an index. -/
def get? (tree : DerivationTree) (i : Index) : Option Node := tree.nodes[i]?

/-- The parent of the node with an index. -/
def parent? (tree : DerivationTree) (i : Index) : Option Index :=
  (tree.get? i).bind (·.parent)

/-- Adds a node at the end. -/
def push (tree : DerivationTree) (node : Node) : DerivationTree := ⟨tree.nodes.push node⟩

/-- Adds children of `parent` at the end, where `previous` is the sibling to the left of the
first. -/
def appendAfter (tree : DerivationTree) (parent : Index) (previous : Option Index) :
    List Symbol → DerivationTree
  | [] => tree
  | symbol :: symbols =>
    let index := tree.nextIndex
    (tree.push ⟨symbol, some parent, previous⟩).appendAfter parent (some index) symbols

/-- Adds a child of `parent` for each symbol at the end. -/
def append (tree : DerivationTree) (parent : Index) (symbols : List Symbol) : DerivationTree :=
  tree.appendAfter parent none symbols

/-- Adds children as `appendAfter` does, as long as there is room for them.  The check comes before
each node, and leaves the last place but one empty: the tree stays smaller than `Index.last`. -/
def appendAfter? (tree : DerivationTree) (parent : Index) (previous : Option Index) :
    List Symbol → Option DerivationTree
  | [] => some tree
  | symbol :: symbols =>
    if tree.size + 1 < Index.last then
      let index := tree.nextIndex
      (tree.push ⟨symbol, some parent, previous⟩).appendAfter? parent (some index) symbols
    else none

/-- Adds a child of `parent` for each symbol at the end, if there is room for all of them. -/
def append? (tree : DerivationTree) (parent : Index) (symbols : List Symbol) :
    Option DerivationTree :=
  tree.appendAfter? parent none symbols

/-- The indices of nodes that are added for some number of symbols. -/
def indicesFrom (first : Index) (count : Nat) : List Index := List.range' first count

/-- Drops the node with an index and all after it. -/
def truncate (tree : DerivationTree) (first : Index) : DerivationTree :=
  ⟨tree.nodes.shrink first⟩

/-- The children of a node in the order in which they were added, which is from left to right
for those that were added together. -/
def children (tree : DerivationTree) (parent : Index) : List Index :=
  (List.range tree.size).filter fun i => tree.parent? i == some parent

/-! ### Leaves -/

/-- Why the leaves cannot be read. -/
inductive LeafFault where
  /-- The parent of some node is not in the tree. -/
  | missingParent
  /-- The first node lies below itself, so that reading never ends. -/
  | endless
deriving DecidableEq, Repr

/-- Whether the parent of every node is in the tree. -/
def hasParents (tree : DerivationTree) : Bool :=
  tree.nodes.all fun node => node.parent.all (· < tree.size)

/-- The children of each node, by its index, found in one pass over the nodes. -/
def childTable (tree : DerivationTree) : Array (List Index) :=
  (List.range tree.size).foldr
    (fun i table =>
      match tree.parent? i with
      | none => table
      | some parent => table.modify parent (i :: ·))
    (Array.replicate tree.size [])

/-- The symbols of the leaves at or below the nodes of `work`, if at most `limit` nodes have to
be visited for them.  `below` leads from a node to its children. -/
def leavesWithin (tree : DerivationTree) (below : Index → List Index) (limit : Nat) :
    List Index → Option (List Symbol)
  | [] => some []
  | i :: work =>
    match limit with
    | 0 => none
    | limit + 1 =>
      match below i with
      | [] => (tree.leavesWithin below limit work).map ((tree.get? i).toList.map (·.symbol) ++ ·)
      | children => tree.leavesWithin below limit (children ++ work)
termination_by structural limit

/-- The symbols of the leaves below the first node, from left to right.  No node is visited
twice unless the reading is endless. -/
def leaves (tree : DerivationTree) : Except LeafFault (List Symbol) :=
  if tree.hasParents then
    let table := tree.childTable
    match tree.leavesWithin (fun i => table[i]?.getD []) tree.size tree.root?.toList with
    | some symbols => .ok symbols
    | none => .error .endless
  else .error .missingParent

/-- Nodes filed under their parents, seen at one parent. -/
private theorem filed_getElem? (tree : DerivationTree) (count : Nat) {i : Index} (h : i < count)
    (nodes : List Index) :
    (nodes.foldr
      (fun i table =>
        match tree.parent? i with
        | none => table
        | some parent => table.modify parent (i :: ·))
      (Array.replicate count []))[i]? =
      some (nodes.filter fun j => tree.parent? j == some i) := by
  induction nodes with
  | nil => simp [h]
  | cons node nodes ih =>
    rw [List.foldr_cons, List.filter_cons]
    cases hp : tree.parent? node with
    | none => simpa using ih
    | some parent =>
      by_cases hi : parent = i
      · simp [Array.getElem?_modify, ih, hi]
      · simp [Array.getElem?_modify, ih, hi]

/-- The table holds the children of each node. -/
theorem childTable_getElem? (tree : DerivationTree) {i : Index} (h : i < tree.size) :
    tree.childTable[i]? = some (tree.children i) :=
  filed_getElem? tree tree.size h (List.range tree.size)

/-! ### Table -/

/-- An index as text, or a dash where there is none. -/
def renderIndex : Option Index → String
  | none => "-"
  | some i => i.render

/-- One line of the table. -/
def renderLine (width : Nat) (node symbol parent sibling : String) : String :=
  Text.padLeft 5 node ++ "  " ++ Text.padRight width symbol ++ "  " ++
    Text.padLeft 6 parent ++ "  " ++ Text.padLeft 7 sibling ++ "\n"

/-- The width of the symbol column: the number of bytes of the longest symbol or of its
heading. -/
def symbolWidth (tree : DerivationTree) : Nat :=
  (tree.nodes.toList.map (·.symbol.utf8ByteSize)).foldl max "symbol".utf8ByteSize

/-- A table with a line for each node. -/
def render (tree : DerivationTree) : String :=
  let width := tree.symbolWidth
  let lines := tree.nodes.toList.zipIdx.map fun (node, i) =>
    renderLine width (Nat.repr i) node.symbol (renderIndex node.parent)
      (renderIndex node.previousSibling)
  String.join (renderLine width "node" "symbol" "parent" "sibling" :: lines)

/-! ### Sizes -/

@[simp] theorem size_push (tree : DerivationTree) (node : Node) :
    (tree.push node).size = tree.size + 1 := by
  simp [push, size]

@[simp] theorem size_appendAfter (tree : DerivationTree) (parent : Index)
    (previous : Option Index) (symbols : List Symbol) :
    (tree.appendAfter parent previous symbols).size = tree.size + symbols.length := by
  induction symbols generalizing tree previous with
  | nil => rfl
  | cons symbol symbols ih =>
    rw [appendAfter, ih, size_push, List.length_cons]
    omega

@[simp] theorem size_append (tree : DerivationTree) (parent : Index) (symbols : List Symbol) :
    (tree.append parent symbols).size = tree.size + symbols.length :=
  size_appendAfter tree parent none symbols

@[simp] theorem size_truncate (tree : DerivationTree) (first : Index) :
    (tree.truncate first).size = min first tree.size := by
  simp [truncate, size]

/-! ### Room -/

/-- The tree has room for some number of nodes more. -/
def HasRoom (tree : DerivationTree) (count : Nat) : Prop := tree.size + count < Index.last

instance (tree : DerivationTree) (count : Nat) : Decidable (tree.HasRoom count) :=
  inferInstanceAs (Decidable (tree.size + count < Index.last))

variable {tree : DerivationTree} {symbols : List Symbol}

theorem hasRoom_push_iff {node : Node} {count : Nat} :
    (tree.push node).HasRoom count ↔ tree.HasRoom (count + 1) := by
  rw [HasRoom, HasRoom, size_push, Nat.add_right_comm, Nat.add_assoc]

/-- Where there is room, the nodes are added that `appendAfter` adds. -/
theorem appendAfter?_of_hasRoom (room : tree.HasRoom symbols.length) (parent : Index)
    (previous : Option Index) :
    tree.appendAfter? parent previous symbols =
      some (tree.appendAfter parent previous symbols) := by
  induction symbols generalizing tree previous with
  | nil => rfl
  | cons symbol symbols ih =>
    have first : tree.size + 1 < Index.last :=
      Nat.lt_of_le_of_lt (Nat.add_le_add_left (Nat.succ_pos symbols.length) _) room
    rw [appendAfter?, if_pos first, appendAfter]
    exact ih (hasRoom_push_iff.mpr room) _

/-- Where there is no room for the last node, none is added. -/
theorem appendAfter?_of_not_hasRoom (filled : symbols ≠ []) (full : ¬ tree.HasRoom symbols.length)
    (parent : Index) (previous : Option Index) :
    tree.appendAfter? parent previous symbols = none := by
  induction symbols generalizing tree previous with
  | nil => exact absurd rfl filled
  | cons symbol symbols ih =>
    rw [appendAfter?]
    split
    · rename_i first
      have more : symbols ≠ [] := by
        rintro rfl
        exact full first
      exact ih more (mt hasRoom_push_iff.mp full) _
    · rfl

/-- **Children are added exactly if there is room for all of them.** -/
theorem append?_eq_ite (tree : DerivationTree) (filled : symbols ≠ []) (parent : Index) :
    tree.append? parent symbols =
      if tree.HasRoom symbols.length then some (tree.append parent symbols) else none := by
  split
  · rename_i room
    exact appendAfter?_of_hasRoom room parent none
  · rename_i full
    exact appendAfter?_of_not_hasRoom filled full parent none

end DerivationTree

end Descent
