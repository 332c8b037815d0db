import Mathlib
import Descent.Proofs.Lexeme.Positions

/-!
# Chains of names

A symbol table has one list of names, and a bucket is what a filter leaves of it.  A hash table
with separate chaining filters nothing: each bucket is a list of its own, a name is looked for in
the one chain that its characters lead to, and a new name is pushed onto the end of that chain.
`Chains` is that table, and `SymbolTable.chains` leads from the one form to the other.  Whatever is
done to both, they keep step and answer alike.

Two things make the view faithful.  A name that is put in moves no other chain, because the filter
for another bucket number passes over it.  And a walk over all the chains comes to what is listed
for a table, which goes only through the bucket numbers that occur: a chain that no name leads to
is empty and shows nothing.
-/

namespace Descent

/-- A chain of names for each bucket. -/
@[ext] structure Chains where
  /-- The chains, in the order of the bucket numbers. -/
  buckets : List (List String)
  /-- There is a bucket. -/
  buckets_pos : 0 < buckets.length
deriving DecidableEq, Repr

namespace Chains

/-- Some number of chains without names.  There is one chain at least. -/
def ofCapacity (capacity : Nat) : Chains where
  buckets := .replicate (max capacity 1) []
  buckets_pos := by
    rw [List.length_replicate]
    exact Nat.lt_of_lt_of_le Nat.one_pos (Nat.le_max_right capacity 1)

/-- The number of buckets. -/
def capacity (chains : Chains) : Nat := chains.buckets.length

/-- The number of names in all chains. -/
def size (chains : Chains) : Nat := (chains.buckets.map List.length).sum

/-- Whether every chain is empty. -/
def isEmpty (chains : Chains) : Bool := chains.buckets.all List.isEmpty

/-- The bucket of a name: the sum of its code points, modulo the number of buckets. -/
def hash (chains : Chains) (name : String) : Fin chains.buckets.length :=
  ⟨(SymbolTable.codeSum name).toNat % chains.capacity, Nat.mod_lt _ chains.buckets_pos⟩

/-- The position of a name in a bucket. -/
def find (chains : Chains) (number : Fin chains.buckets.length) (name : String) :
    Option Position :=
  ((chains.buckets.get number).idxOf? name).map (⟨number, ·⟩)

/-- The position of a name that is in a chain. -/
def position? (chains : Chains) (name : String) : Option Position :=
  chains.find (chains.hash name) name

/-- The name at a position. -/
def name? (chains : Chains) (position : Position) : Option String := do
  let chain ← chains.buckets[position.bucket]?
  chain[position.index]?

/-- The chains with another one in the place of one of them. -/
def replace (chains : Chains) (number : Fin chains.buckets.length) (chain : List String) :
    Chains where
  buckets := chains.buckets.set number chain
  buckets_pos := by
    rw [List.length_set]
    exact chains.buckets_pos

/-- The chains with a name, and the name's position.  A name that is found stays where it is,
another is put at the end of its chain. -/
def insert (chains : Chains) (name : String) : Chains × Position :=
  let number := chains.hash name
  match chains.find number name with
  | some position => (chains, position)
  | none =>
    let chain := chains.buckets.get number ++ [name]
    (chains.replace number chain, ⟨number, chain.length - 1⟩)

/-- All names with their positions, chain by chain. -/
def entries (chains : Chains) : List (Position × String) :=
  chains.buckets.zipIdx.flatMap fun (chain, number) =>
    chain.zipIdx.map fun (name, index) => (⟨number, index⟩, name)

/-- A line for each chain that is not empty. -/
def render (chains : Chains) : String :=
  String.join <| (chains.buckets.zipIdx.filter (!·.1.isEmpty)).map fun (chain, number) =>
    let names := chain.zipIdx.map fun (name, index) =>
      s!" {name} ({(Position.mk number index).render})"
    s!"bucket {number}:{String.join names}\n"

/-- The chains with some names, put in one after the other. -/
def insertAll (chains : Chains) (names : List String) : Chains :=
  names.foldl (fun chains name => (chains.insert name).1) chains

end Chains

namespace SymbolTable

variable {table : SymbolTable} {name : String} {number : Nat}

/-! ### The view of a table -/

/-- The chains of a symbol table: its buckets, in the order of their numbers. -/
def chains (table : SymbolTable) : Chains where
  buckets := (List.range table.capacity).map table.bucket
  buckets_pos := by rw [List.length_map, List.length_range]; exact table.capacity_pos

@[simp] theorem length_buckets_chains (table : SymbolTable) :
    table.chains.buckets.length = table.capacity := by
  rw [chains, List.length_map, List.length_range]

theorem bucketOf_lt (table : SymbolTable) (name : String) : table.bucketOf name < table.capacity :=
  Nat.mod_lt _ table.capacity_pos

/-- No name leads to a bucket beyond the last. -/
theorem bucket_eq_nil (beyond : table.capacity ≤ number) : table.bucket number = [] := by
  refine List.filter_eq_nil_iff.mpr fun name _ same => ?_
  have inside := table.bucketOf_lt name
  have same : table.bucketOf name = number := of_decide_eq_true same
  omega

theorem getElem_chains (inside : number < table.chains.buckets.length) :
    table.chains.buckets[number] = table.bucket number := by
  simp only [chains, List.getElem_map, List.getElem_range]

theorem hash_chains (table : SymbolTable) (name : String) :
    (table.chains.hash name : Nat) = table.bucketOf name := by
  show (codeSum name).toNat % table.chains.buckets.length = (codeSum name).toNat % table.capacity
  rw [length_buckets_chains]

@[simp] theorem capacity_chains (table : SymbolTable) : table.chains.capacity = table.capacity :=
  table.length_buckets_chains

/-- An empty table has empty chains. -/
theorem chains_ofCapacity (capacity : Nat) :
    (ofCapacity capacity).chains = Chains.ofCapacity capacity :=
  Chains.ext <| List.eq_replicate_iff.mpr
    ⟨length_buckets_chains _, fun chain mem => by
      obtain ⟨number, -, rfl⟩ := List.mem_map.mp mem
      rfl⟩

/-! ### Finding and inserting -/

theorem find_chains (table : SymbolTable) (name : String) :
    table.chains.find (table.chains.hash name) name = table.position? name := by
  simp only [Chains.find, List.get_eq_getElem, hash_chains, getElem_chains, position?]

/-- **A name is found at the same position** in the table and in its chains. -/
theorem position?_chains (table : SymbolTable) (name : String) :
    table.chains.position? name = table.position? name :=
  table.find_chains name

/-- **At each position stands the same name.** -/
theorem name?_chains (table : SymbolTable) (position : Position) :
    table.chains.name? position = table.name? position := by
  by_cases inside : position.bucket < table.capacity
  · have chain : table.chains.buckets[position.bucket]? = some (table.bucket position.bucket) :=
      List.getElem?_eq_some_iff.mpr ⟨by rwa [length_buckets_chains], getElem_chains _⟩
    rw [Chains.name?, chain, name?]
    rfl
  · have none : table.chains.buckets[position.bucket]? = none :=
      List.getElem?_eq_none_iff.mpr (by rw [length_buckets_chains]; omega)
    rw [Chains.name?, none, name?, bucket_eq_nil (by omega)]
    rfl

/-- A new name goes to the end of the bucket that it leads to, and to no other. -/
theorem bucket_concat (table : SymbolTable) (name : String) (number : Nat) :
    bucket { table with names := table.names ++ [name] } number =
      if table.bucketOf name = number then table.bucket number ++ [name]
      else table.bucket number := by
  show (table.names ++ [name]).filter (table.bucketOf · = number) = _
  rw [List.filter_append, List.filter_singleton]
  split
  · rename_i same
    rw [decide_eq_true same]
    rfl
  · rename_i other
    rw [decide_eq_false other]
    exact List.append_nil _

/-- **A name is put into the chains as it is put into the table**, and gets the same position. -/
theorem insert_chains (table : SymbolTable) (name : String) :
    table.chains.insert name = ((table.insert name).1.chains, (table.insert name).2) := by
  rw [Chains.insert, find_chains, insert]
  cases found : table.position? name with
  | some position => rfl
  | none =>
    refine Prod.ext (Chains.ext (List.ext_getElem ?_ fun number before after => ?_)) ?_
    · simp only [Chains.replace, List.length_set, length_buckets_chains]
    · simp only [Chains.replace, List.getElem_set, List.get_eq_getElem, hash_chains,
        getElem_chains]
      rw [bucket_concat]
      split
      · rename_i same
        rw [same]
      · rfl
    · simp only [List.get_eq_getElem, hash_chains, getElem_chains, List.length_append,
        List.length_singleton, Nat.add_sub_cancel]

/-- **The chains keep step with the table** from the empty table on, whatever is put in. -/
theorem insertAll_chains (capacity : Nat) (names : List String) :
    (Chains.ofCapacity capacity).insertAll names =
      ((ofCapacity capacity).insertAll names).chains := by
  rw [← chains_ofCapacity]
  generalize ofCapacity capacity = table
  induction names generalizing table with
  | nil => rfl
  | cons name names ih =>
    rw [insertAll_cons, ← ih]
    exact congrArg (Chains.insertAll · names) (congrArg Prod.fst (insert_chains table name))

/-! ### Walking over the chains -/

/-- The numbers that a walk over the chains does not pass by: those of the names. -/
theorem occupied_eq_filter (table : SymbolTable) :
    table.occupied =
      (List.range table.capacity).filter fun number => !(table.bucket number).isEmpty := by
  refine table.pairwise_occupied.eq_of_mem_iff (List.pairwise_lt_range.filter _) fun number => ?_
  rw [mem_occupied_iff, List.mem_filter, List.mem_range]
  constructor
  · rintro ⟨name, mem, rfl⟩
    refine ⟨table.bucketOf_lt name, ?_⟩
    have held : name ∈ table.bucket (table.bucketOf name) := mem_bucket_iff.mpr ⟨mem, rfl⟩
    simpa using List.ne_nil_of_mem held
  · rintro ⟨-, held⟩
    obtain ⟨name, mem⟩ := List.exists_mem_of_ne_nil (table.bucket number) (by simpa using held)
    exact ⟨name, mem_bucket_iff.mp mem⟩

theorem zipIdx_chains (table : SymbolTable) :
    table.chains.buckets.zipIdx =
      (List.range table.capacity).map fun number => (table.bucket number, number) := by
  refine List.ext_getElem (by simp) fun number before after => ?_
  simp [getElem_chains]

/-- **The names are listed alike.** -/
theorem entries_chains (table : SymbolTable) : table.chains.entries = table.entries := by
  rw [Chains.entries, zipIdx_chains, List.flatMap_map, entries, occupied_eq_filter]
  show (List.range table.capacity).flatMap table.bucketEntries = _
  induction List.range table.capacity with
  | nil => rfl
  | cons number numbers ih =>
    rw [List.flatMap_cons, ih, List.filter_cons]
    split
    · rw [List.flatMap_cons]
    · rename_i empty
      have empty : table.bucket number = [] := by simpa using empty
      rw [bucketEntries, empty]
      rfl

/-- **The chains are shown alike.** -/
theorem render_chains (table : SymbolTable) : table.chains.render = table.render := by
  rw [Chains.render, zipIdx_chains, List.filter_map, List.map_map, render, occupied_eq_filter]
  refine congrArg String.join (List.map_congr_left fun number _ => ?_)
  simp only [Function.comp, bucketEntries, List.map_map]
  rfl

/-- **As many names are counted**, since each is in one chain. -/
theorem size_chains (table : SymbolTable) : table.chains.size = table.size := by
  rw [Chains.size, chains, List.map_map, size]
  show ∑ number ∈ Finset.range table.capacity,
    (table.names.filter (table.bucketOf · = number)).length = _
  induction table.names with
  | nil => exact Finset.sum_const_zero
  | cons name names ih =>
    calc ∑ number ∈ Finset.range table.capacity,
          ((name :: names).filter (table.bucketOf · = number)).length
      _ = ∑ number ∈ Finset.range table.capacity, ((if table.bucketOf name = number then 1 else 0) +
            (names.filter (table.bucketOf · = number)).length) :=
          Finset.sum_congr rfl fun number _ => by
            rw [List.filter_cons]
            simp only [decide_eq_true_eq]
            split
            · rw [List.length_cons, Nat.add_comm]
            · rw [Nat.zero_add]
      _ = 1 + names.length := by
          rw [Finset.sum_add_distrib, ih, Finset.sum_ite_eq,
            if_pos (Finset.mem_range.mpr (table.bucketOf_lt name))]
      _ = (name :: names).length := Nat.add_comm 1 _

/-- **They are empty alike.** -/
theorem isEmpty_chains (table : SymbolTable) : table.chains.isEmpty = table.isEmpty := by
  rw [Bool.eq_iff_iff, Chains.isEmpty, chains, List.all_map, List.all_eq_true, isEmpty,
    List.isEmpty_iff]
  constructor
  · intro all
    refine List.eq_nil_iff_forall_not_mem.mpr fun name mem => ?_
    have none : table.bucket (table.bucketOf name) = [] :=
      List.isEmpty_iff.mp (all _ (List.mem_range.mpr (table.bucketOf_lt name)))
    exact List.not_mem_nil (none ▸ mem_bucket_iff.mpr ⟨mem, rfl⟩)
  · intro empty number _
    show (table.names.filter _).isEmpty
    rw [empty]
    rfl

end SymbolTable

end Descent
