import Mathlib.Data.Finset.Card
import Descent.Proofs.Distinct
import Descent.SymbolTable

/-!
# Positions of names

A symbol table is a code for the names that were put into it: each has one position, and at each
position stands one name at most.  Two things have to be told apart here.  That names and
positions lead to each other is due to no name being there twice.  That a position stays, whatever
is put in later and into whichever bucket, is due to buckets being filtered from one list that
only grows at its end: a longer list has a longer bucket, which starts like the old one.

Listing goes bucket by bucket, and within each in the order in which names came.  This is the
order `Position.Before`, and what is listed is sorted by it and holds each name once.
-/

namespace Descent

/-- Whether a position is listed before another: its bucket has a smaller number, or it comes first
in the same bucket. -/
def Position.Before (first second : Position) : Prop :=
  first.bucket < second.bucket ∨ first.bucket = second.bucket ∧ first.index < second.index

namespace SymbolTable

variable {table later : SymbolTable} {name : String} {names : List String} {position : Position}
  {number : Nat}

/-! ### Buckets -/

/-- The bucket of a name depends on the number of buckets alone. -/
theorem bucketOf_congr (same : later.capacity = table.capacity) (name : String) :
    later.bucketOf name = table.bucketOf name := by
  rw [bucketOf, bucketOf, same]

theorem mem_bucket_iff :
    name ∈ table.bucket number ↔ name ∈ table.names ∧ table.bucketOf name = number := by
  simp [bucket]

/-- Where names were put in at the end, they came at the end of each bucket. -/
theorem bucket_prefix (grown : table.names <+: later.names)
    (same : later.capacity = table.capacity) (number : Nat) :
    table.bucket number <+: later.bucket number := by
  have alike : later.bucket number = later.names.filter (table.bucketOf · = number) := by
    simp only [bucket, bucketOf_congr same]
  rw [alike]
  exact grown.filter _

/-! ### From names to positions -/

/-- The names that are in the table are those that have a position. -/
theorem isSome_position?_iff : (table.position? name).isSome ↔ name ∈ table.names := by
  rw [position?, Option.isSome_map, List.isSome_idxOf?, mem_bucket_iff, and_iff_left rfl]

theorem position?_eq_none_iff : table.position? name = none ↔ name ∉ table.names := by
  rw [← isSome_position?_iff, Option.not_isSome_iff_eq_none]

/-- **A position stays** when other names come later. -/
theorem position?_of_prefix (grown : table.names <+: later.names)
    (same : later.capacity = table.capacity) (h : table.position? name = some position) :
    later.position? name = some position := by
  obtain ⟨more, whole⟩ := bucket_prefix grown same (table.bucketOf name)
  obtain ⟨index, found, rfl⟩ := Option.map_eq_some_iff.mp h
  rw [List.idxOf?] at found
  rw [position?, bucketOf_congr same, ← whole, List.idxOf?, List.findIdx?_append, found]
  rfl

/-- A name that is found at a position stands there. -/
theorem name?_of_position? (h : table.position? name = some position) :
    table.name? position = some name := by
  obtain ⟨index, found, rfl⟩ := Option.map_eq_some_iff.mp h
  obtain ⟨inside, same, -⟩ := List.idxOf?_eq_some_iff.mp found
  exact List.getElem?_eq_some_iff.mpr ⟨inside, same⟩

/-- The name at a position is in the bucket of the position. -/
theorem bucketOf_of_name? (h : table.name? position = some name) :
    name ∈ table.names ∧ table.bucketOf name = position.bucket :=
  mem_bucket_iff.mp (List.mem_of_getElem? h)

/-- **Names and positions lead to each other** in a table in which no name is repeated. -/
theorem position?_eq_some_iff (distinct : table.names.Nodup) :
    table.position? name = some position ↔ table.name? position = some name := by
  refine ⟨name?_of_position?, fun h => ?_⟩
  obtain ⟨mem, same⟩ := bucketOf_of_name? h
  obtain ⟨other, found⟩ := Option.isSome_iff_exists.mp (isSome_position?_iff.mpr mem)
  have there := name?_of_position? found
  have bucket : other.bucket = position.bucket := (bucketOf_of_name? there).2.symm.trans same
  -- The name stands once in its bucket.
  obtain ⟨inside, here⟩ := List.getElem?_eq_some_iff.mp h
  obtain ⟨inside', there⟩ := List.getElem?_eq_some_iff.mp there
  obtain ⟨number, index⟩ := position
  obtain ⟨number', index'⟩ := other
  obtain rfl : number' = number := bucket
  have alone : (table.bucket number').Nodup := distinct.filter _
  obtain rfl : index' = index := alone.getElem_inj_iff.mp (there.trans here.symm)
  exact found

/-! ### Putting names in -/

/-- A new name comes after the others, and nothing else is put in. -/
theorem names_insert (table : SymbolTable) (name : String) :
    (table.insert name).1.names =
      if name ∈ table.names then table.names else table.names ++ [name] := by
  unfold insert
  cases found : table.position? name with
  | some position =>
    have mem : name ∈ table.names := isSome_position?_iff.mp (by rw [found]; rfl)
    rw [if_pos mem]
  | none => rw [if_neg (position?_eq_none_iff.mp found)]

/-- A name that came last is the last of its bucket. -/
theorem position?_of_concat (new : name ∉ table.names) (grown : later.names = table.names ++ [name])
    (same : later.capacity = table.capacity) :
    later.position? name =
      some ⟨table.bucketOf name, (table.bucket (table.bucketOf name)).length⟩ := by
  have longer : later.bucket (table.bucketOf name) =
      table.bucket (table.bucketOf name) ++ [name] := by
    simp [bucket, bucketOf_congr same, grown, List.filter_append]
  have absent : (table.bucket (table.bucketOf name)).findIdx? (· == name) = none := by
    rw [← List.idxOf?, List.idxOf?_eq_none_iff]
    exact fun mem => new (mem_bucket_iff.mp mem).1
  rw [position?, bucketOf_congr same, longer, List.idxOf?, List.findIdx?_append, absent]
  simp

/-- **A name stands where it was put**, or where it stood before. -/
theorem position?_insert (table : SymbolTable) (name : String) :
    (table.insert name).1.position? name = some (table.insert name).2 := by
  unfold insert
  cases found : table.position? name with
  | some position => exact found
  | none => exact position?_of_concat (position?_eq_none_iff.mp found) rfl rfl

/-- The table with some names, put in one after the other. -/
def insertAll (table : SymbolTable) (names : List String) : SymbolTable :=
  names.foldl (fun table name => (table.insert name).1) table

@[simp] theorem insertAll_nil (table : SymbolTable) : table.insertAll [] = table := rfl

@[simp] theorem insertAll_cons (table : SymbolTable) (name : String) (names : List String) :
    table.insertAll (name :: names) = (table.insert name).1.insertAll names := rfl

theorem insertAll_append (table : SymbolTable) (names more : List String) :
    table.insertAll (names ++ more) = (table.insertAll names).insertAll more :=
  List.foldl_append

@[simp] theorem capacity_insertAll (table : SymbolTable) (names : List String) :
    (table.insertAll names).capacity = table.capacity := by
  induction names generalizing table with
  | nil => rfl
  | cons name names ih => rw [insertAll_cons, ih, capacity_insert]

theorem names_prefix_insertAll (table : SymbolTable) (names : List String) :
    table.names <+: (table.insertAll names).names := by
  induction names generalizing table with
  | nil => exact List.prefix_rfl
  | cons name names ih => exact (names_prefix_insert table name).trans (ih _)

/-- Names that are put in do not change a position. -/
theorem position?_insertAll (h : table.position? name = some position) (names : List String) :
    (table.insertAll names).position? name = some position :=
  position?_of_prefix (names_prefix_insertAll table names) (capacity_insertAll table names) h

/-- Names that are put into an empty table are in it once, in the order in which they came. -/
theorem names_insertAll (capacity : Nat) (names : List String) :
    ((ofCapacity capacity).insertAll names).names = names.eraseDups := by
  induction names using List.reverseRecOn with
  | nil => rfl
  | append_singleton names name ih =>
    rw [insertAll_append, insertAll_cons, insertAll_nil, names_insert, ih, eraseDups_concat]
    simp only [List.mem_eraseDups]

/-! ### Listing names -/

theorem mem_occupied_iff :
    number ∈ table.occupied ↔ ∃ name ∈ table.names, table.bucketOf name = number := by
  rw [occupied, List.mem_mergeSort, List.mem_eraseDups, List.mem_map]

/-- The numbers of buckets are listed in increasing order, each once. -/
theorem pairwise_occupied (table : SymbolTable) : table.occupied.Pairwise (· < ·) := by
  have sorted : table.occupied.Pairwise (decide <| · ≤ ·) :=
    List.pairwise_mergeSort (by simpa using fun _ _ _ => Nat.le_trans)
      (by simpa using Nat.le_total) _
  have distinct : table.occupied.Nodup :=
    (List.mergeSort_perm _ _).nodup_iff.mpr (nodup_eraseDups _)
  exact (sorted.and distinct).imp fun ⟨le, ne⟩ => Nat.lt_of_le_of_ne (of_decide_eq_true le) ne

theorem mem_bucketEntries_iff :
    (position, name) ∈ table.bucketEntries number ↔
      position.bucket = number ∧ table.name? position = some name := by
  rw [bucketEntries, List.mem_map]
  constructor
  · rintro ⟨⟨name, index⟩, mem, same⟩
    cases same
    exact ⟨rfl, List.mem_zipIdx_iff_getElem?.mp mem⟩
  · rintro ⟨rfl, found⟩
    exact ⟨(name, position.index), List.mem_zipIdx_iff_getElem?.mpr found, rfl⟩

/-- **What is listed is each name with its position.** -/
theorem mem_entries_iff : (position, name) ∈ table.entries ↔ table.name? position = some name := by
  simp only [entries, List.mem_flatMap, mem_bucketEntries_iff]
  constructor
  · rintro ⟨number, -, -, found⟩
    exact found
  · intro found
    exact ⟨position.bucket, mem_occupied_iff.mpr ⟨name, bucketOf_of_name? found⟩, rfl, found⟩

/-- **Positions are listed in order**, bucket by bucket. -/
theorem pairwise_entries (table : SymbolTable) :
    table.entries.Pairwise fun first second => first.1.Before second.1 := by
  refine List.pairwise_flatMap.mpr ⟨fun number _ => ?_, ?_⟩
  · rw [bucketEntries, List.pairwise_map]
    have indices : (table.bucket number).zipIdx.Pairwise (·.2 < ·.2) := by
      rw [← List.pairwise_map, List.zipIdx_map_snd]
      exact List.pairwise_lt_range'
    exact indices.imp fun less => .inr ⟨rfl, less⟩
  · refine table.pairwise_occupied.imp fun {number number'} less first mem second mem' => .inl ?_
    rw [(mem_bucketEntries_iff.mp mem).1, (mem_bucketEntries_iff.mp mem').1]
    exact less

/-- No name is listed twice, since it would have two positions. -/
theorem nodup_map_entries (distinct : table.names.Nodup) : (table.entries.map (·.2)).Nodup := by
  refine List.pairwise_map.mpr (table.pairwise_entries.imp_of_mem ?_)
  rintro ⟨first, name⟩ ⟨second, other⟩ mem mem' before same
  obtain rfl : name = other := same
  rw [mem_entries_iff, ← position?_eq_some_iff distinct] at mem mem'
  obtain rfl := Option.some.inj (mem.symm.trans mem')
  unfold Position.Before at before
  omega

/-- **A symbol table is a stable code that tells names apart.**  The number of buckets stays, and
the names that have a position are those that were put in.  A name keeps the position that it got,
whatever is put in before and after it, and putting it in again gives that position once more.
Names and positions lead to each other, and each name is listed once with its position. -/
theorem positions_exact (capacity : Nat) (names : List String) :
    ((ofCapacity capacity).insertAll names).capacity = max capacity 1 ∧
    let table := (ofCapacity capacity).insertAll names
    (∀ name, (table.position? name).isSome ↔ name ∈ names) ∧
    (∀ name later,
      let position := (table.insert name).2
      let last := table.insertAll (name :: later)
      last.position? name = some position ∧ last.insert name = (last, position)) ∧
    (∀ name position, table.position? name = some position ↔ table.name? position = some name) ∧
    ((table.entries.map (·.2)).Nodup ∧
      table.entries.Pairwise (fun first second => first.1.Before second.1) ∧
      ∀ name position, (position, name) ∈ table.entries ↔ table.position? name = some position) ∧
    table.size = names.toFinset.card := by
  refine ⟨capacity_insertAll _ names, ?_⟩
  intro table
  have listed : table.names = names.eraseDups := names_insertAll capacity names
  have distinct : table.names.Nodup := listed ▸ nodup_eraseDups names
  refine ⟨fun name => ?_, fun name later => ?_, fun _ _ => position?_eq_some_iff distinct,
    ⟨nodup_map_entries distinct, pairwise_entries table, fun name position => ?_⟩, ?_⟩
  · rw [isSome_position?_iff, listed, List.mem_eraseDups]
  · intro position last
    have found : last.position? name = some position :=
      position?_insertAll (position?_insert table name) later
    exact ⟨found, by rw [insert, found]⟩
  · rw [mem_entries_iff, position?_eq_some_iff distinct]
  · have same : table.names.toFinset = names.toFinset := by
      ext name
      rw [List.mem_toFinset, List.mem_toFinset, listed, List.mem_eraseDups]
    rw [size, ← same, List.toFinset_card_of_nodup distinct]

/-- Two names of one bucket, the first of which comes twice, and one of a bucket before it. -/
example :
    ((ofCapacity 10).insertAll ["ab", "ba", "ab", "d"]).entries =
      [(⟨0, 0⟩, "d"), (⟨5, 0⟩, "ab"), (⟨5, 1⟩, "ba")] := by
  cbv

end SymbolTable

end Descent
