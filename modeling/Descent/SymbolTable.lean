/-!
# Symbol tables

The names of a program, each with a position that it keeps: a bucket, which its characters decide,
and its place among the names of that bucket, in the order in which they came.

Only the order of all names is stored.  A bucket is what is left of it when the names of the other
buckets are passed over, so that names which come later are bound to come later in their bucket,
and there is no second list that would have to agree with the first.  A table that keeps each
bucket as a list of its own does the same: see `Chains`.
-/

namespace Descent

/-- Where a name stands in a symbol table. -/
structure Position where
  /-- The number of the bucket. -/
  bucket : Nat
  /-- The place in the bucket, counted from zero. -/
  index : Nat
deriving DecidableEq, Repr

/-- The bucket and the place in it, counted from one. -/
def Position.render (position : Position) : String :=
  s!"{position.bucket}.{position.index + 1}"

/-- The names of a program, spread over buckets. -/
structure SymbolTable where
  /-- The number of buckets. -/
  capacity : Nat
  /-- The names in the order in which they came. -/
  names : List String
  /-- There is a bucket. -/
  capacity_pos : 0 < capacity
deriving DecidableEq, Repr

namespace SymbolTable

/-- The number of buckets of a table for which none is given. -/
def defaultCapacity : Nat := 10

/-- The empty table with some number of buckets.  Without any it gets one. -/
def ofCapacity (capacity : Nat) : SymbolTable :=
  ⟨max capacity 1, [], by omega⟩

/-- The largest number of buckets that there is room for: each takes three words of eight bytes,
and all of them less than half of what words can address. -/
def maxCapacity : Nat := 0x7FFFFFFFFFFFFFFF / 24

/-- The empty table with some number of buckets, if there is room for them. -/
def ofCapacity? (capacity : Nat) : Option SymbolTable :=
  if capacity ≤ maxCapacity then some (ofCapacity capacity) else none

/-- The sum of the code points of a name, counted in 64 bits. -/
def codeSum (name : String) : UInt64 :=
  name.toList.foldl (fun total char => total + char.val.toUInt64) 0

/-- The bucket of a name: the sum of its code points, modulo the number of buckets. -/
def bucketOf (table : SymbolTable) (name : String) : Nat :=
  (codeSum name).toNat % table.capacity

/-- The names of a bucket, in the order in which they came. -/
def bucket (table : SymbolTable) (number : Nat) : List String :=
  table.names.filter (table.bucketOf · = number)

/-- The position of a name that is in the table. -/
def position? (table : SymbolTable) (name : String) : Option Position :=
  ((table.bucket (table.bucketOf name)).idxOf? name).map (⟨table.bucketOf name, ·⟩)

/-- The name at a position. -/
def name? (table : SymbolTable) (position : Position) : Option String :=
  (table.bucket position.bucket)[position.index]?

/-- The table with a name, and the name's position.  A name that is in the table stays where
it is, another goes to the end of its bucket. -/
def insert (table : SymbolTable) (name : String) : SymbolTable × Position :=
  match table.position? name with
  | some position => (table, position)
  | none =>
    let number := table.bucketOf name
    ({ table with names := table.names ++ [name] }, ⟨number, (table.bucket number).length⟩)

/-- The number of names. -/
def size (table : SymbolTable) : Nat := table.names.length

/-- Whether there are no names. -/
def isEmpty (table : SymbolTable) : Bool := table.names.isEmpty

/-- The numbers of the buckets that hold names, in increasing order. -/
def occupied (table : SymbolTable) : List Nat :=
  (table.names.map table.bucketOf).eraseDups.mergeSort (· ≤ ·)

/-- The names of a bucket with their positions. -/
def bucketEntries (table : SymbolTable) (number : Nat) : List (Position × String) :=
  (table.bucket number).zipIdx.map fun (name, index) => (⟨number, index⟩, name)

/-- All names with their positions, bucket by bucket. -/
def entries (table : SymbolTable) : List (Position × String) :=
  table.occupied.flatMap table.bucketEntries

/-- A line for each bucket that holds names. -/
def render (table : SymbolTable) : String :=
  String.join <| table.occupied.map fun number =>
    let names := (table.bucketEntries number).map fun (position, name) =>
      s!" {name} ({position.render})"
    s!"bucket {number}:{String.join names}\n"

/-! ### Inserting -/

@[simp] theorem capacity_insert (table : SymbolTable) (name : String) :
    (table.insert name).1.capacity = table.capacity := by
  unfold insert
  split <;> rfl

/-- Names stay in the order in which they came. -/
theorem names_prefix_insert (table : SymbolTable) (name : String) :
    table.names <+: (table.insert name).1.names := by
  unfold insert
  split
  · exact List.prefix_rfl
  · exact List.prefix_append _ _

end SymbolTable

end Descent
