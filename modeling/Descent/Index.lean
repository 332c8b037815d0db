/-!
# Indices

The nodes of a tree are numbered in the order in which they were added, with numbers of 32 bits.
A tree stops growing before it has as many nodes as the largest of these numbers, `Index.last`.
-/

namespace Descent

/-- The number of a node, counted from zero. -/
abbrev Index := Nat

namespace Index

/-- The index of the first node. -/
def first : Index := 0

/-- The largest index. -/
def last : Index := 4294967295

/-- The index after this one, unless it is the largest. -/
def next? (i : Index) : Option Index :=
  if i < last then some (i + 1) else none

/-- The index before this one, unless it is the first. -/
def previous? (i : Index) : Option Index :=
  if first < i then some (i - 1) else none

/-- The digits of an index. -/
def render (i : Index) : String := Nat.repr i

end Index

end Descent
