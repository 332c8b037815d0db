/-!
# Reaching names from names

Both warnings about a grammar ask which names can be reached from some others by following a
function `next`.  A name is followed at most once: it is dropped from `fresh` when it is met.
That there are fewer fresh names then is what ends the search, however the names lead back to each
other.
-/

namespace Descent

/-- The names other than one. -/
def without (name : String) (names : List String) : List String :=
  names.filter (· ≠ name)

/-- Leaving out a member makes a list shorter. -/
theorem length_without_lt {name : String} {names : List String} (h : name ∈ names) :
    (without name names).length < names.length := by
  simp only [without, List.length_filter_lt_length_iff_exists]
  exact ⟨name, h, by simp⟩

/-- The names of `fresh` that are reached from `work`: those in `work`, and from each of these
on, those in `next`.  Names outside `fresh` lead nowhere. -/
def reach (next : String → List String) (fresh : List String) : List String → List String
  | [] => []
  | name :: work =>
    if name ∈ fresh then
      name :: reach next (without name fresh) (next name ++ work)
    else reach next fresh work
termination_by work => (fresh.length, work.length)
decreasing_by
  · rename_i h
    exact Prod.Lex.left _ _ (length_without_lt h)
  · apply Prod.Lex.right
    simp

/-- Only fresh names are reached. -/
theorem mem_fresh_of_mem_reach {next : String → List String} {fresh work : List String}
    {name : String} (h : name ∈ reach next fresh work) : name ∈ fresh := by
  fun_induction reach next fresh work with
  | case1 => simp at h
  | case2 fresh first work hfirst ih =>
    rcases List.mem_cons.mp h with rfl | h
    · exact hfirst
    · exact (List.mem_filter.mp (ih h)).1
  | case3 fresh first work hfirst ih => exact ih h

end Descent
