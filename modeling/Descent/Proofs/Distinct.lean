import Mathlib.Data.List.Induction
import Mathlib.Data.List.Nodup

/-!
# Lists without repetitions

Declared names are kept where they come first, and so are the numbers of buckets that hold
something.  Names are declared one after the other, each at the end of those before it, so the
facts about `List.eraseDups` are proved by adding elements at the end.
-/

namespace Descent

variable {α : Type} [DecidableEq α] {list : List α}

/-- An element that is repeated at the end is the same once. -/
theorem eraseDups_concat (list : List α) (a : α) :
    (list ++ [a]).eraseDups = if a ∈ list then list.eraseDups else list.eraseDups ++ [a] := by
  rw [List.eraseDups_append]
  split <;> simp_all [List.removeAll, List.eraseDups_cons]

theorem nodup_eraseDups (list : List α) : list.eraseDups.Nodup := by
  induction list using List.reverseRecOn with
  | nil => exact List.nodup_nil
  | append_singleton list a ih =>
    rw [eraseDups_concat]
    split
    · exact ih
    · rename_i new
      rw [← List.mem_eraseDups] at new
      exact List.nodup_append'.mpr ⟨ih, List.nodup_singleton a, by simpa using new⟩

theorem eraseDups_eq_self (h : list.Nodup) : list.eraseDups = list := by
  induction list using List.reverseRecOn with
  | nil => rfl
  | append_singleton list a ih =>
    obtain ⟨earlier, -, new⟩ := List.nodup_append'.mp h
    rw [eraseDups_concat, if_neg (by simpa using new), ih earlier]

theorem head?_eraseDups (list : List α) : list.eraseDups.head? = list.head? := by
  cases list with
  | nil => rfl
  | cons a list => rw [List.eraseDups_cons, List.head?_cons, List.head?_cons]

end Descent
