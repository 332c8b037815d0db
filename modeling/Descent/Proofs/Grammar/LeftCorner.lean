import Mathlib.Data.Set.Finite.List
import Descent.Proofs.Acyclic
import Descent.Proofs.Grammar.Usable

/-!
# Left corners

The first symbols of the alternatives of a symbol are its left corners, those of its left corners
are further ones, and so on.  A search follows them as long as it matches nothing.  Where no
reachable nonterminal is its own left corner there is no endless chain of them, since a grammar
has finitely many nonterminals.

The searches over names are put in terms of chains first: `mem_reach_iff`.  That `reach` follows a
name only once makes the two directions unlike.  What is found stands at the end of a chain by the
recursion of `reach`, but a chain may come back to names that were dropped, so the converse is by
the chain, and needs that what is found is closed under `next`.
-/

namespace Descent

open Relation

/-! ### What is reached -/

section Reach

variable {next : String → List String} {fresh work others : List String} {name other : String}

theorem mem_without_iff : other ∈ without name fresh ↔ other ∈ fresh ∧ other ≠ name := by
  simp [without]

/-- Fresh names that a search for names starts from are reached. -/
theorem mem_reach_of_mem_work (mem : name ∈ work) (h : name ∈ fresh) :
    name ∈ reach next fresh work := by
  fun_induction reach next fresh work with
  | case1 => cases mem
  | case2 fresh first work _ ih =>
    by_cases same : name = first
    · rw [same]
      exact List.mem_cons_self
    · have later := List.mem_of_ne_of_mem same mem
      exact List.mem_cons_of_mem first
        (ih (List.mem_append_right _ later) (mem_without_iff.mpr ⟨h, same⟩))
  | case3 fresh first work stale ih =>
    rcases List.mem_cons.mp mem with rfl | later
    · exact absurd h stale
    · exact ih later h

/-- Fresh names that a reached name leads to are reached. -/
theorem mem_reach_of_mem_next (reached : name ∈ reach next fresh work) (mem : other ∈ next name)
    (h : other ∈ fresh) : other ∈ reach next fresh work := by
  fun_induction reach next fresh work with
  | case1 => cases reached
  | case2 fresh first work _ ih =>
    by_cases same : other = first
    · rw [same]
      exact List.mem_cons_self
    · have still : other ∈ without first fresh := mem_without_iff.mpr ⟨h, same⟩
      refine List.mem_cons_of_mem first ?_
      rcases List.mem_cons.mp reached with rfl | reached
      · exact mem_reach_of_mem_work (List.mem_append_left _ mem) still
      · exact ih reached still
  | case3 fresh first work _ ih => exact ih reached h

/-- **What is reached stands at the end of a chain of fresh names**, from one of the names that the
search starts from. -/
theorem mem_reach_iff :
    name ∈ reach next fresh work ↔ ∃ first ∈ work, first ∈ fresh ∧
      ReflTransGen (fun name other => other ∈ next name ∧ other ∈ fresh) first name := by
  constructor
  · intro reached
    fun_induction reach next fresh work with
    | case1 => cases reached
    | case2 fresh start work new ih =>
      rcases List.mem_cons.mp reached with rfl | reached
      · exact ⟨name, List.mem_cons_self, new, .refl⟩
      · obtain ⟨first, mem, still, chain⟩ := ih reached
        have still := (mem_without_iff.mp still).1
        have chain :
            ReflTransGen (fun name other => other ∈ next name ∧ other ∈ fresh) first name :=
          ReflTransGen.mono (fun _ _ step => ⟨step.1, (mem_without_iff.mp step.2).1⟩) _ _ chain
        rcases List.mem_append.mp mem with mem | mem
        · exact ⟨start, List.mem_cons_self, new, .head ⟨mem, still⟩ chain⟩
        · exact ⟨first, List.mem_cons_of_mem start mem, still, chain⟩
    | case3 fresh start work _ ih =>
      obtain ⟨first, mem, still, chain⟩ := ih reached
      exact ⟨first, List.mem_cons_of_mem start mem, still, chain⟩
  · rintro ⟨first, mem, new, chain⟩
    induction chain with
    | refl => exact mem_reach_of_mem_work mem new
    | tail _ last ih => exact mem_reach_of_mem_next ih last.1 last.2

/-- Neither the order of the names that a search starts from matters, nor which of them are not
fresh. -/
theorem mem_reach_congr (same : ∀ first ∈ fresh, first ∈ work ↔ first ∈ others) :
    name ∈ reach next fresh work ↔ name ∈ reach next fresh others := by
  rw [mem_reach_iff, mem_reach_iff]
  refine exists_congr fun first => ⟨?_, ?_⟩
  · rintro ⟨mem, new, chain⟩
    exact ⟨(same first new).mp mem, new, chain⟩
  · rintro ⟨mem, new, chain⟩
    exact ⟨(same first new).mpr mem, new, chain⟩

end Reach

namespace Grammar

variable {grammar : Grammar} {symbol corner : Symbol}

/-! ### Reachable symbols -/

theorem start_mem_reachable (h : grammar.isNonterminal grammar.start) :
    grammar.start ∈ grammar.reachable :=
  mem_reach_of_mem_work (List.mem_singleton.mpr rfl) (mem_nonterminals_iff.mpr h)

/-- The nonterminals in the alternatives of a reachable symbol are reachable. -/
theorem mem_reachable_of_mem_symbols {production : Production}
    (reached : symbol ∈ grammar.reachable) (chosen : production ∈ grammar.alternatives symbol)
    (mem : corner ∈ production.symbols) (h : grammar.isNonterminal corner) :
    corner ∈ grammar.reachable :=
  mem_reach_of_mem_next reached (List.mem_flatMap.mpr ⟨production, chosen, mem⟩)
    (mem_nonterminals_iff.mpr h)

/-- A symbol that derivations from the start symbol can come across: it stands at the end of a
chain in which each symbol is one of those that an alternative of the symbol before consists of. -/
def Reachable (grammar : Grammar) (symbol : Symbol) : Prop :=
  ReflTransGen (fun symbol other => other ∈ grammar.alternativeSymbols symbol) grammar.start symbol

/-- The alternatives of a reachable symbol consist of reachable symbols. -/
theorem Reachable.of_mem_symbols {production : Production} (reached : grammar.Reachable symbol)
    (chosen : production ∈ grammar.alternatives symbol) (mem : corner ∈ production.symbols) :
    grammar.Reachable corner :=
  reached.tail (List.mem_flatMap.mpr ⟨production, chosen, mem⟩)

/-- Where nothing is missing, reachable symbols are declared. -/
theorem Reachable.declared (reached : grammar.Reachable symbol) (usable : grammar.Usable) :
    grammar.kind? symbol ≠ none := by
  induction reached with
  | refl =>
    rw [isNonterminal_iff.mp usable.start]
    exact Option.some_ne_none _
  | tail _ last =>
    obtain ⟨production, chosen, mem⟩ := List.mem_flatMap.mp last
    exact usable.declared chosen mem

/-- The nonterminals that are found from the start symbol are those that are reachable. -/
theorem mem_reachable_iff (h : grammar.isNonterminal grammar.start) :
    symbol ∈ grammar.reachable ↔ grammar.isNonterminal symbol ∧ grammar.Reachable symbol := by
  constructor
  · intro mem
    obtain ⟨first, start, -, chain⟩ := mem_reach_iff.mp mem
    rw [List.mem_singleton.mp start] at chain
    exact ⟨mem_nonterminals_iff.mp (mem_fresh_of_mem_reach mem),
      ReflTransGen.mono (fun _ _ => And.left) _ _ chain⟩
  · rintro ⟨nonterminal, chain⟩
    induction chain with
    | refl => exact start_mem_reachable h
    | tail _ last ih =>
      obtain ⟨production, chosen, mem⟩ := List.mem_flatMap.mp last
      exact mem_reachable_of_mem_symbols (ih (isNonterminal_of_mem_alternatives chosen)) chosen
        mem nonterminal

/-! ### Left corners -/

/-- `grammar.LeftCorner symbol corner` says that an alternative of `symbol` starts with `corner`. -/
def LeftCorner (grammar : Grammar) (symbol corner : Symbol) : Prop :=
  corner ∈ grammar.firstSymbols symbol

theorem leftCorner_iff :
    grammar.LeftCorner symbol corner ↔
      ∃ production ∈ grammar.alternatives symbol, production.first = corner :=
  List.mem_map

/-- Only nonterminals have left corners. -/
theorem LeftCorner.isNonterminal (h : grammar.LeftCorner symbol corner) :
    grammar.isNonterminal symbol := by
  obtain ⟨production, mem, -⟩ := leftCorner_iff.mp h
  exact isNonterminal_of_mem_alternatives mem

/-- The left corners of a reachable symbol are reachable as far as they are nonterminals. -/
theorem LeftCorner.mem_reachable (h : grammar.LeftCorner symbol corner)
    (reached : symbol ∈ grammar.reachable) (nonterminal : grammar.isNonterminal corner) :
    corner ∈ grammar.reachable := by
  obtain ⟨production, chosen, rfl⟩ := leftCorner_iff.mp h
  exact mem_reachable_of_mem_symbols reached chosen List.mem_cons_self nonterminal

/-- The nonterminals at the end of a chain of left corners are found from its start. -/
theorem mem_reach_firstSymbols_of_transGen (chain : TransGen grammar.LeftCorner symbol corner)
    (h : grammar.isNonterminal corner) :
    corner ∈ reach grammar.firstSymbols grammar.nonterminals (grammar.firstSymbols symbol) := by
  induction chain with
  | single first => exact mem_reach_of_mem_work first (mem_nonterminals_iff.mpr h)
  | tail _ last ih =>
    exact mem_reach_of_mem_next (ih last.isNonterminal) last (mem_nonterminals_iff.mpr h)

/-- A symbol at both ends of a chain of left corners is left-recursive. -/
theorem isLeftRecursive_of_transGen (chain : TransGen grammar.LeftCorner symbol symbol) :
    grammar.isNonterminal symbol ∧ grammar.isLeftRecursive symbol := by
  have h : grammar.isNonterminal symbol := by
    obtain ⟨next, first, -⟩ := TransGen.head'_iff.mp chain
    exact first.isNonterminal
  exact ⟨h, List.contains_iff_mem.mpr (mem_reach_firstSymbols_of_transGen chain h)⟩

/-- A left-recursive symbol is at both ends of a chain of left corners. -/
theorem transGen_of_isLeftRecursive (h : grammar.isLeftRecursive symbol) :
    TransGen grammar.LeftCorner symbol symbol := by
  obtain ⟨corner, first, -, chain⟩ := mem_reach_iff.mp (List.contains_iff_mem.mp h)
  exact TransGen.head' first (ReflTransGen.mono (fun _ _ => And.left) _ _ chain)

/-- A symbol without alternatives has no left corners to go on with. -/
theorem acc_leftCorner_of_not_isNonterminal (h : ¬ grammar.isNonterminal symbol) :
    Acc (fun corner symbol => grammar.LeftCorner symbol corner) symbol :=
  Acc.intro symbol fun _ corner => absurd corner.isNonterminal h

/-- **Chains of left corners end** where no reachable nonterminal is left-recursive. -/
theorem acc_leftCorner (h : ∀ symbol ∈ grammar.reachable, ¬ grammar.isLeftRecursive symbol)
    (reached : grammar.isNonterminal symbol → symbol ∈ grammar.reachable) :
    Acc (fun corner symbol => grammar.LeftCorner symbol corner) symbol := by
  by_cases nonterminal : grammar.isNonterminal symbol
  · -- There are finitely many reachable symbols, and chains between these have no cycles.
    refine acc_of_acyclic (List.finite_toSet grammar.reachable) ?_
      (fun reached cycle => h _ reached (isLeftRecursive_of_transGen cycle).2) (reached nonterminal)
    intro symbol corner reached step
    by_cases nonterminal : grammar.isNonterminal corner
    · exact .inl (step.mem_reachable reached nonterminal)
    · exact .inr (acc_leftCorner_of_not_isNonterminal nonterminal)
  · exact acc_leftCorner_of_not_isNonterminal nonterminal

/-- Left recursion is reported of the nonterminals that are left-recursive. -/
theorem leftRecursive_mem_problems_iff :
    .leftRecursive symbol ∈ grammar.problems ↔
      grammar.isNonterminal symbol ∧ grammar.isLeftRecursive symbol := by
  have reported : .leftRecursive symbol ∈
      (grammar.nonterminals.filter grammar.isLeftRecursive).map Problem.leftRecursive ↔
      grammar.isNonterminal symbol ∧ grammar.isLeftRecursive symbol := by
    simp [mem_nonterminals_iff]
  rw [problems, List.mem_append, ← reported, or_iff_right_iff_imp]
  -- The problems before these are all of other kinds.
  intro mem
  rcases List.mem_append.mp mem with mem | mem
  · rcases List.mem_append.mp mem with mem | mem
    · split at mem <;> simp at mem
    · obtain ⟨nonterminal, -, own⟩ := List.mem_flatMap.mp mem
      cases isError_of_mem_ownProblems own
  · split at mem <;> simp at mem

end Grammar

end Descent
