import Descent.Proofs.Grammar.Leftmost
import Descent.Search.Fault

/-!
# Usable grammars

A grammar can be searched if nothing is missing in it: its start symbol is a nonterminal, every
nonterminal has alternatives, and they consist of declared symbols.  `Grammar.Usable` says this of
the grammar, while a search asks for the first error among a list of problems.  Both are the same,
and only the former is used later.

The grammar `sums` is one to try things on, with everything in it that a search needs.
-/

namespace Descent

namespace Grammar

variable {grammar : Grammar}

/-- Nothing that a search needs is missing in the grammar. -/
structure Usable (grammar : Grammar) : Prop where
  /-- The start symbol is a nonterminal. -/
  start : grammar.isNonterminal grammar.start
  /-- Every nonterminal has alternatives. -/
  alternatives : ∀ {symbol}, grammar.isNonterminal symbol → grammar.alternatives symbol ≠ []
  /-- The alternatives consist of declared symbols. -/
  declared : ∀ {left production symbol}, production ∈ grammar.alternatives left →
    symbol ∈ production.symbols → grammar.kind? symbol ≠ none

theorem mem_nonterminals_iff {symbol : Symbol} :
    symbol ∈ grammar.nonterminals ↔ grammar.isNonterminal symbol :=
  (isNonterminal_iff.trans Kind.of?_eq_nonterminal_iff).symm

/-- A declared symbol that is no nonterminal is a terminal. -/
theorem isTerminal_of_kind?_ne_none {symbol : Symbol} (declared : grammar.kind? symbol ≠ none)
    (h : ¬ grammar.isNonterminal symbol) : grammar.isTerminal symbol := by
  rw [isNonterminal_iff] at h
  rw [isTerminal_iff]
  cases kind : grammar.kind? symbol with
  | none => exact absurd kind declared
  | some found =>
    cases found with
    | terminal => rfl
    | nonterminal => exact absurd kind h

/-! ### Errors of a grammar -/

/-- A nonterminal has no problem of its own exactly if it has alternatives, all of declared
symbols. -/
theorem ownProblems_eq_nil_iff {left : Symbol} :
    grammar.ownProblems left = [] ↔
      grammar.alternatives left ≠ [] ∧
        ∀ production ∈ grammar.alternatives left, ∀ symbol ∈ production.symbols,
          grammar.kind? symbol ≠ none := by
  simp only [ownProblems, alternativeSymbols, List.append_eq_nil_iff, List.map_eq_nil_iff,
    List.filter_eq_nil_iff, List.mem_flatMap, Option.isNone_iff_eq_none]
  refine and_congr ?_ ?_
  · split <;> simp_all
  · exact ⟨fun h production mem symbol found => h symbol ⟨production, mem, found⟩,
      fun h symbol ⟨production, mem, found⟩ => h production mem symbol found⟩

/-- All problems that a nonterminal has by itself are errors. -/
theorem isError_of_mem_ownProblems {left : Symbol} {problem : Problem}
    (h : problem ∈ grammar.ownProblems left) : problem.isError := by
  simp only [ownProblems, List.mem_append, List.mem_map] at h
  rcases h with h | ⟨symbol, -, rfl⟩
  · split at h
    · rw [List.mem_singleton] at h
      rw [h]
      rfl
    · cases h
  · rfl

/-- A grammar has no error exactly if its start symbol is a nonterminal and no nonterminal has
a problem of its own. -/
theorem isValid_iff :
    grammar.isValid ↔
      grammar.isNonterminal grammar.start ∧
        ∀ left ∈ grammar.nonterminals, grammar.ownProblems left = [] := by
  simp only [isValid, problems, List.all_append, Bool.and_eq_true]
  constructor
  · rintro ⟨⟨⟨start, own⟩, -⟩, -⟩
    refine ⟨?_, fun left mem => List.eq_nil_iff_forall_not_mem.mpr fun problem found => ?_⟩
    · cases declared : grammar.isNonterminal grammar.start with
      | true => rfl
      | false => simp [declared, Problem.isError] at start
    · rw [List.all_eq_true] at own
      have harmless := own problem (List.mem_flatMap.mpr ⟨left, mem, found⟩)
      rw [isError_of_mem_ownProblems found] at harmless
      cases harmless
  · rintro ⟨start, own⟩
    refine ⟨⟨⟨by simp [start], ?_⟩, ?_⟩, ?_⟩
    · rw [List.all_eq_true]
      intro problem mem
      obtain ⟨left, mem, found⟩ := List.mem_flatMap.mp mem
      rw [own left mem] at found
      cases found
    · simp [start, Problem.isError]
    · simp [Problem.isError]

/-- A grammar has no error exactly if nothing is missing in it. -/
theorem isValid_iff_usable : grammar.isValid ↔ grammar.Usable := by
  rw [isValid_iff]
  constructor
  · rintro ⟨start, own⟩
    refine ⟨start, fun nonterminal => ?_, fun mem => ?_⟩
    · exact (ownProblems_eq_nil_iff.mp (own _ (mem_nonterminals_iff.mpr nonterminal))).1
    · have nonterminal := isNonterminal_of_mem_alternatives mem
      exact (ownProblems_eq_nil_iff.mp (own _ (mem_nonterminals_iff.mpr nonterminal))).2 _ mem _
  · rintro ⟨start, alternatives, declared⟩
    refine ⟨start, fun left mem => ownProblems_eq_nil_iff.mpr ⟨?_, ?_⟩⟩
    · exact alternatives (mem_nonterminals_iff.mp mem)
    · exact fun production mem symbol => declared mem

/-- A usable grammar has productions, since its start symbol has alternatives. -/
theorem Usable.productionCount_ne_zero (usable : grammar.Usable) :
    grammar.productionCount ≠ 0 := by
  intro empty
  rw [productionCount_eq, List.length_eq_zero_iff, productions, List.flatMap_eq_nil_iff] at empty
  refine usable.alternatives usable.start ?_
  unfold Grammar.alternatives
  cases found : grammar.rules.find? (·.name == grammar.start) with
  | none => rfl
  | some rule => exact List.map_eq_nil_iff.mp (empty rule (List.mem_of_find?_eq_some found))

/-- A grammar to try things on: sums of `x` and of sums in parentheses. -/
def sums : Grammar where
  rules := [
    ⟨"E", [⟨"T", ["+", "E"]⟩, ⟨"T", []⟩]⟩,
    ⟨"T", [⟨"(", ["E", ")"]⟩, ⟨"x", []⟩]⟩]
  terminals := ["x", "+", "(", ")"]
  start := "E"

/-- Nothing is missing in the grammar of sums. -/
theorem usable_sums : sums.Usable where
  start := by decide
  alternatives {symbol} nonterminal := by
    have each : ∀ symbol ∈ sums.nonterminals, sums.alternatives symbol ≠ [] := by decide
    exact each symbol (mem_nonterminals_iff.mpr nonterminal)
  declared {left production symbol} chosen mem := by
    have each : ∀ left ∈ sums.nonterminals, ∀ production ∈ sums.alternatives left,
        ∀ symbol ∈ production.symbols, sums.kind? symbol ≠ none := by decide
    have named := mem_nonterminals_iff.mpr (isNonterminal_of_mem_alternatives chosen)
    exact each left named production chosen symbol mem

end Grammar

namespace Search

/-- Problems that are errors are those that a search fails on. -/
theorem Fault.ofProblem?_eq_none_iff {problem : Problem} :
    Fault.ofProblem? problem = none ↔ problem.isError = false := by
  cases problem <;> simp [Fault.ofProblem?, Problem.isError]

/-- A search can start exactly if nothing is missing in the grammar. -/
theorem check_eq_none_iff_usable {grammar : Grammar} :
    check grammar = none ↔ grammar.Usable := by
  have valid : grammar.problems.findSome? Fault.ofProblem? = none ↔ grammar.isValid := by
    simp only [List.findSome?_eq_none_iff, Fault.ofProblem?_eq_none_iff, Grammar.isValid,
      List.all_eq_true, Bool.not_eq_true']
  rw [← Grammar.isValid_iff_usable, ← valid, check]
  constructor
  · intro h
    split at h
    · cases h
    · exact h
  · intro h
    rw [if_neg (Grammar.isValid_iff_usable.mp (valid.mp h)).productionCount_ne_zero]
    exact h

end Search

end Descent
