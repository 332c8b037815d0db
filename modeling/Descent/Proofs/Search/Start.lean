import Mathlib
import Descent.Proofs.Grammar.Usable
import Descent.Search.State

/-!
# Where a search can start

Whether a grammar can be used is asked in two places.  A grammar that is looked at by itself is
valid if none of its problems is an error; a search looks for productions first, and then for an
error among the problems.  Both come to the same, since a grammar without productions has an error
in any case, and a search that does not start says what the first error is.
-/

namespace Descent.Search

variable {grammar : Grammar} {fault : Fault} {problem : Problem}

/-- `fault.Blames problem` says that a search with the grammar fails because of the problem. -/
inductive Fault.Blames : Fault → Problem → Prop
  /-- The start symbol is no nonterminal. -/
  | startNotNonterminal {start : Symbol} :
      Blames (.startNotNonterminal start) (.startNotNonterminal start)
  /-- A nonterminal has no alternatives. -/
  | noAlternatives {nonterminal : Symbol} :
      Blames (.noAlternatives nonterminal) (.noAlternatives nonterminal)
  /-- A symbol is not declared.  Where it occurs is not said. -/
  | undeclared {left symbol : Symbol} : Blames (.undeclared symbol) (.undeclared left symbol)

theorem Fault.blames_iff : fault.Blames problem ↔ ofProblem? problem = some fault := by
  constructor
  · rintro ⟨⟩ <;> rfl
  · intro found
    cases problem with
    | startNotNonterminal start =>
      cases found
      exact .startNotNonterminal
    | noAlternatives nonterminal =>
      cases found
      exact .noAlternatives
    | undeclared left symbol =>
      cases found
      exact .undeclared
    | unreachable nonterminal => cases found
    | leftRecursive nonterminal => cases found

/-- No problem of a grammar is that it has no productions. -/
theorem Fault.Blames.ne_emptyGrammar (h : fault.Blames problem) : fault ≠ .emptyGrammar := by
  rintro rfl
  cases h

/-- **The fault of a grammar** is that it has no productions, or else its first error. -/
theorem check_eq_some_iff :
    check grammar = some fault ↔
      grammar.productionCount = 0 ∧ fault = .emptyGrammar ∨
      grammar.productionCount ≠ 0 ∧ ∃ before problem after,
        grammar.problems = before ++ problem :: after ∧
          (∀ earlier ∈ before, ¬ earlier.isError) ∧ fault.Blames problem := by
  rw [check]
  split
  · rename_i empty
    rw [Option.some.injEq, and_iff_right empty, or_iff_left fun other => other.1 empty, eq_comm]
  · rename_i filled
    have harmless (problem : Problem) : Fault.ofProblem? problem = none ↔ ¬ problem.isError := by
      rw [Fault.ofProblem?_eq_none_iff, Bool.not_eq_true]
    simp only [List.findSome?_eq_some_iff, harmless, ← Fault.blames_iff]
    constructor
    · rintro ⟨before, problem, after, split, blames, first⟩
      exact .inr ⟨filled, before, problem, after, split, first, blames⟩
    · rintro (⟨empty, -⟩ | ⟨-, before, problem, after, split, first, blames⟩)
      · exact absurd empty filled
      · exact ⟨before, problem, after, split, blames, first⟩

/-- **A search starts exactly if the grammar is valid**, whatever the tokens are and however many
steps are allowed.  If it does not, the fault is that there are no productions where there are none,
and else the first problem of the grammar that is an error. -/
theorem start_exact (task : Task) :
    ((∃ state, start task = .ok state) ↔ task.grammar.isValid) ∧
    ∀ fault, start task = .error fault →
      (fault = .emptyGrammar ↔ task.grammar.productionCount = 0) ∧
      (task.grammar.productionCount ≠ 0 → ∃ before problem after,
        task.grammar.problems = before ++ problem :: after ∧
          (∀ earlier ∈ before, ¬ earlier.isError) ∧ fault.Blames problem) := by
  constructor
  · rw [Grammar.isValid_iff_usable, ← check_eq_none_iff_usable, start]
    cases check task.grammar with
    | none => simp
    | some fault => simp
  · intro fault failed
    have checked : check task.grammar = some fault := by
      rw [start] at failed
      cases found : check task.grammar with
      | none => simp [found] at failed
      | some other => simpa [found] using failed
    rcases check_eq_some_iff.mp checked with ⟨empty, rfl⟩ | ⟨filled, first⟩
    · exact ⟨iff_of_true rfl empty, fun filled => absurd empty filled⟩
    · have ⟨_, _, _, _, _, blames⟩ := first
      exact ⟨iff_of_false blames.ne_emptyGrammar filled, fun _ => first⟩

/-- Of two errors the first is blamed, which comes after the nonterminal that is in order. -/
theorem start_exact_undeclared :
    let grammar : Grammar := ⟨[⟨"S", [⟨"S", ["x"]⟩]⟩, ⟨"A", [⟨"x", ["y"]⟩]⟩, ⟨"B", []⟩], ["x"], "S"⟩
    let task : Task := ⟨grammar, #["x"], none⟩
    start task = .error (.undeclared "y") ∧ grammar.productionCount ≠ 0 ∧
      ∃ before problem after, grammar.problems = before ++ problem :: after ∧
        (∀ earlier ∈ before, ¬ earlier.isError) ∧ (Fault.undeclared "y").Blames problem := by
  intro grammar task
  have failed : start task = .error (.undeclared "y") := by cbv
  have filled : grammar.productionCount ≠ 0 := by decide
  exact ⟨failed, filled, ((start_exact task).2 _ failed).2 filled⟩

end Descent.Search
