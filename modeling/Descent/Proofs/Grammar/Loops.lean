import Descent.Proofs.Grammar.LeftCorner

/-!
# Loops that look for warnings

Both warnings about a grammar come from one search, `reach`, that is given the names to follow and
the names that are still fresh.  A program has two loops for them, and each does more than that
search or less.  The loop for nonterminals out of reach collects what it has seen, and pushes a
symbol only if it is a nonterminal that it has not seen.  The loop for left recursion pushes every
left corner, passes over what is no nonterminal when it comes up, and ends with the first symbol
that is the nonterminal it started from.  Both take the last symbol that was pushed.

None of this makes a difference, because what `reach` comes to depends neither on the order of the
names that it starts from nor on names among them that are not fresh.
-/

namespace Descent.Grammar

variable {grammar : Grammar} {symbol nonterminal : Symbol} {seen work : List Symbol}

/-- The nonterminals that are not seen yet. -/
def unseen (grammar : Grammar) (seen : List Symbol) : List Symbol :=
  grammar.nonterminals.filter (· ∉ seen)

theorem mem_unseen_iff :
    symbol ∈ grammar.unseen seen ↔ grammar.isNonterminal symbol ∧ symbol ∉ seen := by
  rw [unseen, List.mem_filter, decide_eq_true_eq, mem_nonterminals_iff]

theorem unseen_cons : grammar.unseen (symbol :: seen) = without symbol (grammar.unseen seen) := by
  rw [unseen, unseen, without, List.filter_filter]
  exact List.filter_congr fun _ _ => by simp

/-- A nonterminal that is seen for the first time leaves fewer unseen. -/
theorem length_unseen_cons_lt (h : grammar.isNonterminal symbol) (new : symbol ∉ seen) :
    (grammar.unseen (symbol :: seen)).length < (grammar.unseen seen).length :=
  unseen_cons ▸ length_without_lt (mem_unseen_iff.mpr ⟨h, new⟩)

/-! ### The loops -/

/-- The symbols of the alternatives of a symbol that are nonterminals and not seen yet. -/
def pushed (grammar : Grammar) (seen : List Symbol) (symbol : Symbol) : List Symbol :=
  (grammar.alternativeSymbols symbol).filter fun other =>
    grammar.isNonterminal other && other ∉ seen

theorem mem_pushed_iff {other : Symbol} :
    other ∈ grammar.pushed seen symbol ↔
      other ∈ grammar.alternativeSymbols symbol ∧ other ∈ grammar.unseen seen := by
  simp [pushed, mem_unseen_iff]

/-- A symbol that is seen for the first time leaves fewer unseen, or nothing is pushed for it. -/
theorem lex_of_not_mem (new : symbol ∉ seen) :
    Prod.Lex (· < ·) (· < ·)
      ((grammar.unseen (symbol :: seen)).length,
        ((grammar.pushed (symbol :: seen) symbol).reverse ++ work).length)
      ((grammar.unseen seen).length, (symbol :: work).length) := by
  by_cases h : grammar.isNonterminal symbol
  · exact Prod.Lex.left _ _ (length_unseen_cons_lt h new)
  · have none : grammar.pushed (symbol :: seen) symbol = [] := by
      refine List.eq_nil_iff_forall_not_mem.mpr fun other mem => ?_
      obtain ⟨production, chosen, -⟩ := List.mem_flatMap.mp (mem_pushed_iff.mp mem).1
      exact h (isNonterminal_of_mem_alternatives chosen)
    have same : grammar.unseen (symbol :: seen) = grammar.unseen seen := by
      rw [unseen_cons, without, List.filter_eq_self]
      intro other mem
      have other_nonterminal := (mem_unseen_iff.mp mem).1
      exact decide_eq_true fun same => h (same ▸ other_nonterminal)
    rw [none, same]
    exact Prod.Lex.right _ (Nat.lt_succ_self _)

/-- What is seen in the end, from some symbols that are seen and a stack of others. -/
def seenFrom (grammar : Grammar) (seen : List Symbol) : List Symbol → List Symbol
  | [] => seen
  | symbol :: work =>
    if symbol ∈ seen then grammar.seenFrom seen work
    else
      let seen := symbol :: seen
      grammar.seenFrom seen ((grammar.pushed seen symbol).reverse ++ work)
termination_by work => ((grammar.unseen seen).length, work.length)
decreasing_by
  · exact Prod.Lex.right _ (Nat.lt_succ_self _)
  · rename_i new
    exact lex_of_not_mem new

/-- Whether a nonterminal comes up, from some symbols that are seen and a stack of others. -/
def comesUpFrom (grammar : Grammar) (nonterminal : Symbol) (seen : List Symbol) :
    List Symbol → Bool
  | [] => false
  | symbol :: work =>
    if symbol = nonterminal then true
    else if !grammar.isNonterminal symbol || symbol ∈ seen then
      grammar.comesUpFrom nonterminal seen work
    else
      grammar.comesUpFrom nonterminal (symbol :: seen)
        ((grammar.firstSymbols symbol).reverse ++ work)
termination_by work => ((grammar.unseen seen).length, work.length)
decreasing_by
  · exact Prod.Lex.right _ (Nat.lt_succ_self _)
  · rename_i new
    rw [Bool.or_eq_true, not_or, Bool.not_eq_true', decide_eq_true_eq, Bool.not_eq_false] at new
    exact Prod.Lex.left _ _ (length_unseen_cons_lt new.1 new.2)

/-! ### What they find -/

/-- **The first loop sees what is reached**, if only nonterminals are pushed before it starts. -/
theorem mem_seenFrom_iff (h : ∀ symbol ∈ work, grammar.isNonterminal symbol) :
    symbol ∈ grammar.seenFrom seen work ↔
      symbol ∈ seen ∨ symbol ∈ reach grammar.alternativeSymbols (grammar.unseen seen) work := by
  fun_induction seenFrom grammar seen work with
  | case1 seen => rw [reach, or_iff_left List.not_mem_nil]
  | case2 seen first work old ih =>
    have stale : first ∉ grammar.unseen seen := fun mem => (mem_unseen_iff.mp mem).2 old
    rw [reach, if_neg stale]
    exact ih fun symbol mem => h symbol (List.mem_cons_of_mem first mem)
  | case3 seen first work new later ih =>
    have fresh : first ∈ grammar.unseen seen :=
      mem_unseen_iff.mpr ⟨h first List.mem_cons_self, new⟩
    have nonterminals : ∀ symbol ∈ (grammar.pushed later first).reverse ++ work,
        grammar.isNonterminal symbol := by
      intro symbol mem
      rcases List.mem_append.mp mem with mem | mem
      · exact (mem_unseen_iff.mp (mem_pushed_iff.mp (List.mem_reverse.mp mem)).2).1
      · exact h symbol (List.mem_cons_of_mem first mem)
    rw [ih nonterminals, reach, if_pos fresh, ← unseen_cons, List.mem_cons, List.mem_cons,
      or_assoc, or_left_comm]
    refine or_congr_right (or_congr_right (mem_reach_congr fun other unseen => ?_))
    rw [List.mem_append, List.mem_append, List.mem_reverse, mem_pushed_iff, and_iff_left unseen]

/-- **The second loop comes upon the nonterminal if it is reached.** -/
theorem comesUpFrom_eq (h : grammar.isNonterminal nonterminal) (new : nonterminal ∉ seen) :
    grammar.comesUpFrom nonterminal seen work =
      (reach grammar.firstSymbols (grammar.unseen seen) work).contains nonterminal := by
  fun_induction comesUpFrom grammar nonterminal seen work with
  | case1 seen => rw [reach]; rfl
  | case2 seen work =>
    rw [reach, if_pos (mem_unseen_iff.mpr ⟨h, new⟩)]
    simp
  | case3 seen symbol work other passed ih =>
    have stale : symbol ∉ grammar.unseen seen := fun mem => by
      have unseen := mem_unseen_iff.mp mem
      simp [unseen] at passed
    rw [ih new, reach, if_neg stale]
  | case4 seen symbol work other taken ih =>
    have taken : grammar.isNonterminal symbol ∧ symbol ∉ seen := by simpa using taken
    have fresh : nonterminal ∉ symbol :: seen :=
      List.not_mem_cons_of_ne_of_not_mem (Ne.symm other) new
    rw [ih fresh, reach, if_pos (mem_unseen_iff.mpr taken), ← unseen_cons, Bool.eq_iff_iff,
      List.contains_iff_mem, List.contains_iff_mem, List.mem_cons, or_iff_right (Ne.symm other)]
    exact mem_reach_congr fun first _ => by simp

/-- Whether a nonterminal comes up behind its own left corners. -/
def comesUp (grammar : Grammar) (nonterminal : Symbol) : Bool :=
  grammar.comesUpFrom nonterminal [] (grammar.firstSymbols nonterminal).reverse

/-- The problems of a grammar, where both warnings are looked for by the loops. -/
def problemsByLoops (grammar : Grammar) : List Problem :=
  (if grammar.isNonterminal grammar.start then [] else [.startNotNonterminal grammar.start]) ++
    grammar.nonterminals.flatMap grammar.ownProblems ++
    (if grammar.isNonterminal grammar.start then
      let reached := grammar.seenFrom [] [grammar.start]
      (grammar.nonterminals.filter fun nonterminal => !reached.contains nonterminal).map
        .unreachable
    else []) ++
    (grammar.nonterminals.filter grammar.comesUp).map .leftRecursive

/-- **The loops find the problems of a grammar**, each of them and in the same order. -/
theorem problemsByLoops_eq (grammar : Grammar) : grammar.problemsByLoops = grammar.problems := by
  have all : grammar.unseen [] = grammar.nonterminals := by simp [unseen]
  have corners : grammar.nonterminals.filter grammar.comesUp =
      grammar.nonterminals.filter grammar.isLeftRecursive := by
    refine List.filter_congr fun nonterminal mem => ?_
    rw [comesUp, comesUpFrom_eq (mem_nonterminals_iff.mp mem) List.not_mem_nil, all,
      isLeftRecursive, Bool.eq_iff_iff, List.contains_iff_mem, List.contains_iff_mem]
    exact mem_reach_congr fun first _ => List.mem_reverse
  rw [problemsByLoops, problems, corners]
  split
  · rename_i start
    have found : ∀ nonterminal, (grammar.seenFrom [] [grammar.start]).contains nonterminal =
        grammar.reachable.contains nonterminal := by
      intro nonterminal
      rw [Bool.eq_iff_iff, List.contains_iff_mem, List.contains_iff_mem,
        mem_seenFrom_iff (List.forall_mem_singleton.mpr start), all,
        or_iff_right List.not_mem_nil, reachable]
    simp only [found]
  · rfl

end Descent.Grammar
