import Descent.Proofs.Grammar.LeftCorner

/-!
# Warnings about a grammar

Two warnings are about what a grammar derives: that a nonterminal derives something that starts
with itself, and that a nonterminal occurs in nothing that the start symbol derives.  Both are
found by following names, never by deriving anything.  That this comes to the same is due to
alternatives not being empty: what stands at the head of a line can only give way to something
that starts with one of its left corners.
-/

namespace Descent

open Relation

/-- No name is followed twice. -/
theorem nodup_reach (next : String → List String) (fresh work : List String) :
    (reach next fresh work).Nodup := by
  fun_induction reach next fresh work with
  | case1 => exact List.nodup_nil
  | case2 fresh name work _ ih =>
    refine List.nodup_cons.mpr ⟨fun again => ?_, ih⟩
    exact (mem_without_iff.mp (mem_fresh_of_mem_reach again)).2 rfl
  | case3 fresh name work _ ih => exact ih

namespace Grammar

variable {grammar : Grammar} {symbol corner : Symbol} {form last : List Symbol}

/-! ### The head of a line -/

/-- A step of a derivation leaves the head of a line as it is, or puts an alternative in its
place. -/
theorem Produces.head (h : grammar.Produces (symbol :: form) last) :
    ∃ corner rest, last = corner :: rest ∧
      (corner = symbol ∧ form ≠ [] ∨ grammar.LeftCorner symbol corner) := by
  generalize whole : symbol :: form = line at h
  obtain ⟨before, after, chosen⟩ := h
  cases before with
  | nil =>
    obtain ⟨rfl, rfl⟩ := List.cons.inj whole
    exact ⟨_, _, rfl, .inr (leftCorner_iff.mpr ⟨_, chosen, rfl⟩)⟩
  | cons first before =>
    obtain ⟨rfl, rfl⟩ := List.cons.inj whole
    exact ⟨symbol, _, rfl, .inl ⟨rfl, List.append_ne_nil_of_right_ne_nil _ (List.cons_ne_nil _ _)⟩⟩

/-- What is derived starts with a symbol at the end of a chain of left corners. -/
theorem Derives.head (h : grammar.Derives (symbol :: form) last) :
    ∃ corner rest, last = corner :: rest ∧ ReflTransGen grammar.LeftCorner symbol corner := by
  induction h with
  | refl => exact ⟨symbol, form, rfl, .refl⟩
  | tail _ step ih =>
    obtain ⟨middle, rest, rfl, chain⟩ := ih
    obtain ⟨corner, rest, rfl, ⟨rfl, -⟩ | further⟩ := step.head
    · exact ⟨corner, rest, rfl, chain⟩
    · exact ⟨corner, rest, rfl, chain.tail further⟩

/-- **Chains of left corners are derivations, seen at the head**: a symbol that a chain leads to is
what something starts with that is derived in a step or more. -/
theorem transGen_leftCorner_iff :
    TransGen grammar.LeftCorner symbol corner ↔
      ∃ form rest, grammar.Produces [symbol] form ∧ grammar.Derives form (corner :: rest) := by
  constructor
  · intro chain
    induction chain with
    | single first =>
      obtain ⟨production, chosen, rfl⟩ := leftCorner_iff.mp first
      have step := Produces.replace [] [] chosen
      rw [List.nil_append, List.append_nil] at step
      exact ⟨production.symbols, production.rest, step, .refl⟩
    | tail _ further ih =>
      obtain ⟨form, rest, step, derived⟩ := ih
      obtain ⟨production, chosen, rfl⟩ := leftCorner_iff.mp further
      exact ⟨form, production.rest ++ rest, step, .tail derived (.replace [] rest chosen)⟩
  · rintro ⟨form, rest, step, derived⟩
    obtain ⟨first, others, rfl, ⟨-, more⟩ | start⟩ := step.head
    · exact absurd rfl more
    · obtain ⟨found, others, same, chain⟩ := derived.head
      obtain ⟨rfl, -⟩ := List.cons.inj same
      exact .head' start chain

/-! ### Symbols in derivations -/

/-- What the start symbol derives consists of reachable symbols. -/
theorem Derives.reachable (h : grammar.Derives [grammar.start] form) :
    ∀ symbol ∈ form, grammar.Reachable symbol := by
  induction h with
  | refl => exact List.forall_mem_singleton.mpr .refl
  | tail _ step ih =>
    obtain ⟨before, after, chosen⟩ := step
    simp only [List.forall_mem_append, List.forall_mem_cons] at ih ⊢
    obtain ⟨earlier, replaced, later⟩ := ih
    exact ⟨⟨earlier, fun symbol mem => replaced.of_mem_symbols chosen mem⟩, later⟩

/-- **Reachable symbols are those that occur in derivations** from the start symbol. -/
theorem reachable_iff :
    grammar.Reachable symbol ↔ ∃ form, grammar.Derives [grammar.start] form ∧ symbol ∈ form := by
  constructor
  · intro chain
    induction chain with
    | refl => exact ⟨_, .refl, List.mem_singleton_self _⟩
    | tail _ last ih =>
      obtain ⟨form, derived, mem⟩ := ih
      obtain ⟨before, after, rfl⟩ := List.append_of_mem mem
      obtain ⟨production, chosen, mem⟩ := List.mem_flatMap.mp last
      refine ⟨_, .tail derived (.replace before after chosen), ?_⟩
      exact List.mem_append_left _ (List.mem_append_right _ mem)
  · rintro ⟨form, derived, mem⟩
    exact derived.reachable symbol mem

/-! ### Reports -/

/-- Nonterminals are reported to be out of reach if the start symbol is a nonterminal and does not
lead to them. -/
theorem unreachable_mem_problems_iff :
    .unreachable symbol ∈ grammar.problems ↔
      grammar.isNonterminal grammar.start ∧ grammar.isNonterminal symbol ∧
        symbol ∉ grammar.reachable := by
  -- The problems that nonterminals have by themselves are errors.
  have own : ∀ left, .unreachable symbol ∉ grammar.ownProblems left := by
    intro left mem
    cases isError_of_mem_ownProblems mem
  cases declared : grammar.isNonterminal grammar.start with
  | true => simp [problems, declared, own, mem_nonterminals_iff]
  | false => simp [problems, declared, own]

/-- **Warnings are exact.**  Left recursion is reported of the nonterminals that derive, in a step
or more, something that starts with themselves.  If the start symbol is a nonterminal, those
nonterminals are reported to be out of reach that occur in nothing that it derives.  The search for
either follows each nonterminal once at most, and nothing else. -/
theorem warnings_exact (grammar : Grammar) :
    (∀ symbol, .leftRecursive symbol ∈ grammar.problems ↔
      symbol ∈ grammar.nonterminals ∧ ∃ form rest,
        grammar.Produces [symbol] form ∧ grammar.Derives form (symbol :: rest)) ∧
    (∀ symbol, .unreachable symbol ∈ grammar.problems ↔
      grammar.start ∈ grammar.nonterminals ∧ symbol ∈ grammar.nonterminals ∧
        ∀ form, grammar.Derives [grammar.start] form → symbol ∉ form) ∧
    (∀ next work, (reach next grammar.nonterminals work).Nodup ∧
      reach next grammar.nonterminals work ⊆ grammar.nonterminals) := by
  refine ⟨fun symbol => ?_, fun symbol => ?_, fun next work => ?_⟩
  · rw [leftRecursive_mem_problems_iff, mem_nonterminals_iff, ← transGen_leftCorner_iff]
    constructor
    · rintro ⟨nonterminal, recursive⟩
      exact ⟨nonterminal, transGen_of_isLeftRecursive recursive⟩
    · rintro ⟨-, chain⟩
      exact isLeftRecursive_of_transGen chain
  · rw [unreachable_mem_problems_iff, mem_nonterminals_iff, mem_nonterminals_iff]
    refine and_congr_right fun start => and_congr_right fun nonterminal => ?_
    rw [mem_reachable_iff start, and_iff_right nonterminal, reachable_iff]
    exact not_exists.trans (forall_congr' fun form => not_and)
  · exact ⟨nodup_reach next _ work, fun name => mem_fresh_of_mem_reach⟩

/-- Two nonterminals that start with each other, and that nothing else leads to. -/
example :
    (Grammar.mk [⟨"S", [⟨"x", ["y"]⟩]⟩, ⟨"A", [⟨"B", ["x"]⟩]⟩, ⟨"B", [⟨"A", []⟩, ⟨"x", []⟩]⟩]
      ["x", "y"] "S").problems =
      [.unreachable "A", .unreachable "B", .leftRecursive "A", .leftRecursive "B"] := by
  cbv

end Grammar

end Descent
