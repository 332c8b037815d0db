import Mathlib.Computability.ContextFreeGrammar
import Descent.Proofs.Grammar.Usable

/-!
# The language of a grammar

Names do not tell terminals from nonterminals, only a grammar does.  In a context-free grammar of
the library they are of different types.  So every symbol is given its kind here, and a token is
never taken for the nonterminal that has the same name.  If nothing is missing in a grammar, the
language of the grammar with kinds holds exactly the tokens that it generates.
-/

namespace Descent.Grammar

/-- A symbol with its kind.  What is no nonterminal counts as a terminal. -/
def sign (grammar : Grammar) (symbol : Symbol) :=
  if grammar.isNonterminal symbol then Symbol.nonterminal (T := String) symbol
  else Symbol.terminal symbol

/-- The grammar over symbols with kinds: a rule for each alternative of each nonterminal. -/
@[reducible] def toContextFree (grammar : Grammar) : ContextFreeGrammar String where
  NT := String
  initial := grammar.start
  rules := (grammar.nonterminals.flatMap fun left =>
    (grammar.alternatives left).map fun production =>
      ⟨left, production.symbols.map grammar.sign⟩).toFinset

variable {grammar : Grammar}

theorem sign_eq_nonterminal_iff {symbol left : Symbol} :
    grammar.sign symbol = .nonterminal left ↔ symbol = left ∧ grammar.isNonterminal left := by
  unfold sign
  split
  · rw [Symbol.nonterminal.injEq]
    exact ⟨fun h => ⟨h, h ▸ ‹_›⟩, And.left⟩
  · constructor
    · rintro ⟨⟩
    · rintro ⟨rfl, nonterminal⟩
      contradiction

theorem sign_eq_terminal_iff {symbol token : Symbol} :
    grammar.sign symbol = .terminal token ↔ symbol = token ∧ ¬ grammar.isNonterminal token := by
  unfold sign
  split
  · constructor
    · rintro ⟨⟩
    · rintro ⟨rfl, other⟩
      contradiction
  · rw [Symbol.terminal.injEq]
    exact ⟨fun h => ⟨h, h ▸ ‹_›⟩, And.left⟩

/-- Names that are signed like tokens are these tokens, and none of them is a nonterminal. -/
theorem eq_of_map_sign_eq {form tokens : List Symbol}
    (h : form.map grammar.sign = tokens.map .terminal) :
    form = tokens ∧ ∀ token ∈ tokens, ¬ grammar.isNonterminal token := by
  induction tokens generalizing form with
  | nil => simpa using h
  | cons token tokens ih =>
    cases form with
    | nil => simp at h
    | cons symbol form =>
      rw [List.map_cons, List.map_cons, List.cons.injEq] at h
      obtain ⟨rfl, other⟩ := sign_eq_terminal_iff.mp h.1
      obtain ⟨rfl, others⟩ := ih h.2
      exact ⟨rfl, List.forall_mem_cons.mpr ⟨other, others⟩⟩

/-- The rules are the alternatives of all nonterminals. -/
theorem mem_rules_toContextFree_iff {rule : ContextFreeRule String String} :
    rule ∈ grammar.toContextFree.rules ↔
      ∃ left, ∃ production ∈ grammar.alternatives left,
        rule = ⟨left, production.symbols.map grammar.sign⟩ := by
  simp only [toContextFree, List.mem_toFinset, List.mem_flatMap, List.mem_map]
  constructor
  · rintro ⟨left, -, production, mem, rfl⟩
    exact ⟨left, production, mem, rfl⟩
  · rintro ⟨left, production, mem, rfl⟩
    have declared := mem_nonterminals_iff.mpr (isNonterminal_of_mem_alternatives mem)
    exact ⟨left, declared, production, mem, rfl⟩

/-! ### Derivations with and without kinds -/

/-- A step between names is a step between symbols with kinds. -/
theorem Produces.sign {form last : List Symbol} (h : grammar.Produces form last) :
    grammar.toContextFree.Produces (form.map grammar.sign) (last.map grammar.sign) := by
  obtain ⟨before, after, mem⟩ := h
  refine ⟨_, mem_rules_toContextFree_iff.mpr ⟨_, _, mem, rfl⟩, ?_⟩
  have signed := sign_eq_nonterminal_iff.mpr ⟨rfl, isNonterminal_of_mem_alternatives mem⟩
  rw [ContextFreeRule.rewrites_iff]
  exact ⟨before.map grammar.sign, after.map grammar.sign, by simp [signed], by simp⟩

theorem Derives.sign {form last : List Symbol} (h : grammar.Derives form last) :
    grammar.toContextFree.Derives (form.map grammar.sign) (last.map grammar.sign) := by
  induction h with
  | refl => exact Relation.ReflTransGen.refl
  | tail _ step ih => exact ih.tail step.sign

/-- A step from signed names leads to signed names. -/
theorem exists_produces_of_sign {form : List Symbol} {last}
    (h : grammar.toContextFree.Produces (form.map grammar.sign) last) :
    ∃ next, last = next.map grammar.sign ∧ grammar.Produces form next := by
  obtain ⟨rule, mem, rewrites⟩ := h
  obtain ⟨left, production, chosen, rfl⟩ := mem_rules_toContextFree_iff.mp mem
  obtain ⟨before, after, split, rfl⟩ := rewrites.exists_parts
  rw [List.append_assoc, List.map_eq_append_iff] at split
  obtain ⟨before, rest, rfl, rfl, split⟩ := split
  rw [List.singleton_append, List.map_eq_cons_iff] at split
  obtain ⟨symbol, after, rfl, signed, rfl⟩ := split
  obtain ⟨rfl, -⟩ := sign_eq_nonterminal_iff.mp signed
  exact ⟨before ++ production.symbols ++ after, by simp, .replace before after chosen⟩

theorem exists_derives_of_sign {form : List Symbol} {last}
    (h : grammar.toContextFree.Derives (form.map grammar.sign) last) :
    ∃ next, last = next.map grammar.sign ∧ grammar.Derives form next := by
  induction h with
  | refl => exact ⟨form, rfl, .refl⟩
  | tail _ step ih =>
    obtain ⟨middle, rfl, derived⟩ := ih
    obtain ⟨next, rfl, produced⟩ := exists_produces_of_sign step
    exact ⟨next, rfl, .tail derived produced⟩

/-! ### Generated tokens -/

/-- What is derived from declared symbols consists of declared symbols. -/
theorem Usable.kind?_ne_none_of_derives (usable : grammar.Usable) {form last : List Symbol}
    (h : grammar.Derives form last) (declared : ∀ symbol ∈ form, grammar.kind? symbol ≠ none) :
    ∀ symbol ∈ last, grammar.kind? symbol ≠ none := by
  induction h with
  | refl => exact declared
  | tail _ step ih =>
    obtain ⟨before, after, mem⟩ := step
    intro symbol found
    rw [List.append_assoc, List.mem_append, List.mem_append] at found
    rcases found with found | found | found
    · exact ih symbol (List.mem_append_left _ found)
    · exact usable.declared mem found
    · exact ih symbol (List.mem_append_right _ (List.mem_cons_of_mem _ found))

theorem kind?_ne_none_of_isNonterminal {symbol : Symbol} (h : grammar.isNonterminal symbol) :
    grammar.kind? symbol ≠ none := by
  intro undeclared
  simp [isNonterminal, undeclared] at h

/-- If nothing is missing in a grammar, the words of its language are the tokens that it
generates. -/
theorem Usable.mem_language_iff_generates (usable : grammar.Usable) {tokens : List Symbol} :
    tokens ∈ grammar.toContextFree.language ↔ grammar.Generates tokens := by
  have start : [grammar.start].map grammar.sign = [.nonterminal grammar.start] := by
    rw [List.map_singleton, sign_eq_nonterminal_iff.mpr ⟨rfl, usable.start⟩]
  rw [ContextFreeGrammar.mem_language_iff]
  change grammar.toContextFree.Derives [.nonterminal grammar.start] _ ↔ _
  rw [← start]
  constructor
  · intro derived
    obtain ⟨form, signed, named⟩ := exists_derives_of_sign derived
    obtain ⟨rfl, others⟩ := eq_of_map_sign_eq signed.symm
    have declared := usable.kind?_ne_none_of_derives named (by
      simpa using kind?_ne_none_of_isNonterminal usable.start)
    exact ⟨named, fun token mem => isTerminal_of_kind?_ne_none (declared token mem)
      (others token mem)⟩
  · rintro ⟨derived, terminals⟩
    have signed : tokens.map grammar.sign = tokens.map .terminal := by
      refine List.map_congr_left fun token mem => ?_
      exact sign_eq_terminal_iff.mpr ⟨rfl, not_isNonterminal_of_isTerminal (terminals token mem)⟩
    rw [← signed]
    exact derived.sign

end Descent.Grammar
