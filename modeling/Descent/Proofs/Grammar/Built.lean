import Mathlib
import Descent.Proofs.Grammar.Ledger

/-!
# What a grammar that is built answers

A grammar is built by calls, of which some may fail.  What it answers follows from the calls that
succeeded: their names are declared once and as one kind, and their alternatives are listed in the
order of the calls.  A ledger that went through the same calls gives the same answers from its
separate stores.

The alternatives of a nonterminal are said by what each call adds to them.  An alternative can be
added only to a declared nonterminal, so a call that succeeded can be looked at without those
before it.
-/

namespace Descent

open Draft (Call)

namespace Ledger

variable {ledger next : Ledger} {kind : Kind} {name left symbol : Symbol}

/-! ### Answers of a ledger -/

/-- The table of alternatives holds as many productions as there are in all. -/
theorem Sound.productionCount (h : ledger.Sound) :
    (ledger.productions.entries.map (·.2.length)).sum =
      (ledger.nonterminals.flatMap fun name =>
        (ledger.alternatives name).map (name, ·)).length := by
  have table : ledger.productions.entries.map (·.2.length) =
      ledger.productions.keys.map fun name => (ledger.alternatives name).length := by
    rw [AList.keys, List.keys, List.map_map]
    refine List.map_congr_left fun entry mem => ?_
    have found : ledger.productions.lookup entry.1 = some entry.2 :=
      AList.mem_lookup_iff.mpr mem
    rw [Function.comp, alternatives, found, Option.getD_some]
  have names : ledger.nonterminals.Nodup := h.distinct.of_append_left
  simp only [table, List.length_flatMap, List.length_map]
  rw [← List.sum_toFinset _ ledger.productions.keys_nodup, ← List.sum_toFinset _ names]
  refine Finset.sum_subset (fun name mem => ?_) fun name _ absent => ?_
  · rw [List.mem_toFinset] at mem ⊢
    exact h.left name mem
  · rw [List.mem_toFinset] at absent
    rw [alternatives, AList.lookup_eq_none.mpr absent]
    rfl

/-- The grammar of the draft of a ledger, with a start symbol. -/
def grammar (ledger : Ledger) (start : Symbol) : Grammar :=
  ⟨ledger.draft.rules, ledger.terminals, start⟩

theorem exists_of_build {grammar : Grammar} (built : ledger.draft.build = .ok grammar) :
    ∃ start, ledger.start = some start ∧ grammar = ledger.grammar start := by
  obtain ⟨nonterminals, terminals, kinds, productions, start⟩ := ledger
  cases start with
  | none => cases built
  | some start =>
    cases built
    exact ⟨start, rfl, rfl⟩

section

variable (start : Symbol)

theorem Sound.alternatives_grammar (h : ledger.Sound) (symbol : Symbol) :
    (ledger.grammar start).alternatives symbol = ledger.alternatives symbol := by
  have find : ledger.draft.rules.find? (·.name == symbol) =
      (ledger.nonterminals.find? (· == symbol)).map
        fun name => ⟨name, ledger.alternatives name⟩ := List.find?_map
  rw [Grammar.alternatives, grammar, find]
  cases found : ledger.nonterminals.find? (· == symbol) with
  | some name =>
    obtain rfl : name = symbol := by simpa using List.find?_some found
    rfl
  | none =>
    refine (h.alternatives_eq_nil fun mem => ?_).symm
    simpa using List.find?_eq_none.mp found symbol mem

theorem productions_grammar :
    (ledger.grammar start).productions =
      ledger.nonterminals.flatMap fun name => (ledger.alternatives name).map (name, ·) :=
  List.flatMap_map _ _ _

/-- **A ledger answers like the grammar of its draft.** -/
theorem Sound.answers_grammar (h : ledger.Sound) (given : ledger.start = some start) :
    ledger.build = .ok (ledger.grammar start).answers := by
  rw [build, given]
  refine congrArg Except.ok (Grammar.Answers.ext ?_ rfl ?_ ?_ ?_ ?_ rfl)
  · exact ledger.map_name_rules_draft.symm
  · exact funext fun symbol => (h.kind?_draft symbol).symm
  · exact funext fun symbol => (h.alternatives_grammar start symbol).symm
  · exact (productions_grammar start).symm
  · rw [h.productionCount, ← productions_grammar start]
    exact (ledger.grammar start).productionCount_eq.symm

end

end Ledger

namespace Draft

/-- What a call adds to the alternatives of a symbol. -/
def Call.adds (symbol : Symbol) : Call → List (List Symbol)
  | .addAlternative left symbols => if symbol = left then [symbols] else []
  | _ => []

/-- The calls that succeed, in their order. -/
def succeeding (calls : List Call) (errors : List (Option GrammarError)) : List Call :=
  ((calls.zip errors).filter (·.2.isNone)).map (·.1)

end Draft

namespace Ledger

variable {ledger next : Ledger} {kind : Kind} {name : Symbol}

/-! ### Calls that succeed -/

theorem alternatives_of_declare (done : ledger.declare kind name = .ok next) :
    next.alternatives = ledger.alternatives := by
  unfold Ledger.declare at done
  split at done
  · cases done
    exact funext fun symbol => by rw [alternatives, productions_insert, alternatives]
  · split at done
    · cases done
      rfl
    · cases done

theorem alternatives_of_declareAll {names : List Symbol}
    (done : ledger.declareAll kind names = .ok next) : next.alternatives = ledger.alternatives := by
  induction names generalizing ledger with
  | nil =>
    cases done
    rfl
  | cons name names ih =>
    obtain ⟨middle, first, others⟩ := Except.bind_eq_ok_iff.mp done
    exact (ih others).trans (alternatives_of_declare first)

/-- A call that succeeds adds to the alternatives what it says. -/
theorem alternatives_of_apply {call : Call} (done : ledger.apply call = .ok next)
    (symbol : Symbol) :
    (next.alternatives symbol).map (·.symbols) =
      (ledger.alternatives symbol).map (·.symbols) ++ call.adds symbol := by
  cases call with
  | declare kind name =>
    rw [alternatives_of_declare done, Call.adds, List.append_nil]
    exact nofun
  | declareAll kind names =>
    rw [alternatives_of_declareAll done, Call.adds, List.append_nil]
    exact nofun
  | addAlternative left symbols =>
    replace done : ledger.addAlternative left symbols = .ok next := done
    unfold addAlternative at done
    split at done
    · split at done
      · cases done
      · rename_i production made
        cases done
        rw [alternatives_insert, Production.ofSymbols?_eq_some_iff.mp made, Call.adds]
        split
        · rename_i same
          rw [List.map_append, same]
          rfl
        · rw [List.append_nil]
    · cases done
  | setStart name =>
    cases done
    exact (List.append_nil _).symm

/-- **The alternatives of a nonterminal are those that were added**, by calls that succeeded and in
their order. -/
theorem alternatives_applyAll (ledger : Ledger) (calls : List Call) (symbol : Symbol) :
    ((ledger.applyAll calls).1.alternatives symbol).map (·.symbols) =
      (ledger.alternatives symbol).map (·.symbols) ++
        (Draft.succeeding calls (ledger.applyAll calls).2).flatMap (·.adds symbol) := by
  induction calls generalizing ledger with
  | nil => exact (List.append_nil _).symm
  | cons call calls ih =>
    rw [applyAll]
    cases done : ledger.apply call with
    | ok next =>
      show ((next.applyAll calls).1.alternatives symbol).map (·.symbols) =
        _ ++ (call.adds symbol ++
          (Draft.succeeding calls (next.applyAll calls).2).flatMap (·.adds symbol))
      rw [ih, alternatives_of_apply done, List.append_assoc]
    | error cause => exact ih ledger

end Ledger

namespace Draft

variable {calls : List Call} {grammar : Grammar}

/-- **What a grammar that is built answers**, whatever calls came before: names are declared once
and as one kind, and kinds are those of the lists; only nonterminals have alternatives, none of them
is empty, and they are those of the calls that succeeded; and it is the same if every fact is kept
in a store of its own. -/
theorem build_exact (built : (empty.applyAll calls).1.build = .ok grammar) :
    let errors := (empty.applyAll calls).2
    (grammar.nonterminals ++ grammar.terminals).Nodup ∧
    (∀ symbol,
      (grammar.kind? symbol = some .nonterminal ↔ symbol ∈ grammar.nonterminals) ∧
      (grammar.kind? symbol = some .terminal ↔ symbol ∈ grammar.terminals) ∧
      (grammar.kind? symbol = none ↔
        symbol ∉ grammar.nonterminals ∧ symbol ∉ grammar.terminals)) ∧
    (∀ symbol, grammar.alternatives symbol ≠ [] → symbol ∈ grammar.nonterminals) ∧
    (∀ symbol, ∀ production ∈ grammar.alternatives symbol, production.symbols ≠ []) ∧
    (∀ symbol, (grammar.alternatives symbol).map (·.symbols) =
      (succeeding calls errors).flatMap (·.adds symbol)) ∧
    grammar.productionCount = grammar.productions.length ∧
    (Ledger.empty.applyAll calls).2 = errors ∧
    (Ledger.empty.applyAll calls).1.build = .ok grammar.answers := by
  intro errors
  obtain ⟨same, sound⟩ := Ledger.Sound.empty.applyAll calls
  have added := Ledger.alternatives_applyAll Ledger.empty calls
  have whole : empty.applyAll calls = _ := same
  subst errors
  rw [whole] at built ⊢
  generalize Ledger.empty.applyAll calls = reached at sound added built ⊢
  obtain ⟨ledger, errors⟩ := reached
  obtain ⟨start, given, rfl⟩ := Ledger.exists_of_build built
  have nonterminals : (ledger.grammar start).nonterminals = ledger.nonterminals :=
    ledger.map_name_rules_draft
  have kinds (symbol : Symbol) : (ledger.grammar start).kind? symbol = ledger.kinds.lookup symbol :=
    sound.kind?_draft symbol
  simp only [nonterminals, kinds, sound.alternatives_grammar]
  refine ⟨sound.distinct, fun symbol => ⟨?_, ?_, sound.lookup_eq_none_iff⟩, ?_, ?_, added,
    Grammar.productionCount_eq _, trivial, sound.answers_grammar start given⟩
  · exact sound.declared .nonterminal symbol
  · exact sound.declared .terminal symbol
  · intro symbol nonempty
    by_contra absent
    exact nonempty (sound.alternatives_eq_nil absent)
  · exact fun symbol production _ => List.cons_ne_nil _ _

/-- Calls that fail and calls that say again what was said leave no trace. -/
theorem build_exact_repeated :
    let calls : List Call := [.declare .nonterminal "S", .declare .terminal "S",
      .addAlternative "A" ["a"], .declareAll .terminal ["a", "b", "S"],
      .declareAll .terminal ["a", "a"], .addAlternative "S" ["a", "S"], .declare .nonterminal "S",
      .addAlternative "S" [], .declare .nonterminal "A", .addAlternative "A" ["S"],
      .setStart "A", .addAlternative "S" ["b"], .setStart "S"]
    let grammar : Grammar := ⟨[⟨"S", [⟨"a", ["S"]⟩, ⟨"b", []⟩]⟩, ⟨"A", [⟨"S", []⟩]⟩], ["a"], "S"⟩
    (empty.applyAll calls).1.build = .ok grammar ∧
      (grammar.alternatives "S").map (·.symbols) = [["a", "S"], ["b"]] ∧
      (Ledger.empty.applyAll calls).1.build = .ok grammar.answers := by
  intro calls grammar
  have built : (empty.applyAll calls).1.build = .ok grammar := by decide
  obtain ⟨-, -, -, -, alternatives, -, -, answers⟩ := build_exact built
  exact ⟨built, alternatives "S", answers⟩

end Draft

end Descent
