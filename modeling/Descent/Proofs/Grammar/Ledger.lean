import Mathlib
import Descent.Proofs.Grammar.Declared

/-!
# Ledgers

A draft says each fact once.  A ledger says the same facts more often, so that each question has a
store of its own to answer it: two lists with the names of either kind, a table from names to
kinds, and a table from nonterminals to alternatives.  Calls write to these stores one at a time,
and nothing but the calls keeps them from saying different things.

A ledger in which the stores fit together is another form of a draft.  Calls succeed and fail on
both alike, and what they lead to answers alike, so that it makes no difference which of the two a
program keeps.
-/

namespace Descent

open Draft (Call)

variable {kind : Kind} {name left symbol : Symbol}

/-- What can be asked of a grammar. -/
@[ext] structure Grammar.Answers where
  /-- The nonterminals, in the order of declaration. -/
  nonterminals : List Symbol
  /-- The terminals, in the order of declaration. -/
  terminals : List Symbol
  /-- Whether a symbol is declared, and as what. -/
  kind? : Symbol → Option Kind
  /-- The alternatives of a symbol. -/
  alternatives : Symbol → List Production
  /-- All productions with their left-hand sides. -/
  productions : List (Symbol × Production)
  /-- The number of productions. -/
  productionCount : Nat
  /-- The symbol from which derivations start. -/
  start : Symbol

/-- What a grammar answers. -/
def Grammar.answers (grammar : Grammar) : Grammar.Answers where
  nonterminals := grammar.nonterminals
  terminals := grammar.terminals
  kind? := grammar.kind?
  alternatives := grammar.alternatives
  productions := grammar.productions
  productionCount := grammar.productionCount
  start := grammar.start

/-- What is declared so far, with a store for each question. -/
structure Ledger where
  /-- The nonterminals, in the order of declaration. -/
  nonterminals : List Symbol := []
  /-- The terminals, in the order of declaration. -/
  terminals : List Symbol := []
  /-- The kinds of names. -/
  kinds : AList fun _ : Symbol => Kind := ∅
  /-- The alternatives of the nonterminals that have some. -/
  productions : AList fun _ : Symbol => List Production := ∅
  /-- The start symbol, once it is given. -/
  start : Option Symbol := none

namespace Ledger

variable {ledger next : Ledger}

/-! ### Calls -/

/-- The ledger in which nothing is declared. -/
def empty : Ledger := {}

/-- The ledger with a name added that is not declared in it. -/
def insert (ledger : Ledger) (kind : Kind) (name : Symbol) : Ledger :=
  match kind with
  | .nonterminal => { ledger with
      nonterminals := ledger.nonterminals ++ [name], kinds := ledger.kinds.insert name kind }
  | .terminal => { ledger with
      terminals := ledger.terminals ++ [name], kinds := ledger.kinds.insert name kind }

/-- Declares a name.  Declaring it again with the same kind changes nothing. -/
def declare (ledger : Ledger) (kind : Kind) (name : Symbol) : Except GrammarError Ledger :=
  match ledger.kinds.lookup name with
  | none => .ok (ledger.insert kind name)
  | some declared => if declared = kind then .ok ledger else .error (.bothKinds name)

/-- Declares names one after another, up to the first that fails. -/
def declareAll (ledger : Ledger) (kind : Kind) : List Symbol → Except GrammarError Ledger
  | [] => .ok ledger
  | name :: names => do
    let ledger ← ledger.declare kind name
    ledger.declareAll kind names

/-- The alternatives of a symbol.  A symbol that is not in the table has none. -/
def alternatives (ledger : Ledger) (symbol : Symbol) : List Production :=
  (ledger.productions.lookup symbol).getD []

/-- Adds an alternative after those that its left-hand side has. -/
def addAlternative (ledger : Ledger) (left : Symbol) (symbols : List Symbol) :
    Except GrammarError Ledger :=
  if ledger.kinds.lookup left = some .nonterminal then
    match Production.ofSymbols? symbols with
    | none => .error (.emptyAlternative left)
    | some production => .ok { ledger with
        productions := ledger.productions.insert left (ledger.alternatives left ++ [production]) }
  else .error (.unknownLeftSide left)

/-- What a call makes of a ledger. -/
def apply (ledger : Ledger) : Call → Except GrammarError Ledger
  | .declare kind name => ledger.declare kind name
  | .declareAll kind names => ledger.declareAll kind names
  | .addAlternative left symbols => ledger.addAlternative left symbols
  | .setStart name => .ok { ledger with start := some name }

/-- The ledger after some calls, and the error of each that failed.  A call that fails leaves the
ledger as it was. -/
def applyAll (ledger : Ledger) : List Call → Ledger × List (Option GrammarError)
  | [] => (ledger, [])
  | call :: calls =>
    match ledger.apply call with
    | .ok next =>
      let (final, errors) := next.applyAll calls
      (final, none :: errors)
    | .error error =>
      let (final, errors) := ledger.applyAll calls
      (final, some error :: errors)

/-- What a ledger answers, once there is a start symbol.  Productions are listed by nonterminal,
and counted by going through the table. -/
def build (ledger : Ledger) : Except GrammarError Grammar.Answers :=
  match ledger.start with
  | none => .error .startMissing
  | some start => .ok {
      nonterminals := ledger.nonterminals
      terminals := ledger.terminals
      kind? := ledger.kinds.lookup
      alternatives := ledger.alternatives
      productions :=
        ledger.nonterminals.flatMap fun name => (ledger.alternatives name).map (name, ·)
      productionCount := (ledger.productions.entries.map (·.2.length)).sum
      start := start }

/-! ### Stores that fit together -/

/-- The list of the names of a kind. -/
def listed (ledger : Ledger) : Kind → List Symbol
  | .nonterminal => ledger.nonterminals
  | .terminal => ledger.terminals

/-- The stores of a ledger fit together. -/
structure Sound (ledger : Ledger) : Prop where
  /-- Each name is declared once and as one kind. -/
  distinct : (ledger.nonterminals ++ ledger.terminals).Nodup
  /-- The lists hold the names that the first table gives as of their kind. -/
  declared : ∀ kind name, ledger.kinds.lookup name = some kind ↔ name ∈ ledger.listed kind
  /-- The second table is about nonterminals. -/
  left : ∀ name ∈ ledger.productions, name ∈ ledger.nonterminals

theorem Sound.empty : Ledger.empty.Sound where
  distinct := List.nodup_nil
  declared kind _ := by cases kind <;> exact iff_of_false nofun List.not_mem_nil
  left _ mem := nomatch mem

theorem Sound.lookup_eq_none_iff (h : ledger.Sound) :
    ledger.kinds.lookup name = none ↔ name ∉ ledger.nonterminals ∧ name ∉ ledger.terminals := by
  have nonterminal := h.declared .nonterminal name
  have terminal := h.declared .terminal name
  cases found : ledger.kinds.lookup name with
  | none => simp_all [listed]
  | some kind => cases kind <;> simp_all [listed]

theorem listed_insert {other : Kind} :
    (ledger.insert kind name).listed other =
      if other = kind then ledger.listed other ++ [name] else ledger.listed other := by
  cases kind <;> cases other <;> rfl

theorem kinds_insert : (ledger.insert kind name).kinds = ledger.kinds.insert name kind := by
  cases kind <;> rfl

theorem productions_insert : (ledger.insert kind name).productions = ledger.productions := by
  cases kind <;> rfl

/-- A new name can be added. -/
theorem Sound.insert (h : ledger.Sound) (new : ledger.kinds.lookup name = none) :
    (ledger.insert kind name).Sound := by
  obtain ⟨other, another⟩ := h.lookup_eq_none_iff.mp new
  refine ⟨?_, fun kind' name' => ?_, fun name' mem => ?_⟩
  · have fresh : (name :: (ledger.nonterminals ++ ledger.terminals)).Nodup :=
      List.nodup_cons.mpr ⟨by simp [other, another], h.distinct⟩
    cases kind with
    | nonterminal =>
      show (ledger.nonterminals ++ [name] ++ ledger.terminals).Nodup
      rwa [List.append_assoc, List.singleton_append, List.nodup_middle]
    | terminal =>
      show (ledger.nonterminals ++ (ledger.terminals ++ [name])).Nodup
      rwa [← List.append_assoc, List.nodup_middle, List.append_nil]
  · rw [kinds_insert, listed_insert]
    by_cases same : name' = name
    · subst same
      have absent : name' ∉ ledger.listed kind' := by cases kind' <;> assumption
      rw [AList.lookup_insert]
      split <;> simp_all [eq_comm]
    · rw [AList.lookup_insert_ne same, h.declared]
      split <;> simp [same]
  · rw [productions_insert] at mem
    have known := h.left name' mem
    cases kind with
    | nonterminal => exact List.mem_append_left _ known
    | terminal => exact known

/-! ### Drafts of ledgers -/

/-- The draft that a ledger is a form of. -/
def draft (ledger : Ledger) : Draft where
  rules := ledger.nonterminals.map fun name => ⟨name, ledger.alternatives name⟩
  terminals := ledger.terminals
  start := ledger.start

theorem map_name_rules_draft (ledger : Ledger) :
    ledger.draft.rules.map (·.name) = ledger.nonterminals := by
  rw [draft, List.map_map]
  exact List.map_id _

theorem Sound.kind?_draft (h : ledger.Sound) (name : Symbol) :
    ledger.draft.kind? name = ledger.kinds.lookup name := by
  cases found : ledger.kinds.lookup name with
  | none =>
    rw [Draft.kind?, Kind.of?_eq_none_iff, map_name_rules_draft]
    exact h.lookup_eq_none_iff.mp found
  | some kind =>
    have mem := (h.declared kind name).mp found
    cases kind with
    | nonterminal =>
      rw [Draft.kind?, Kind.of?_eq_nonterminal_iff, map_name_rules_draft]
      exact mem
    | terminal =>
      rw [Draft.kind?, Kind.of?_eq_terminal_iff, map_name_rules_draft]
      exact ⟨fun other => List.disjoint_of_nodup_append h.distinct other mem, mem⟩

/-- A symbol that is no nonterminal has no alternatives. -/
theorem Sound.alternatives_eq_nil (h : ledger.Sound) (absent : name ∉ ledger.nonterminals) :
    ledger.alternatives name = [] := by
  rw [alternatives, AList.lookup_eq_none.mpr fun mem => absent (h.left name mem), Option.getD_none]

theorem Sound.draft_insert (h : ledger.Sound) (new : ledger.kinds.lookup name = none) :
    (ledger.insert kind name).draft = ledger.draft.insert kind name := by
  cases kind with
  | nonterminal =>
    have none : ledger.alternatives name = [] :=
      h.alternatives_eq_nil (h.lookup_eq_none_iff.mp new).1
    have last : (ledger.nonterminals ++ [name]).map
        (fun name => Rule.mk name (ledger.alternatives name)) =
        ledger.draft.rules ++ [⟨name, []⟩] := by
      rw [List.map_append, List.map_singleton, none]
      rfl
    exact congrArg (Draft.mk · ledger.terminals ledger.start) last
  | terminal => rfl

theorem Sound.draft_declare (h : ledger.Sound) (kind : Kind) (name : Symbol) :
    ledger.draft.declare kind name = (ledger.declare kind name).map draft := by
  rw [Draft.declare, h.kind?_draft, declare]
  cases found : ledger.kinds.lookup name with
  | none => exact congrArg Except.ok (h.draft_insert found).symm
  | some other =>
    dsimp only
    split <;> rfl

theorem Sound.declare (h : ledger.Sound) (done : ledger.declare kind name = .ok next) :
    next.Sound := by
  unfold Ledger.declare at done
  split at done
  · rename_i new
    cases done
    exact h.insert new
  · split at done
    · cases done
      exact h
    · cases done

/-- Declaring names does the same to both. -/
theorem Sound.declareAll (h : ledger.Sound) (kind : Kind) (names : List Symbol) :
    ledger.draft.declareAll kind names = (ledger.declareAll kind names).map draft ∧
      ∀ next, ledger.declareAll kind names = .ok next → next.Sound := by
  induction names generalizing ledger with
  | nil =>
    refine ⟨rfl, fun next done => ?_⟩
    cases done
    exact h
  | cons name names ih =>
    rw [Draft.declareAll, h.draft_declare, Ledger.declareAll]
    cases done : ledger.declare kind name with
    | error cause =>
      refine ⟨rfl, fun next failed => ?_⟩
      cases failed
    | ok middle => exact ih (h.declare done)

theorem alternatives_insert {productions : List Production} :
    alternatives { ledger with productions := ledger.productions.insert left productions } symbol =
      if symbol = left then productions else ledger.alternatives symbol := by
  unfold alternatives
  split
  · rename_i same
    rw [same, AList.lookup_insert, Option.getD_some]
  · rename_i other
    rw [AList.lookup_insert_ne other]

/-- Adding an alternative does the same to both. -/
theorem Sound.addAlternative (h : ledger.Sound) (left : Symbol) (symbols : List Symbol) :
    ledger.draft.addAlternative left symbols = (ledger.addAlternative left symbols).map draft ∧
      ∀ next, ledger.addAlternative left symbols = .ok next → next.Sound := by
  rw [Draft.addAlternative, h.kind?_draft, Ledger.addAlternative]
  split
  · rename_i known
    cases Production.ofSymbols? symbols with
    | none =>
      refine ⟨rfl, fun next failed => ?_⟩
      cases failed
    | some production =>
      refine ⟨congrArg Except.ok ?_, fun next done => ?_⟩
      · refine congrArg (Draft.mk · ledger.terminals ledger.start) ?_
        rw [draft, List.map_map]
        refine List.map_congr_left fun name _ => ?_
        rw [alternatives_insert]
        dsimp only [Function.comp]
        split <;> simp_all
      · cases done
        refine ⟨h.distinct, fun kind name => ?_, fun name mem => ?_⟩
        · exact h.declared kind name
        · rcases (AList.mem_insert _).mp mem with rfl | mem
          · exact (h.declared .nonterminal name).mp known
          · exact h.left name mem
  · refine ⟨rfl, fun next failed => ?_⟩
    cases failed

/-- **A call does to a draft what it does to the ledger**, and the stores go on to fit together. -/
theorem Sound.apply (h : ledger.Sound) (call : Call) :
    ledger.draft.apply call = (ledger.apply call).map draft ∧
      ∀ next, ledger.apply call = .ok next → next.Sound := by
  cases call with
  | declare kind name =>
    exact ⟨h.draft_declare kind name, fun next done => h.declare done⟩
  | declareAll kind names => exact h.declareAll kind names
  | addAlternative left symbols => exact h.addAlternative left symbols
  | setStart name =>
    refine ⟨rfl, fun next done => ?_⟩
    cases done
    exact ⟨h.distinct, h.declared, h.left⟩

/-- **Calls do to a draft what they do to the ledger.** -/
theorem Sound.applyAll (h : ledger.Sound) (calls : List Call) :
    ledger.draft.applyAll calls =
        ((ledger.applyAll calls).1.draft, (ledger.applyAll calls).2) ∧
      (ledger.applyAll calls).1.Sound := by
  induction calls generalizing ledger with
  | nil => exact ⟨rfl, h⟩
  | cons call calls ih =>
    obtain ⟨same, sound⟩ := h.apply call
    rw [Draft.applyAll, same, Ledger.applyAll]
    cases done : ledger.apply call with
    | ok next =>
      obtain ⟨others, kept⟩ := ih (sound next done)
      refine ⟨?_, kept⟩
      simp only [Except.map, others]
    | error cause =>
      obtain ⟨others, kept⟩ := ih h
      refine ⟨?_, kept⟩
      simp only [Except.map, others]

end Ledger

end Descent
