import Descent.Grammar.Draft
import Descent.Proofs.Distinct
import Descent.Proofs.Except

/-!
# Declared names

In a draft each name is declared once and as one kind, whatever was asked for.

A grammar is read from a text in passes, so there is a time when all names are declared and no
alternative was added.  The draft at this time is known from the names alone (`Draft.ofNames`),
and production lines that are added to it go to the rules of their left-hand sides
(`Draft.extend`).  Every draft that reading a text comes to is of this form.  Of drafts that other
calls lead to, `Draft.Consistent` is what is known.
-/

namespace Descent

variable {draft next : Draft} {kind : Kind} {name left : Symbol} {names : List Symbol}

namespace Draft

/-- A name that is declared is added if it is new, and else has the kind already. -/
theorem declare_eq_ok_iff : draft.declare kind name = .ok next ↔
    draft.kind? name = none ∧ next = draft.insert kind name ∨
      draft.kind? name = some kind ∧ next = draft := by
  unfold declare
  cases found : draft.kind? name with
  | none => simp [eq_comm]
  | some other =>
    by_cases same : other = kind
    · simp [same, eq_comm]
    · simp [same]

end Draft

/-! ### Names alone -/

namespace Draft

variable {nonterminals terminals : List Symbol}

/-- The draft in which some names are declared, each where it comes first. -/
def ofNames (nonterminals terminals : List Symbol) : Draft :=
  { rules := nonterminals.eraseDups.map (⟨·, []⟩), terminals := terminals.eraseDups }

theorem map_name_rules_ofNames :
    (ofNames nonterminals terminals).rules.map (·.name) = nonterminals.eraseDups := by
  rw [ofNames, List.map_map]
  exact List.map_id _

theorem kind?_ofNames_eq_none_iff :
    (ofNames nonterminals terminals).kind? name = none ↔
      name ∉ nonterminals ∧ name ∉ terminals := by
  rw [kind?, Kind.of?_eq_none_iff, map_name_rules_ofNames, List.mem_eraseDups]
  exact and_congr_right fun _ => not_congr List.mem_eraseDups

theorem kind?_ofNames_eq_nonterminal_iff :
    (ofNames nonterminals terminals).kind? name = some .nonterminal ↔ name ∈ nonterminals := by
  rw [kind?, Kind.of?_eq_nonterminal_iff, map_name_rules_ofNames, List.mem_eraseDups]

theorem kind?_ofNames_eq_terminal_iff :
    (ofNames nonterminals terminals).kind? name = some .terminal ↔
      name ∉ nonterminals ∧ name ∈ terminals := by
  rw [kind?, Kind.of?_eq_terminal_iff, map_name_rules_ofNames, List.mem_eraseDups]
  exact and_congr_right fun _ => List.mem_eraseDups

/-- Names can be declared in two goes. -/
theorem declareAll_append_eq_ok_iff {more : List Symbol} :
    draft.declareAll kind (names ++ more) = .ok next ↔
      ∃ middle, draft.declareAll kind names = .ok middle ∧
        middle.declareAll kind more = .ok next := by
  induction names generalizing draft with
  | nil => simp [Draft.declareAll]
  | cons name names ih =>
    refine Except.bind_eq_ok_iff.trans ?_
    constructor
    · rintro ⟨first, declared, both⟩
      obtain ⟨middle, others, rest⟩ := ih.mp both
      exact ⟨middle, Except.bind_eq_ok_iff.mpr ⟨first, declared, others⟩, rest⟩
    · rintro ⟨middle, both, rest⟩
      obtain ⟨first, declared, others⟩ := Except.bind_eq_ok_iff.mp both
      exact ⟨first, declared, ih.mpr ⟨middle, others, rest⟩⟩

/-- Names can be declared as nonterminals where there is no terminal. -/
theorem declareAll_nonterminal (names : List Symbol) :
    (ofNames nonterminals []).declareAll .nonterminal names =
      .ok (ofNames (nonterminals ++ names) []) := by
  induction names generalizing nonterminals with
  | nil => rw [List.append_nil, Draft.declareAll]
  | cons name names ih =>
    refine Except.bind_eq_ok_iff.mpr ⟨ofNames (nonterminals ++ [name]) [], ?_, ?_⟩
    · rw [declare_eq_ok_iff, kind?_ofNames_eq_none_iff, kind?_ofNames_eq_nonterminal_iff]
      by_cases known : name ∈ nonterminals
      · exact .inr ⟨known, by rw [ofNames, eraseDups_concat, if_pos known, ofNames]⟩
      · refine .inl ⟨⟨known, List.not_mem_nil⟩, ?_⟩
        rw [ofNames, eraseDups_concat, if_neg known, List.map_append, ofNames, Draft.insert]
        rfl
    · rw [ih, List.append_assoc, List.singleton_append]

/-- A name can be declared as a terminal exactly if it is no nonterminal. -/
theorem declare_terminal_eq_ok_iff :
    (ofNames nonterminals terminals).declare .terminal name = .ok next ↔
      name ∉ nonterminals ∧ next = ofNames nonterminals (terminals ++ [name]) := by
  rw [declare_eq_ok_iff, kind?_ofNames_eq_none_iff, kind?_ofNames_eq_terminal_iff]
  by_cases known : name ∈ terminals
  · have same : ofNames nonterminals (terminals ++ [name]) = ofNames nonterminals terminals := by
      rw [ofNames, eraseDups_concat, if_pos known, ofNames]
    simp [known, same]
  · have added : ofNames nonterminals (terminals ++ [name]) =
        (ofNames nonterminals terminals).insert .terminal name := by
      rw [ofNames, eraseDups_concat, if_neg known, ofNames, Draft.insert]
    simp [known, added]

/-- **Names can be declared as terminals** exactly if none of them is a nonterminal. -/
theorem declareAll_terminal_eq_ok_iff :
    (ofNames nonterminals terminals).declareAll .terminal names = .ok next ↔
      (∀ name ∈ names, name ∉ nonterminals) ∧ next = ofNames nonterminals (terminals ++ names) := by
  induction names generalizing terminals with
  | nil =>
    rw [List.append_nil, Draft.declareAll, Except.ok.injEq]
    simp [eq_comm]
  | cons name names ih =>
    refine Except.bind_eq_ok_iff.trans ?_
    simp only [declare_terminal_eq_ok_iff, and_assoc, exists_and_left, exists_eq_left, ih,
      List.forall_mem_cons, List.append_assoc, List.singleton_append]

end Draft

/-! ### Adding alternatives -/

/-- The rule with the alternatives that some lines give its nonterminal added. -/
def Rule.extend (rule : Rule) (lines : List Rule) : Rule :=
  { rule with
    alternatives := rule.alternatives ++
      (lines.filter (·.name == rule.name)).flatMap (·.alternatives) }

theorem Rule.extend_singleton (rule line : Rule) :
    rule.extend [line] =
      if rule.name = line.name then
        { rule with alternatives := rule.alternatives ++ line.alternatives }
      else rule := by
  split
  · rename_i same
    simp [Rule.extend, same]
  · rename_i other
    simp [Rule.extend, Ne.symm other]

theorem Rule.extend_append (rule : Rule) (lines more : List Rule) :
    rule.extend (lines ++ more) = (rule.extend lines).extend more := by
  simp [Rule.extend]

namespace Draft

/-- The draft with the alternatives of some lines added. -/
def extend (draft : Draft) (lines : List Rule) : Draft :=
  { draft with rules := draft.rules.map (·.extend lines) }

theorem extend_of_alternatives_eq_nil {lines : List Rule}
    (h : ∀ line ∈ lines, line.alternatives = []) : draft.extend lines = draft := by
  have same : ∀ rule : Rule, rule.extend lines = rule := by
    intro rule
    have none : (lines.filter (·.name == rule.name)).flatMap (·.alternatives) = [] :=
      List.flatMap_eq_nil_iff.mpr fun line mem => h line (List.mem_filter.mp mem).1
    rw [Rule.extend, none, List.append_nil]
  simp [extend, same]

theorem extend_append (draft : Draft) (lines more : List Rule) :
    draft.extend (lines ++ more) = (draft.extend lines).extend more := by
  simp [extend, Rule.extend_append]

theorem map_name_rules_extend (lines : List Rule) :
    (draft.extend lines).rules.map (·.name) = draft.rules.map (·.name) := by
  rw [extend, List.map_map]
  rfl

/-- Alternatives of bare names come from the lines that were added. -/
theorem exists_of_mem_extend_ofNames {nonterminals terminals : List Symbol} {lines : List Rule}
    {rule : Rule} {production : Production}
    (h : rule ∈ ((ofNames nonterminals terminals).extend lines).rules)
    (mem : production ∈ rule.alternatives) :
    ∃ line ∈ lines, line.name = rule.name ∧ production ∈ line.alternatives := by
  obtain ⟨bare, inside, rfl⟩ := List.mem_map.mp h
  obtain ⟨name, -, rfl⟩ := List.mem_map.mp inside
  obtain ⟨line, among, mem⟩ := List.mem_flatMap.mp mem
  obtain ⟨listed, same⟩ := List.mem_filter.mp among
  exact ⟨line, listed, beq_iff_eq.mp same, mem⟩

@[simp] theorem kind?_extend (lines : List Rule) : (draft.extend lines).kind? = draft.kind? := by
  funext symbol
  simp [kind?, Kind.of?, extend, Rule.extend, Function.comp_def]

/-- The alternatives of a line can be added one after another. -/
theorem extend_cons_alternatives (production : Production) (productions : List Production) :
    draft.extend [⟨left, production :: productions⟩] =
      (draft.extend [⟨left, [production]⟩]).extend [⟨left, productions⟩] := by
  simp only [extend, List.map_map]
  refine congrArg (fun rules => { draft with rules }) (List.map_congr_left fun rule _ => ?_)
  simp only [Function.comp, Rule.extend_singleton]
  split <;> simp_all

/-- An alternative is added where the left-hand side is declared and there is a symbol. -/
theorem addAlternative_eq_ok_iff {symbols : List Symbol} :
    draft.addAlternative left symbols = .ok next ↔
      draft.kind? left = some .nonterminal ∧ ∃ production : Production,
        symbols = production.symbols ∧ next = draft.extend [⟨left, [production]⟩] := by
  unfold addAlternative
  split
  · rename_i declared
    cases symbols with
    | nil =>
      constructor
      · intro added
        cases added
      · rintro ⟨-, production, empty, -⟩
        cases empty
    | cons first rest =>
      simp only [Production.ofSymbols?, Except.ok.injEq, declared, true_and, extend,
        Rule.extend_singleton]
      constructor
      · rintro rfl
        exact ⟨⟨first, rest⟩, rfl, rfl⟩
      · rintro ⟨production, same, rfl⟩
        cases same
        rfl
  · rename_i undeclared
    constructor
    · intro added
      cases added
    · intro h
      exact absurd h.1 undeclared

/-- Alternatives are added to nonterminals only. -/
theorem kind?_of_addAlternatives {symbols : List Symbol} {others : List (List Symbol)}
    (added : draft.addAlternatives left (symbols :: others) = .ok next) :
    draft.kind? left = some .nonterminal := by
  obtain ⟨middle, first, -⟩ := Except.bind_eq_ok_iff.mp added
  exact (addAlternative_eq_ok_iff.mp first).1

/-- **Alternatives are added** to a nonterminal where none of them is empty. -/
theorem addAlternatives_eq_ok_iff {list : List (List Symbol)}
    (declared : draft.kind? left = some .nonterminal) :
    draft.addAlternatives left list = .ok next ↔ ∃ productions : List Production,
      list = productions.map (·.symbols) ∧ next = draft.extend [⟨left, productions⟩] := by
  induction list generalizing draft with
  | nil =>
    have none : draft.extend [⟨left, []⟩] = draft := extend_of_alternatives_eq_nil (by simp)
    rw [addAlternatives, Except.ok.injEq]
    constructor
    · rintro rfl
      exact ⟨[], rfl, none.symm⟩
    · rintro ⟨productions, empty, rfl⟩
      obtain rfl := List.map_eq_nil_iff.mp empty.symm
      exact none.symm
  | cons symbols others ih =>
    refine Except.bind_eq_ok_iff.trans ?_
    constructor
    · rintro ⟨middle, first, more⟩
      obtain ⟨-, production, rfl, rfl⟩ := addAlternative_eq_ok_iff.mp first
      obtain ⟨productions, rfl, rfl⟩ := (ih (by rwa [kind?_extend])).mp more
      exact ⟨production :: productions, rfl, (extend_cons_alternatives _ _).symm⟩
    · rintro ⟨productions, spelled, rfl⟩
      obtain ⟨production, productions, rfl, rfl, rfl⟩ := List.map_eq_cons_iff.mp spelled.symm
      refine ⟨_, addAlternative_eq_ok_iff.mpr ⟨declared, production, rfl, rfl⟩, ?_⟩
      exact (ih (by rwa [kind?_extend])).mpr ⟨productions, rfl, extend_cons_alternatives _ _⟩

/-! ### Consistent drafts -/

/-- The names that are declared as nonterminals. -/
def nonterminals (draft : Draft) : List Symbol := draft.rules.map (·.name)

/-- Each name is declared once and as one kind. -/
def Consistent (draft : Draft) : Prop := (draft.nonterminals ++ draft.terminals).Nodup

theorem Consistent.insert (h : draft.Consistent) (new : draft.kind? name = none) :
    (draft.insert kind name).Consistent := by
  obtain ⟨other, another⟩ := Kind.of?_eq_none_iff.mp new
  unfold Consistent nonterminals at h ⊢
  cases kind with
  | nonterminal =>
    -- The new name comes to stand before the terminals.
    have moved : (draft.rules.map (·.name) ++ [name] ++ draft.terminals).Perm
        (name :: (draft.rules.map (·.name) ++ draft.terminals)) := by
      rw [List.append_assoc, List.singleton_append]
      exact List.perm_middle
    simp only [Draft.insert, List.map_append, List.map_cons, List.map_nil]
    rw [moved.nodup_iff, List.nodup_cons]
    exact ⟨by simpa using ⟨by simpa using other, another⟩, h⟩
  | terminal =>
    simp only [Draft.insert]
    rw [← List.append_assoc, List.nodup_append']
    exact ⟨h, List.nodup_singleton name, by simpa using ⟨by simpa using other, another⟩⟩

theorem Consistent.declare (h : draft.Consistent) (declared : draft.declare kind name = .ok next) :
    next.Consistent := by
  rcases declare_eq_ok_iff.mp declared with ⟨new, rfl⟩ | ⟨-, rfl⟩
  · exact h.insert new
  · exact h

theorem Consistent.declareAll (h : draft.Consistent)
    (declared : draft.declareAll kind names = .ok next) : next.Consistent := by
  induction names generalizing draft with
  | nil =>
    cases declared
    exact h
  | cons name names ih =>
    obtain ⟨middle, first, others⟩ := Except.bind_eq_ok_iff.mp declared
    exact ih (h.declare first) others

theorem Consistent.addAlternative {symbols : List Symbol} (h : draft.Consistent)
    (added : draft.addAlternative left symbols = .ok next) : next.Consistent := by
  obtain ⟨-, production, -, rfl⟩ := addAlternative_eq_ok_iff.mp added
  rw [Consistent, nonterminals, map_name_rules_extend]
  exact h

/-- **Calls keep a draft consistent.** -/
theorem Consistent.applyAll (h : draft.Consistent) (calls : List Call) :
    (draft.applyAll calls).1.Consistent := by
  induction calls generalizing draft with
  | nil => exact h
  | cons call calls ih =>
    rw [Draft.applyAll]
    split
    · rename_i next applied
      refine ih ?_
      cases call with
      | declare kind name => exact h.declare applied
      | declareAll kind names => exact h.declareAll applied
      | addAlternative left symbols => exact h.addAlternative applied
      | setStart name =>
        cases applied
        exact h
    · exact ih h

theorem Consistent.of_build {grammar : Grammar} (h : draft.Consistent)
    (built : draft.build = .ok grammar) : (grammar.nonterminals ++ grammar.terminals).Nodup := by
  unfold build at built
  split at built
  · cases built
  · cases built
    exact h

end Draft

end Descent
