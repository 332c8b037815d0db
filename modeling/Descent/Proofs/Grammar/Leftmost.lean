import Descent.Grammar.Derivation

/-!
# Leftmost derivations

A search only ever looks for leftmost derivations.  Nothing is lost by that: tokens that are
derived at all are derived leftmost.

A derivation is taken from its end.  Its tokens derive themselves, which is leftmost, and each
step before them is put in front of a leftmost derivation, where it is delayed until its symbol
comes up.  This can be done because leftmost derivations of a line are pairs of those of its two
parts (`Grammar.LeftDerives.append`, `Grammar.LeftDerives.exists_of_append`).
-/

namespace Descent.Grammar

variable {grammar : Grammar}

/-! ### Kinds of symbols -/

/-- Only nonterminals have alternatives. -/
theorem isNonterminal_of_mem_alternatives {symbol : Symbol} {production : Production}
    (h : production ∈ grammar.alternatives symbol) : grammar.isNonterminal symbol := by
  unfold alternatives at h
  cases found : grammar.rules.find? (·.name == symbol) with
  | none => simp [found] at h
  | some rule =>
    have named := List.find?_some found
    have declared : grammar.rules.any (·.name == symbol) :=
      List.any_eq_true.mpr ⟨rule, List.mem_of_find?_eq_some found, named⟩
    simp [isNonterminal, kind?, Kind.of?, declared]

theorem isNonterminal_of_alternatives_getElem? {symbol : Symbol} {production : Production}
    {index : Nat} (h : (grammar.alternatives symbol)[index]? = some production) :
    grammar.isNonterminal symbol :=
  isNonterminal_of_mem_alternatives (List.mem_of_getElem? h)

theorem isNonterminal_iff {symbol : Symbol} :
    grammar.isNonterminal symbol ↔ grammar.kind? symbol = some .nonterminal :=
  beq_iff_eq

theorem isTerminal_iff {symbol : Symbol} :
    grammar.isTerminal symbol ↔ grammar.kind? symbol = some .terminal :=
  beq_iff_eq

/-- A symbol is of one kind at most. -/
theorem not_isNonterminal_of_isTerminal {symbol : Symbol} (h : grammar.isTerminal symbol) :
    ¬ grammar.isNonterminal symbol := by
  intro nonterminal
  rw [isNonterminal_iff, isTerminal_iff.mp h] at nonterminal
  cases nonterminal

/-- A terminal has no alternatives. -/
theorem alternatives_eq_nil_of_isTerminal {symbol : Symbol} (h : grammar.isTerminal symbol) :
    grammar.alternatives symbol = [] := by
  refine List.eq_nil_iff_forall_not_mem.mpr fun production mem => ?_
  exact not_isNonterminal_of_isTerminal h (isNonterminal_of_mem_alternatives mem)

/-! ### How leftmost derivations start -/

@[simp] theorem leftDerives_nil_iff {choices : List Nat} {tokens : List Symbol} :
    grammar.LeftDerives [] choices tokens ↔ choices = [] ∧ tokens = [] := by
  constructor
  · rintro ⟨⟩
    exact ⟨rfl, rfl⟩
  · rintro ⟨rfl, rfl⟩
    exact .done

/-- A line that starts with a terminal derives tokens that start with it. -/
theorem leftDerives_cons_terminal_iff {symbol : Symbol} {form tokens : List Symbol}
    {choices : List Nat} (h : grammar.isTerminal symbol) :
    grammar.LeftDerives (symbol :: form) choices tokens ↔
      ∃ others, tokens = symbol :: others ∧ grammar.LeftDerives form choices others := by
  constructor
  · rintro ⟨⟩
    case terminal others _ derived => exact ⟨others, rfl, derived⟩
    case nonterminal chosen _ =>
      rw [alternatives_eq_nil_of_isTerminal h] at chosen
      simp at chosen
  · rintro ⟨others, rfl, derived⟩
    exact .terminal h derived

/-- A line that starts with a nonterminal derives what it does with one of the alternatives in
place of the nonterminal. -/
theorem leftDerives_cons_nonterminal_iff {symbol : Symbol} {form tokens : List Symbol}
    {choices : List Nat} (h : grammar.isNonterminal symbol) :
    grammar.LeftDerives (symbol :: form) choices tokens ↔
      ∃ index production others, choices = (index + 1) :: others ∧
        (grammar.alternatives symbol)[index]? = some production ∧
        grammar.LeftDerives (production.symbols ++ form) others tokens := by
  constructor
  · rintro ⟨⟩
    case terminal terminal _ => exact absurd h (not_isNonterminal_of_isTerminal terminal)
    case nonterminal others index production chosen derived =>
      exact ⟨index, production, others, rfl, chosen, derived⟩
  · rintro ⟨index, production, others, rfl, chosen, derived⟩
    exact .nonterminal chosen derived

/-! ### Lines in two parts -/

/-- Derivations of two lines, one after the other. -/
theorem LeftDerives.append {form form' tokens tokens' : List Symbol} {choices choices' : List Nat}
    (h : grammar.LeftDerives form choices tokens)
    (h' : grammar.LeftDerives form' choices' tokens') :
    grammar.LeftDerives (form ++ form') (choices ++ choices') (tokens ++ tokens') := by
  induction h with
  | done => exact h'
  | terminal terminal _ ih => exact .terminal terminal ih
  | nonterminal chosen _ ih =>
    rw [List.cons_append, List.cons_append]
    refine .nonterminal chosen ?_
    rwa [← List.append_assoc]

/-- A derivation of a line in two parts derives each of them. -/
theorem LeftDerives.exists_of_append {form form' tokens : List Symbol} {choices : List Nat}
    (h : grammar.LeftDerives (form ++ form') choices tokens) :
    ∃ choices₁ choices₂ tokens₁ tokens₂, choices = choices₁ ++ choices₂ ∧
      tokens = tokens₁ ++ tokens₂ ∧ grammar.LeftDerives form choices₁ tokens₁ ∧
      grammar.LeftDerives form' choices₂ tokens₂ := by
  -- The induction is on the derivation, so the line that it starts from is an index of its own.
  generalize line : form ++ form' = whole at h
  induction h generalizing form with
  | done =>
    obtain ⟨rfl, rfl⟩ := List.append_eq_nil_iff.mp line
    exact ⟨[], [], [], [], rfl, rfl, .done, .done⟩
  | @terminal token rest tokens choices terminal derived ih =>
    cases form with
    | nil =>
      obtain rfl : form' = token :: rest := line
      exact ⟨[], choices, [], token :: tokens, rfl, rfl, .done, .terminal terminal derived⟩
    | cons symbol form =>
      rw [List.cons_append, List.cons.injEq] at line
      obtain ⟨rfl, line⟩ := line
      obtain ⟨choices₁, choices₂, tokens₁, tokens₂, rfl, rfl, first, second⟩ := ih line
      exact ⟨choices₁, choices₂, symbol :: tokens₁, tokens₂, rfl, rfl, .terminal terminal first,
        second⟩
  | @nonterminal left rest tokens choices index production chosen derived ih =>
    cases form with
    | nil =>
      obtain rfl : form' = left :: rest := line
      exact ⟨[], (index + 1) :: choices, [], tokens, rfl, rfl, .done, .nonterminal chosen derived⟩
    | cons symbol form =>
      rw [List.cons_append, List.cons.injEq] at line
      obtain ⟨rfl, rfl⟩ := line
      obtain ⟨choices₁, choices₂, tokens₁, tokens₂, rfl, rfl, first, second⟩ :=
        @ih (production.symbols ++ form) (by rw [List.append_assoc])
      exact ⟨(index + 1) :: choices₁, choices₂, tokens₁, tokens₂, rfl, rfl,
        .nonterminal chosen first, second⟩

/-! ### Every derivation can be made leftmost -/

/-- Terminals derive themselves. -/
theorem LeftDerives.of_forall_isTerminal {tokens : List Symbol}
    (h : ∀ token ∈ tokens, grammar.isTerminal token) : grammar.LeftDerives tokens [] tokens := by
  induction tokens with
  | nil => exact .done
  | cons token tokens ih =>
    exact .terminal (h token List.mem_cons_self)
      (ih fun other mem => h other (List.mem_cons_of_mem token mem))

/-- A step of any derivation can be put in front of a leftmost one, where it is delayed until
its symbol comes up. -/
theorem Produces.exists_leftDerives {form middle tokens : List Symbol} {choices : List Nat}
    (step : grammar.Produces form middle) (h : grammar.LeftDerives middle choices tokens) :
    ∃ choices', grammar.LeftDerives form choices' tokens := by
  obtain ⟨before, after, mem⟩ := step
  obtain ⟨index, chosen⟩ := List.getElem?_of_mem mem
  rw [List.append_assoc] at h
  obtain ⟨choices₁, choices₂, tokens₁, tokens₂, -, rfl, first, second⟩ := h.exists_of_append
  exact ⟨_, first.append (.nonterminal chosen second)⟩

/-- What derives terminals in any order derives them leftmost. -/
theorem Derives.exists_leftDerives {form tokens : List Symbol} (h : grammar.Derives form tokens)
    (terminals : ∀ token ∈ tokens, grammar.isTerminal token) :
    ∃ choices, grammar.LeftDerives form choices tokens := by
  -- The last step comes first in the induction, so that a leftmost derivation is there to extend.
  suffices ∀ {middle}, grammar.Derives form middle →
      (∃ choices, grammar.LeftDerives middle choices tokens) →
      ∃ choices, grammar.LeftDerives form choices tokens from
    this h ⟨[], .of_forall_isTerminal terminals⟩
  intro middle derived
  induction derived with
  | refl => exact id
  | tail _ step ih =>
    rintro ⟨choices, leftmost⟩
    exact ih (step.exists_leftDerives leftmost)

/-- The tokens that a grammar generates are those with a leftmost derivation from its start
symbol. -/
theorem generates_iff_exists_leftDerives {tokens : List Symbol} :
    grammar.Generates tokens ↔
      ∃ choices, grammar.LeftDerives [grammar.start] choices tokens := by
  constructor
  · rintro ⟨derived, terminals⟩
    exact derived.exists_leftDerives terminals
  · rintro ⟨choices, leftmost⟩
    exact ⟨leftmost.derives, leftmost.isTerminal⟩

end Descent.Grammar
