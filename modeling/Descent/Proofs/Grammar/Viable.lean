import Descent.Proofs.Grammar.Language

/-!
# Beginnings of derivable lines

A leftmost derivation can be stopped before it is complete: it has then derived some tokens, and
symbols are left that it has not come to.  The tokens that are derived in this way are those with
which a derivable line can begin, in whatever order the line was derived.

`Grammar.LeftReads` is such a derivation, with what is left as a parameter.  It may stop anywhere,
also before a nonterminal that could be replaced, so derivations that were stopped earlier are
among those that a search has to account for.  `Grammar.Viable` says the same with derivations of
any kind.
-/

namespace Descent.Grammar

/-- A leftmost derivation that was stopped: it derives the line `tokens ++ rest` from `form`, and
nothing in `rest` was replaced any more.  `choices` holds the numbers of the alternatives, as for
`LeftDerives`. -/
inductive LeftReads (grammar : Grammar) :
    (form : List Symbol) → (choices : List Nat) → (tokens rest : List Symbol) → Prop where
  /-- The derivation stops here. -/
  | stop (form : List Symbol) : LeftReads grammar form [] [] form
  /-- A terminal derives itself. -/
  | terminal {token : Symbol} {form tokens rest : List Symbol} {choices : List Nat}
      (h : grammar.isTerminal token) (others : LeftReads grammar form choices tokens rest) :
      LeftReads grammar (token :: form) choices (token :: tokens) rest
  /-- A nonterminal gives way to one of its alternatives. -/
  | nonterminal {symbol : Symbol} {form tokens rest : List Symbol} {choices : List Nat}
      {index : Nat} {production : Production}
      (h : (grammar.alternatives symbol)[index]? = some production)
      (others : LeftReads grammar (production.symbols ++ form) choices tokens rest) :
      LeftReads grammar (symbol :: form) ((index + 1) :: choices) tokens rest

/-- The tokens begin a line that can be derived from the start symbol.  They are terminals of the
line, also where a nonterminal has the same name. -/
def Viable (grammar : Grammar) (tokens : List Symbol) : Prop :=
  ∃ rest, grammar.toContextFree.Derives [.nonterminal grammar.start]
    (tokens.map .terminal ++ rest)

variable {grammar : Grammar} {form form' tokens tokens' rest : List Symbol}
  {choices choices' : List Nat} {symbol : Symbol}

/-! ### What is derived -/

theorem LeftReads.derives (h : grammar.LeftReads form choices tokens rest) :
    grammar.Derives form (tokens ++ rest) := by
  induction h with
  | stop => exact .refl
  | @terminal token _ _ _ _ _ _ ih => simpa using ih.within [token] []
  | @nonterminal _ form _ _ _ _ _ chosen _ ih =>
    have step := Produces.replace [] form (List.mem_of_getElem? chosen)
    exact Derives.trans (.tail .refl step) ih

theorem LeftReads.isTerminal (h : grammar.LeftReads form choices tokens rest) :
    ∀ token ∈ tokens, grammar.isTerminal token := by
  induction h with
  | stop => simp
  | terminal kind _ ih => exact List.forall_mem_cons.mpr ⟨kind, ih⟩
  | nonterminal _ _ ih => exact ih

/-- A complete leftmost derivation has nothing left. -/
theorem LeftDerives.leftReads (h : grammar.LeftDerives form choices tokens) :
    grammar.LeftReads form choices tokens [] := by
  induction h with
  | done => exact .stop []
  | terminal kind _ ih => exact .terminal kind ih
  | nonterminal chosen _ ih => exact .nonterminal chosen ih

/-! ### How derivations start -/

theorem leftReads_cons_terminal_iff {token : Symbol} (h : grammar.isTerminal symbol) :
    grammar.LeftReads (symbol :: form) choices (token :: tokens) rest ↔
      token = symbol ∧ grammar.LeftReads form choices tokens rest := by
  constructor
  · rintro ⟨⟩
    case terminal others => exact ⟨rfl, others⟩
    case nonterminal chosen _ =>
      rw [alternatives_eq_nil_of_isTerminal h] at chosen
      simp at chosen
  · rintro ⟨rfl, others⟩
    exact .terminal h others

/-- Before a terminal is derived no alternative is taken. -/
theorem choices_eq_nil_of_leftReads (h : grammar.isTerminal symbol)
    (reads : grammar.LeftReads (symbol :: form) choices [] rest) : choices = [] := by
  cases reads with
  | stop => rfl
  | nonterminal chosen _ =>
    rw [alternatives_eq_nil_of_isTerminal h] at chosen
    simp at chosen

theorem leftReads_cons_nonterminal_iff {number : Nat} (h : grammar.isNonterminal symbol) :
    grammar.LeftReads (symbol :: form) (number :: choices) tokens rest ↔
      ∃ index production, number = index + 1 ∧
        (grammar.alternatives symbol)[index]? = some production ∧
        grammar.LeftReads (production.symbols ++ form) choices tokens rest := by
  constructor
  · rintro ⟨⟩
    case terminal kind _ => exact absurd h (not_isNonterminal_of_isTerminal kind)
    case nonterminal index production chosen others =>
      exact ⟨index, production, rfl, chosen, others⟩
  · rintro ⟨index, production, rfl, chosen, others⟩
    exact .nonterminal chosen others

/-- Without an alternative being taken, a nonterminal is where a derivation stops. -/
theorem leftReads_cons_nonterminal_nil_iff (h : grammar.isNonterminal symbol) :
    grammar.LeftReads (symbol :: form) [] tokens rest ↔ tokens = [] ∧ rest = symbol :: form := by
  constructor
  · rintro ⟨⟩
    case stop => exact ⟨rfl, rfl⟩
    case terminal kind _ => exact absurd h (not_isNonterminal_of_isTerminal kind)
  · rintro ⟨rfl, rfl⟩
    exact .stop _

/-! ### How derivations go on -/

/-- The next terminal can be derived as well. -/
theorem LeftReads.concat_terminal (h : grammar.LeftReads form choices tokens (symbol :: rest))
    (kind : grammar.isTerminal symbol) :
    grammar.LeftReads form choices (tokens ++ [symbol]) rest := by
  generalize line : symbol :: rest = left at h
  induction h with
  | stop form =>
    rw [← line]
    exact .terminal kind (.stop rest)
  | terminal kind _ ih => exact .terminal kind (ih line)
  | nonterminal chosen _ ih => exact .nonterminal chosen (ih line)

/-- The next nonterminal can be replaced. -/
theorem LeftReads.concat_nonterminal {index : Nat} {production : Production}
    (h : grammar.LeftReads form choices tokens (symbol :: rest))
    (chosen : (grammar.alternatives symbol)[index]? = some production) :
    grammar.LeftReads form (choices ++ [index + 1]) tokens (production.symbols ++ rest) := by
  generalize line : symbol :: rest = left at h
  induction h with
  | stop form =>
    rw [← line]
    exact .nonterminal chosen (.stop _)
  | terminal kind _ ih => exact .terminal kind (ih line)
  | nonterminal earlier _ ih => exact .nonterminal earlier (ih line)

/-- A derivation can be stopped before its last token. -/
theorem LeftReads.exists_of_concat
    (h : grammar.LeftReads form choices (tokens ++ [symbol]) rest) :
    ∃ choices' rest', grammar.LeftReads form choices' tokens (symbol :: rest') := by
  generalize line : tokens ++ [symbol] = all at h
  induction h generalizing tokens with
  | stop => simp at line
  | @terminal token form _ _ _ kind _ ih =>
    cases tokens with
    | nil =>
      obtain ⟨rfl, -⟩ := List.cons.inj line
      exact ⟨[], form, .stop _⟩
    | cons first tokens =>
      rw [List.cons_append, List.cons.injEq] at line
      obtain ⟨rfl, line⟩ := line
      obtain ⟨choices', rest', earlier⟩ := ih line
      exact ⟨choices', rest', .terminal kind earlier⟩
  | @nonterminal _ _ _ _ _ index _ chosen _ ih =>
    obtain ⟨choices', rest', earlier⟩ := ih line
    exact ⟨(index + 1) :: choices', rest', .nonterminal chosen earlier⟩

/-! ### Lines in two parts -/

/-- What stands behind a line stays behind what is left of it. -/
theorem LeftReads.append_rest (h : grammar.LeftReads form choices tokens rest)
    (behind : List Symbol) :
    grammar.LeftReads (form ++ behind) choices tokens (rest ++ behind) := by
  induction h with
  | stop form => exact .stop (form ++ behind)
  | terminal kind _ ih => exact .terminal kind ih
  | nonterminal chosen _ ih =>
    rw [List.cons_append]
    refine .nonterminal chosen ?_
    rwa [← List.append_assoc]

/-- A complete derivation of one line, and then one of another line. -/
theorem LeftReads.append (h : grammar.LeftReads form choices tokens [])
    (h' : grammar.LeftReads form' choices' tokens' rest) :
    grammar.LeftReads (form ++ form') (choices ++ choices') (tokens ++ tokens') rest := by
  generalize line : ([] : List Symbol) = left at h
  induction h with
  | stop =>
    rw [← line]
    exact h'
  | terminal kind _ ih => exact .terminal kind (ih line)
  | nonterminal chosen _ ih =>
    rw [List.cons_append, List.cons_append]
    refine .nonterminal chosen ?_
    rw [← List.append_assoc]
    exact ih line

/-- A derivation of a line in two parts stops in the first one, or completes it and goes on in the
second one. -/
theorem LeftReads.exists_of_append (h : grammar.LeftReads (form ++ form') choices tokens rest) :
    (∃ left, rest = left ++ form' ∧ grammar.LeftReads form choices tokens left) ∨
      ∃ choices₁ choices₂ tokens₁ tokens₂, tokens = tokens₁ ++ tokens₂ ∧
        grammar.LeftReads form choices₁ tokens₁ [] ∧
        grammar.LeftReads form' choices₂ tokens₂ rest := by
  -- The induction is on the derivation, so the line that it starts from is an index of its own.
  generalize line : form ++ form' = whole at h
  induction h generalizing form with
  | stop => exact .inl ⟨form, line.symm, .stop form⟩
  | @terminal token others tokens rest choices kind derived ih =>
    cases form with
    | nil =>
      obtain rfl : form' = token :: others := line
      exact .inr ⟨[], choices, [], token :: tokens, rfl, .stop [], .terminal kind derived⟩
    | cons symbol form =>
      rw [List.cons_append, List.cons.injEq] at line
      obtain ⟨rfl, line⟩ := line
      rcases ih line with
        ⟨left, same, first⟩ | ⟨choices₁, choices₂, tokens₁, tokens₂, rfl, first, second⟩
      · exact .inl ⟨left, same, .terminal kind first⟩
      · exact .inr ⟨choices₁, choices₂, symbol :: tokens₁, tokens₂, rfl, .terminal kind first,
          second⟩
  | @nonterminal left others tokens rest choices index production chosen derived ih =>
    cases form with
    | nil =>
      obtain rfl : form' = left :: others := line
      exact .inr ⟨[], (index + 1) :: choices, [], tokens, rfl, .stop [],
        .nonterminal chosen derived⟩
    | cons symbol form =>
      rw [List.cons_append, List.cons.injEq] at line
      obtain ⟨rfl, rfl⟩ := line
      rcases @ih (production.symbols ++ form) (by rw [List.append_assoc]) with
        ⟨left, same, first⟩ | ⟨choices₁, choices₂, tokens₁, tokens₂, rfl, first, second⟩
      · exact .inl ⟨left, same, .nonterminal chosen first⟩
      · exact .inr ⟨(index + 1) :: choices₁, choices₂, tokens₁, tokens₂, rfl,
          .nonterminal chosen first, second⟩

/-! ### Every derivation can be made leftmost -/

theorem LeftReads.of_forall_isTerminal (h : ∀ token ∈ tokens, grammar.isTerminal token)
    (rest : List Symbol) : grammar.LeftReads (tokens ++ rest) [] tokens rest := by
  induction tokens with
  | nil => exact .stop rest
  | cons token tokens ih =>
    obtain ⟨kind, others⟩ := List.forall_mem_cons.mp h
    exact .terminal kind (ih others)

/-- A first step in front of a leftmost derivation is taken when the derivation comes to its
symbol, or not at all. -/
theorem Produces.exists_leftReads {middle : List Symbol} (step : grammar.Produces form middle)
    (h : grammar.LeftReads middle choices tokens rest) :
    ∃ choices' rest', grammar.LeftReads form choices' tokens rest' := by
  obtain ⟨before, after, mem⟩ := step
  obtain ⟨index, chosen⟩ := List.getElem?_of_mem mem
  rw [List.append_assoc] at h
  rcases h.exists_of_append with
    ⟨left, -, first⟩ | ⟨choices₁, choices₂, tokens₁, tokens₂, rfl, first, second⟩
  · exact ⟨_, _, first.append_rest _⟩
  · exact ⟨_, _, first.append (.nonterminal chosen second)⟩

/-- Tokens at the beginning of a line that is derived in any order are derived leftmost. -/
theorem Derives.exists_leftReads (h : grammar.Derives form (tokens ++ rest))
    (terminals : ∀ token ∈ tokens, grammar.isTerminal token) :
    ∃ choices rest', grammar.LeftReads form choices tokens rest' := by
  -- The last step comes first in the induction, so that a leftmost derivation is there to extend.
  suffices ∀ {middle}, grammar.Derives form middle →
      (∃ choices rest', grammar.LeftReads middle choices tokens rest') →
      ∃ choices rest', grammar.LeftReads form choices tokens rest' from
    this h ⟨[], rest, .of_forall_isTerminal terminals rest⟩
  intro middle derived
  induction derived with
  | refl => exact id
  | tail _ step ih =>
    rintro ⟨choices, rest', leftmost⟩
    exact ih (step.exists_leftReads leftmost)

/-! ### Viable tokens -/

/-- **Tokens begin a derivable line exactly if they are derived leftmost**, if nothing is missing
in the grammar. -/
theorem Usable.viable_iff_exists_leftReads (usable : grammar.Usable) :
    grammar.Viable tokens ↔
      ∃ choices rest, grammar.LeftReads [grammar.start] choices tokens rest := by
  have start : [grammar.start].map grammar.sign = [.nonterminal grammar.start] := by
    rw [List.map_singleton, sign_eq_nonterminal_iff.mpr ⟨rfl, usable.start⟩]
  rw [Viable, ← start]
  constructor
  · rintro ⟨rest, derived⟩
    obtain ⟨form, signed, named⟩ := exists_derives_of_sign derived
    obtain ⟨read, others, rfl, tokensSigned, -⟩ := List.map_eq_append_iff.mp signed.symm
    obtain ⟨rfl, kinds⟩ := eq_of_map_sign_eq tokensSigned
    have declared := usable.kind?_ne_none_of_derives named (by
      simpa using kind?_ne_none_of_isNonterminal usable.start)
    refine named.exists_leftReads fun token mem => ?_
    exact isTerminal_of_kind?_ne_none (declared token (List.mem_append_left _ mem))
      (kinds token mem)
  · rintro ⟨choices, rest, leftmost⟩
    have signed : tokens.map grammar.sign = tokens.map .terminal := by
      refine List.map_congr_left fun token mem => ?_
      exact sign_eq_terminal_iff.mpr
        ⟨rfl, not_isNonterminal_of_isTerminal (leftmost.isTerminal token mem)⟩
    refine ⟨rest.map grammar.sign, ?_⟩
    rw [← signed, ← List.map_append]
    exact leftmost.derives.sign

/-- The tokens that can follow are the terminals before which a leftmost derivation stops. -/
theorem Usable.viable_append_iff (usable : grammar.Usable) :
    grammar.Viable (tokens ++ [symbol]) ↔
      grammar.isTerminal symbol ∧
        ∃ choices rest, grammar.LeftReads [grammar.start] choices tokens (symbol :: rest) := by
  rw [usable.viable_iff_exists_leftReads]
  constructor
  · rintro ⟨choices, rest, leftmost⟩
    exact ⟨leftmost.isTerminal symbol (by simp), leftmost.exists_of_concat⟩
  · rintro ⟨kind, choices, rest, leftmost⟩
    exact ⟨choices, rest, leftmost.concat_terminal kind⟩

end Descent.Grammar
