import Descent.Grammar.Basic

/-!
# Derivations

What a grammar derives, said without any search.  There are two forms of it.  `Grammar.Derives`
replaces symbols anywhere in a line; `Grammar.LeftDerives` is a leftmost derivation, given by the
numbers of the alternatives that it takes, which is how a search sees it.

A token has the same name as the terminal that it is, and may have the name of a nonterminal as
well.  It is no terminal then, so `Grammar.Generates` asks for terminals, while `Grammar.Derives`
relates lines of any symbols.
-/

namespace Descent.Grammar

/-- One step of a derivation: a symbol gives way to one of its alternatives. -/
inductive Produces (grammar : Grammar) : List Symbol → List Symbol → Prop where
  /-- The symbols before and after it stay. -/
  | replace (before after : List Symbol) {symbol : Symbol} {production : Production}
      (h : production ∈ grammar.alternatives symbol) :
      Produces grammar (before ++ symbol :: after) (before ++ production.symbols ++ after)

/-- Any number of steps of a derivation. -/
inductive Derives (grammar : Grammar) (form : List Symbol) : List Symbol → Prop where
  /-- No step. -/
  | refl : Derives grammar form form
  /-- One step more. -/
  | tail {middle last : List Symbol} (h : Derives grammar form middle)
      (step : grammar.Produces middle last) : Derives grammar form last

/-- The start symbol derives the tokens, and they are terminals. -/
def Generates (grammar : Grammar) (tokens : List Symbol) : Prop :=
  grammar.Derives [grammar.start] tokens ∧ ∀ token ∈ tokens, grammar.isTerminal token

/-- A leftmost derivation of tokens.  `choices` holds the number of the alternative taken in each
step, counted from one. -/
inductive LeftDerives (grammar : Grammar) : List Symbol → List Nat → List Symbol → Prop where
  /-- Nothing is left to derive. -/
  | done : LeftDerives grammar [] [] []
  /-- A terminal derives itself. -/
  | terminal {token : Symbol} {form tokens : List Symbol} {choices : List Nat}
      (h : grammar.isTerminal token) (others : LeftDerives grammar form choices tokens) :
      LeftDerives grammar (token :: form) choices (token :: tokens)
  /-- A nonterminal derives what one of its alternatives does. -/
  | nonterminal {symbol : Symbol} {form tokens : List Symbol} {choices : List Nat}
      {index : Nat} {production : Production}
      (h : (grammar.alternatives symbol)[index]? = some production)
      (others : LeftDerives grammar (production.symbols ++ form) choices tokens) :
      LeftDerives grammar (symbol :: form) ((index + 1) :: choices) tokens

variable {grammar : Grammar}

/-! ### Composing derivations -/

theorem Derives.trans {first middle last : List Symbol} (h : grammar.Derives first middle)
    (k : grammar.Derives middle last) : grammar.Derives first last := by
  induction k with
  | refl => exact h
  | tail _ step ih => exact .tail ih step

/-- A step can be taken within a longer line. -/
theorem Produces.within {form last : List Symbol} (h : grammar.Produces form last)
    (before after : List Symbol) :
    grammar.Produces (before ++ form ++ after) (before ++ last ++ after) := by
  cases h with
  | replace inner outer mem =>
    simpa using Produces.replace (before ++ inner) (outer ++ after) mem

/-- A derivation can be made within a longer line. -/
theorem Derives.within {form last : List Symbol} (h : grammar.Derives form last)
    (before after : List Symbol) :
    grammar.Derives (before ++ form ++ after) (before ++ last ++ after) := by
  induction h with
  | refl => exact .refl
  | tail _ step ih => exact .tail ih (step.within before after)

/-- What is derived leftmost is derived. -/
theorem LeftDerives.derives {form tokens : List Symbol} {choices : List Nat}
    (h : grammar.LeftDerives form choices tokens) : grammar.Derives form tokens := by
  induction h with
  | done => exact .refl
  | @terminal token _ _ _ _ _ ih => simpa using ih.within [token] []
  | @nonterminal _ form _ _ _ _ h _ ih =>
    have step := Produces.replace [] form (List.mem_of_getElem? h)
    exact Derives.trans (.tail .refl step) ih

/-- What is derived leftmost is made of terminals. -/
theorem LeftDerives.isTerminal {form tokens : List Symbol} {choices : List Nat}
    (h : grammar.LeftDerives form choices tokens) : ∀ token ∈ tokens, grammar.isTerminal token := by
  induction h with
  | done => simp
  | terminal h _ ih => simpa using ⟨h, ih⟩
  | nonterminal _ _ ih => exact ih

end Descent.Grammar
