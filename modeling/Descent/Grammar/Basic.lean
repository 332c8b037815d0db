/-!
# Context-free grammars

## Main Definitions

* `Production` — one alternative of a nonterminal, at least one symbol long
* `Rule` — a nonterminal with its alternatives in the order in which they are tried
* `Grammar` — rules, terminals and a start symbol
* `Grammar.kind?` — whether a symbol is declared, and as what
* `Grammar.render` — the grammar as text

## Design Notes

Symbols are names; which of the two kinds a name is of is a question to the grammar, not to
the name.  A declared nonterminal without alternatives is a rule with none.  Declarations
keep their order, so two grammars are equal if they declare the same names in the same order
with the same alternatives and start alike.
-/

namespace Descent

/-- The name of a terminal or a nonterminal. -/
abbrev Symbol := String

/-- One alternative of a nonterminal: a sequence of symbols that is not empty. -/
structure Production where
  /-- The leftmost symbol. -/
  first : Symbol
  /-- The symbols after it. -/
  rest : List Symbol
deriving DecidableEq, Repr

namespace Production

/-- The symbols from left to right. -/
def symbols (production : Production) : List Symbol :=
  production.first :: production.rest

/-- The production of some symbols, if there are any. -/
def ofSymbols? : List Symbol → Option Production
  | [] => none
  | first :: rest => some ⟨first, rest⟩

/-- The number of symbols. -/
def length (production : Production) : Nat := production.rest.length + 1

/-- Whether the production consists of exactly these symbols. -/
def spells (production : Production) (symbols : List Symbol) : Bool :=
  production.symbols == symbols

/-- The symbols with a space between neighbours. -/
def render (production : Production) : String := " ".intercalate production.symbols

@[simp] theorem length_symbols (production : Production) :
    production.symbols.length = production.length := rfl

/-- A production is made of symbols exactly if it consists of them. -/
theorem ofSymbols?_eq_some_iff {symbols : List Symbol} {production : Production} :
    ofSymbols? symbols = some production ↔ symbols = production.symbols := by
  cases symbols with
  | nil => simp [ofSymbols?, Production.symbols]
  | cons first rest =>
    cases production
    simp [ofSymbols?, Production.symbols]

end Production

/-- The two kinds of symbols. -/
inductive Kind where
  /-- A symbol that tokens are made of. -/
  | terminal
  /-- A symbol that has alternatives. -/
  | nonterminal
deriving DecidableEq, Repr

/-- A nonterminal with its alternatives, in the order in which they are tried. -/
structure Rule where
  /-- The nonterminal. -/
  name : Symbol
  /-- What it can be replaced by. -/
  alternatives : List Production
deriving DecidableEq, Repr

/-- Whether a symbol is declared by these rules and terminals, and as what. -/
def Kind.of? (rules : List Rule) (terminals : List Symbol) (symbol : Symbol) : Option Kind :=
  if rules.any (·.name == symbol) then some .nonterminal
  else if terminals.contains symbol then some .terminal
  else none

section

variable {rules : List Rule} {terminals : List Symbol} {name : Symbol}

theorem Kind.of?_eq_nonterminal_iff :
    Kind.of? rules terminals name = some .nonterminal ↔ name ∈ rules.map (·.name) := by
  unfold Kind.of?
  split <;> simp_all

theorem Kind.of?_eq_terminal_iff :
    Kind.of? rules terminals name = some .terminal ↔
      name ∉ rules.map (·.name) ∧ name ∈ terminals := by
  unfold Kind.of?
  split <;> simp_all

theorem Kind.of?_eq_none_iff :
    Kind.of? rules terminals name = none ↔ name ∉ rules.map (·.name) ∧ name ∉ terminals := by
  unfold Kind.of?
  split <;> simp_all

end

/-- A context-free grammar. -/
structure Grammar where
  /-- The nonterminals, in the order of declaration. -/
  rules : List Rule
  /-- The terminals, in the order of declaration. -/
  terminals : List Symbol
  /-- The symbol from which derivations start. -/
  start : Symbol
deriving DecidableEq, Repr

namespace Grammar

/-- The nonterminals, in the order of declaration. -/
def nonterminals (grammar : Grammar) : List Symbol := grammar.rules.map (·.name)

/-- Whether a symbol is declared, and as what. -/
def kind? (grammar : Grammar) (symbol : Symbol) : Option Kind :=
  Kind.of? grammar.rules grammar.terminals symbol

/-- Whether a symbol is declared as a nonterminal. -/
def isNonterminal (grammar : Grammar) (symbol : Symbol) : Bool :=
  grammar.kind? symbol == some .nonterminal

/-- Whether a symbol is declared as a terminal. -/
def isTerminal (grammar : Grammar) (symbol : Symbol) : Bool :=
  grammar.kind? symbol == some .terminal

/-- The alternatives of a symbol, in the order in which they are tried.  A symbol that is no
nonterminal has none. -/
def alternatives (grammar : Grammar) (symbol : Symbol) : List Production :=
  match grammar.rules.find? (·.name == symbol) with
  | none => []
  | some rule => rule.alternatives

/-- All productions with their left-hand sides, rule by rule. -/
def productions (grammar : Grammar) : List (Symbol × Production) :=
  grammar.rules.flatMap fun rule => rule.alternatives.map (rule.name, ·)

/-- The number of productions, counted rule by rule. -/
def productionCount (grammar : Grammar) : Nat :=
  grammar.rules.foldr (fun rule count => rule.alternatives.length + count) 0

/-- There are as many productions as are counted. -/
theorem productionCount_eq (grammar : Grammar) :
    grammar.productionCount = grammar.productions.length := by
  rw [productionCount, productions]
  induction grammar.rules with
  | nil => rfl
  | cons rule rules ih =>
    rw [List.foldr_cons, ih, List.flatMap_cons, List.length_append, List.length_map]

/-! ### Text form -/

/-- The line of a rule.  A rule without alternatives has none. -/
def ruleLine (rule : Rule) : List String :=
  if rule.alternatives.isEmpty then []
  else [rule.name ++ " -> " ++ " | ".intercalate (rule.alternatives.map (·.render))]

/-- The lines of the text form: four sections, each under its header. -/
def textLines (grammar : Grammar) : List String :=
  ["#NONTERMINALS", " ".intercalate grammar.nonterminals,
    "#TERMINALS", " ".intercalate grammar.terminals,
    "#START", grammar.start,
    "#PRODUCTIONS"] ++ grammar.rules.flatMap ruleLine

/-- The text form, each line ended by a line feed. -/
def render (grammar : Grammar) : String :=
  String.join (grammar.textLines.map (· ++ "\n"))

end Grammar

end Descent
