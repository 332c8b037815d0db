import Descent.Grammar.Basic
import Descent.Grammar.Flaw

/-!
# Drafts

A draft is a grammar under construction: names are declared and alternatives added one call at a
time, and each call is checked on the spot.  A draft becomes a grammar when there is a start
symbol.  Nothing asks then whether the grammar is of any use, or whether the start symbol is
declared at all; that is for `Grammar.problems` to say.

Each call can fail by itself, and leaves the draft as it was when it does.  Declaring several
names is one call, which declares all of them or none.  So a sequence of calls has an answer for
each of them, and what comes of it can be said of the calls that succeeded alone.
-/

namespace Descent

/-- A grammar under construction. -/
structure Draft where
  /-- The nonterminals declared so far, with their alternatives. -/
  rules : List Rule := []
  /-- The terminals declared so far. -/
  terminals : List Symbol := []
  /-- The start symbol, once it is given. -/
  start : Option Symbol := none
deriving DecidableEq, Repr

namespace Draft

/-- The draft in which nothing is declared. -/
def empty : Draft := {}

/-- Whether a symbol is declared, and as what. -/
def kind? (draft : Draft) (symbol : Symbol) : Option Kind :=
  Kind.of? draft.rules draft.terminals symbol

/-- The draft with a name added that is not declared in it. -/
def insert (draft : Draft) (kind : Kind) (name : Symbol) : Draft :=
  match kind with
  | .nonterminal => { draft with rules := draft.rules ++ [⟨name, []⟩] }
  | .terminal => { draft with terminals := draft.terminals ++ [name] }

/-- Declares a name.  Declaring it again with the same kind changes nothing. -/
def declare (draft : Draft) (kind : Kind) (name : Symbol) : Except GrammarError Draft :=
  match draft.kind? name with
  | none => .ok (draft.insert kind name)
  | some declared => if declared = kind then .ok draft else .error (.bothKinds name)

/-- Declares names one after another, up to the first that fails. -/
def declareAll (draft : Draft) (kind : Kind) : List Symbol → Except GrammarError Draft
  | [] => .ok draft
  | name :: names => do
    let draft ← draft.declare kind name
    draft.declareAll kind names

/-- Adds an alternative after those that its left-hand side has.  The left-hand side has to be
declared; the symbols of the alternative need not be. -/
def addAlternative (draft : Draft) (left : Symbol) (symbols : List Symbol) :
    Except GrammarError Draft :=
  if draft.kind? left = some .nonterminal then
    match Production.ofSymbols? symbols with
    | none => .error (.emptyAlternative left)
    | some production =>
      .ok { draft with
        rules := draft.rules.map fun rule =>
          if rule.name = left then
            { rule with alternatives := rule.alternatives ++ [production] }
          else rule }
  else .error (.unknownLeftSide left)

/-- Adds alternatives of one left-hand side, up to the first that fails. -/
def addAlternatives (draft : Draft) (left : Symbol) :
    List (List Symbol) → Except GrammarError Draft
  | [] => .ok draft
  | symbols :: others => do
    let draft ← draft.addAlternative left symbols
    draft.addAlternatives left others

/-- Sets the start symbol, in place of one that was set before. -/
def withStart (draft : Draft) (start : Symbol) : Draft :=
  { draft with start := some start }

/-- The grammar of the draft. -/
def build (draft : Draft) : Except GrammarError Grammar :=
  match draft.start with
  | none => .error .startMissing
  | some start => .ok ⟨draft.rules, draft.terminals, start⟩

/-! ### Sequences of calls -/

/-- One addition to a draft. -/
inductive Call where
  /-- Declare a name. -/
  | declare (kind : Kind) (name : Symbol)
  /-- Declare several names: all of them, or none if one fails. -/
  | declareAll (kind : Kind) (names : List Symbol)
  /-- Add an alternative. -/
  | addAlternative (left : Symbol) (symbols : List Symbol)
  /-- Set the start symbol. -/
  | setStart (name : Symbol)
deriving DecidableEq, Repr

/-- What a call makes of a draft. -/
def apply (draft : Draft) : Call → Except GrammarError Draft
  | .declare kind name => draft.declare kind name
  | .declareAll kind names => draft.declareAll kind names
  | .addAlternative left symbols => draft.addAlternative left symbols
  | .setStart name => .ok (draft.withStart name)

/-- The draft after some calls, and the error of each that failed.  A call that fails leaves
the draft as it was. -/
def applyAll (draft : Draft) : List Call → Draft × List (Option GrammarError)
  | [] => (draft, [])
  | call :: calls =>
    match draft.apply call with
    | .ok next =>
      let (final, errors) := next.applyAll calls
      (final, none :: errors)
    | .error error =>
      let (final, errors) := draft.applyAll calls
      (final, some error :: errors)

/-- There is one answer for each call. -/
theorem length_applyAll (draft : Draft) (calls : List Call) :
    (draft.applyAll calls).2.length = calls.length := by
  induction calls generalizing draft with
  | nil => rfl
  | cons call calls ih =>
    rw [applyAll]
    split <;> simp [ih]

end Draft

end Descent
