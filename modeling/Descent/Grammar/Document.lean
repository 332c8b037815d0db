import Descent.Grammar.Draft

/-!
# Grammars as text

The text form has four sections, in any order and any number of times, each under a header.  A
production line is a nonterminal, an arrow, and alternatives with bars between them; lines with
the same left-hand side add to its alternatives.  Blank lines and lines that start with two
slashes count for nothing but the line numbers.

## Passes

Lines are told apart first.  Then nonterminals are declared, then terminals, then the start symbol
is read, then the productions, each in the order of the text.  So a name may be used above its
declaration, and of several errors the one in the earliest of these passes is reported.
-/

namespace Descent

namespace Document

/-- The sections of the text form. -/
inductive Part where
  /-- Names of nonterminals. -/
  | nonterminals
  /-- Names of terminals. -/
  | terminals
  /-- The start symbol. -/
  | start
  /-- Productions. -/
  | productions
deriving DecidableEq, Repr

/-- The section under a header. -/
def Part.ofHeader? : String → Option Part
  | "#NONTERMINALS" => some .nonterminals
  | "#TERMINALS" => some .terminals
  | "#START" => some .start
  | "#PRODUCTIONS" => some .productions
  | _ => none

/-- A line with content. -/
structure Entry where
  /-- The number of the line, counted from zero. -/
  number : Nat
  /-- The section in which it stands. -/
  part : Part
  /-- Its words. -/
  words : List String
deriving DecidableEq, Repr

/-- Whether a line without its outer blanks counts for nothing. -/
def isSkipped (line : List Char) : Bool :=
  line.isEmpty || "//".toList.isPrefixOf line

/-- The words of a line. -/
def lineWords (line : List Char) : List String :=
  (Text.words line).map String.ofList

/-- The lines with content, where `number` is the number of the first line and `current` the
section in which it stands. -/
def entriesFrom (current : Option Part) (number : Nat) :
    List (List Char) → Except LoadError (List Entry)
  | [] => .ok []
  | line :: rest =>
    let text := Text.trim line
    if isSkipped text then entriesFrom current (number + 1) rest
    else if text.head? = some '#' then
      match Part.ofHeader? (String.ofList text) with
      | none => .error ⟨some number, .unknownHeader (String.ofList text)⟩
      | some part => entriesFrom (some part) (number + 1) rest
    else
      match current with
      | none => .error ⟨some number, .contentBeforeHeader⟩
      | some part =>
        match entriesFrom current (number + 1) rest with
        | .error error => .error error
        | .ok entries => .ok (⟨number, part, lineWords line⟩ :: entries)

/-- The lines with content of a text. -/
def entries (text : String) : Except LoadError (List Entry) :=
  entriesFrom none 0 (Text.lines text.toList)

/-- The entries of one section. -/
def entriesOf (part : Part) (entries : List Entry) : List Entry :=
  entries.filter (·.part = part)

/-- Blames a line for an error. -/
def blame {α : Type} (number : Nat) : Except GrammarError α → Except LoadError α
  | .ok value => .ok value
  | .error cause => .error ⟨some number, cause⟩

/-- Goes through entries, up to the first that fails. -/
def readEach (read : Draft → List String → Except GrammarError Draft) (draft : Draft) :
    List Entry → Except LoadError Draft
  | [] => .ok draft
  | entry :: entries => do
    let draft ← blame entry.number (read draft entry.words)
    readEach read draft entries

/-- The start symbol that the entries of the start section give, where `found` is the one
that was given before. -/
def readStart (found : Option Symbol) : List Entry → Except LoadError (Option Symbol)
  | [] => .ok found
  | entry :: entries =>
    match entry.words, found with
    | [symbol], none => readStart (some symbol) entries
    | [_], some _ => .error ⟨some entry.number, .startRepeated⟩
    | _, _ => .error ⟨some entry.number, .startNotOneSymbol⟩

/-- The word between the two sides of a production. -/
def arrow : String := "->"

/-- The word between two alternatives. -/
def bar : String := "|"

/-- Adds the alternatives of a production line. -/
def readProduction (draft : Draft) (words : List String) : Except GrammarError Draft :=
  if words.contains arrow then
    match words.takeWhile (· != arrow) with
    | [left] =>
      draft.addAlternatives left
        (Text.pieces (· == bar) ((words.dropWhile (· != arrow)).drop 1))
    | _ => .error .leftSideNotOneSymbol
  else .error .arrowMissing

/-- The draft with the start symbol that was found. -/
def withFoundStart (draft : Draft) : Option Symbol → Draft
  | none => draft
  | some symbol => draft.withStart symbol

/-- The grammar that the entries of a text declare. -/
def read (entries : List Entry) : Except LoadError Grammar := do
  let draft ← readEach (·.declareAll .nonterminal) Draft.empty (entriesOf .nonterminals entries)
  let draft ← readEach (·.declareAll .terminal) draft (entriesOf .terminals entries)
  let start ← readStart none (entriesOf .start entries)
  let draft ← readEach readProduction (withFoundStart draft start)
    (entriesOf .productions entries)
  match draft.build with
  | .ok grammar => return grammar
  | .error cause => throw ⟨none, cause⟩

end Document

/-- The grammar of a text. -/
def Grammar.load (text : String) : Except LoadError Grammar := do
  let entries ← Document.entries text
  Document.read entries

end Descent
