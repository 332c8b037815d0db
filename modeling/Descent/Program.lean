import Descent.Lexeme.Reading
import Descent.SymbolTable

/-!
# Programs as terminals

What a search sees of a program: the terminals that its lexemes stand for, the places of these,
and the positions of names in the symbol table.  A scan puts the names of all lexemes into the
table and only then asks whether there were errors, so names are kept even where there is no
program.
-/

namespace Descent

/-- A lexeme as a search sees it. -/
structure ProgramEntry where
  /-- The grammar symbol. -/
  terminal : String
  /-- Where an identifier or a constant stands in the symbol table. -/
  position : Option Position
  /-- The stretch of the source that the lexeme takes up. -/
  span : Span
deriving DecidableEq, Repr

/-- The lexemes of a program, as a search sees them. -/
abbrev Program := List ProgramEntry

namespace Program

/-- The grammar symbols. -/
def terminals (program : Program) : List String := program.map (·.terminal)

/-- A line for each entry: the terminal, and the position if there is one. -/
def render (program : Program) : String :=
  String.join <| program.map fun entry =>
    match entry.position with
    | none => s!"{entry.terminal}\n"
    | some position => s!"{entry.terminal} {position.render}\n"

end Program

/-- The entry of a lexeme, and the symbol table with its name. -/
def recordLexeme (table : SymbolTable) (lexeme : Lexeme) : SymbolTable × ProgramEntry :=
  if lexeme.kind.isSymbol then
    let (table, position) := table.insert lexeme.body
    (table, ⟨lexeme.terminal, some position, lexeme.span⟩)
  else (table, ⟨lexeme.terminal, none, lexeme.span⟩)

/-- The entries of some lexemes, and the symbol table with their names. -/
def record (table : SymbolTable) : List Lexeme → SymbolTable × Program
  | [] => (table, [])
  | lexeme :: lexemes =>
    let (table, entry) := recordLexeme table lexeme
    let (table, program) := record table lexemes
    (table, entry :: program)

/-- The lexemes among some results. -/
def lexemesOf (results : List (Except LexicalError Lexeme)) : List Lexeme :=
  results.filterMap Except.toOption

/-- The errors among some results. -/
def errorsOf (results : List (Except LexicalError Lexeme)) : List LexicalError :=
  results.filterMap fun
    | .error error => some error
    | .ok _ => none

variable [Text.Alphabet] in
/-- The program of a text, or all its errors, and the symbol table with the names of its
lexemes.  There is no result if the text has no last lexeme. -/
def scan (vocabulary : Vocabulary) (text : String) (table : SymbolTable) :
    Option (Except (List LexicalError) Program × SymbolTable) := do
  let reading := Reading.ofText text
  let results ← reading.all vocabulary reading.rest.length
  let (table, program) := record table (lexemesOf results)
  match errorsOf results with
  | [] => return (.ok program, table)
  | errors => return (.error errors, table)

end Descent
