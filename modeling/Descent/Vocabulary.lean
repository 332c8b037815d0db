import Descent.Span

/-!
# Vocabularies

The reserved lexemes of a language: its keywords, operators and separators.  They are kept sorted
by code points, each once, so that two vocabularies with the same lexemes are equal and list them
alike.

A vocabulary that is built lexeme by lexeme may hold the empty lexeme, which every text starts
with, or one with a blank in it.  A text with one lexeme a line is checked for that, so a loaded
vocabulary holds neither.
-/

namespace Descent

/-- The reserved lexemes of a language. -/
structure Vocabulary where
  /-- The lexemes in increasing order. -/
  lexemes : List String
deriving DecidableEq, Repr

namespace Vocabulary

/-- Puts a lexeme in its place among sorted ones, unless it is there. -/
def insertSorted (lexeme : String) : List String → List String
  | [] => [lexeme]
  | other :: others =>
    if lexeme = other then other :: others
    else if lexeme < other then lexeme :: other :: others
    else other :: insertSorted lexeme others

/-- The vocabulary without lexemes. -/
def empty : Vocabulary := ⟨[]⟩

/-- The vocabulary with one more lexeme. -/
def insert (vocabulary : Vocabulary) (lexeme : String) : Vocabulary :=
  ⟨insertSorted lexeme vocabulary.lexemes⟩

/-- The vocabulary of some lexemes, which are taken as they are. -/
def ofList (lexemes : List String) : Vocabulary :=
  lexemes.foldl insert empty

/-- Whether a lexeme is reserved. -/
def contains (vocabulary : Vocabulary) (lexeme : String) : Bool :=
  vocabulary.lexemes.contains lexeme

/-- The number of lexemes. -/
def size (vocabulary : Vocabulary) : Nat := vocabulary.lexemes.length

/-- Whether there are no lexemes. -/
def isEmpty (vocabulary : Vocabulary) : Bool := vocabulary.lexemes.isEmpty

/-- The longest of some texts. -/
def longest? : List String → Option String
  | [] => none
  | text :: texts =>
    match longest? texts with
    | none => some text
    | some other => if text.length < other.length then some other else some text

/-- The longest reserved lexeme that a text starts with. -/
def longestStart? (vocabulary : Vocabulary) (text : List Char) : Option String :=
  longest? (vocabulary.lexemes.filter fun lexeme => lexeme.toList.isPrefixOf text)

/-! ### Text form -/

/-- Reads lines, the first of which has the given number.  Blank lines are skipped; the number
of the first line with more than one word is the error. -/
def readLines (vocabulary : Vocabulary) (number : Nat) :
    List (List Char) → Except Nat Vocabulary
  | [] => .ok vocabulary
  | line :: rest =>
    match Text.words line with
    | [] => vocabulary.readLines (number + 1) rest
    | [word] => (vocabulary.insert (String.ofList word)).readLines (number + 1) rest
    | _ => .error number

/-- The vocabulary of a text, or the number of the line that holds more than one word. -/
def load (text : String) : Except Nat Vocabulary :=
  empty.readLines 0 (Text.lines text.toList)

/-! ### Members -/

theorem mem_insertSorted {lexeme other : String} {lexemes : List String} :
    other ∈ insertSorted lexeme lexemes ↔ other = lexeme ∨ other ∈ lexemes := by
  induction lexemes with
  | nil => simp [insertSorted]
  | cons first rest ih =>
    rw [insertSorted]
    split
    · simp_all
    · split
      · simp
      · simp [ih, or_left_comm]

@[simp] theorem mem_insert {vocabulary : Vocabulary} {lexeme other : String} :
    other ∈ (vocabulary.insert lexeme).lexemes ↔ other = lexeme ∨ other ∈ vocabulary.lexemes :=
  mem_insertSorted

end Vocabulary

end Descent
