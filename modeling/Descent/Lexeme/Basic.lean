import Descent.Report.Diagnostic

/-!
# Lexemes

The smallest parts of a source that mean something.  A grammar knows less of them than their
characters: it sees a reserved lexeme as itself, and any identifier or constant as one of two
symbols.  The characters of these are found again through the symbol table.
-/

namespace Descent

/-- What a lexeme is. -/
inductive LexemeKind where
  /-- A keyword, operator or separator of the vocabulary. -/
  | reserved
  /-- A name. -/
  | identifier
  /-- A number. -/
  | constant
deriving DecidableEq, Repr

namespace LexemeKind

/-- The kind in words. -/
def name : LexemeKind → String
  | .reserved => "reserved token"
  | .identifier => "identifier"
  | .constant => "constant"

/-- Whether lexemes of this kind are kept in the symbol table. -/
def isSymbol : LexemeKind → Bool
  | .reserved => false
  | .identifier | .constant => true

end LexemeKind

/-- A part of a source that means something. -/
structure Lexeme where
  /-- What it is. -/
  kind : LexemeKind
  /-- Its characters. -/
  body : String
  /-- The stretch of the source that it takes up. -/
  span : Span
deriving DecidableEq, Repr

/-- The grammar symbol that a lexeme stands for. -/
def Lexeme.terminal (lexeme : Lexeme) : String :=
  match lexeme.kind with
  | .reserved => lexeme.body
  | .identifier => "identifier"
  | .constant => "number"

/-- Why there is no lexeme, or no vocabulary. -/
inductive LexicalError where
  /-- Characters that are no lexeme. -/
  | unknownLexeme (span : Span) (body : String)
  /-- A lexeme was asked for at the end. -/
  | unexpectedEnd (place : Caret)
  /-- A line of a vocabulary holds more than one word. -/
  | vocabularyBlank (line : Nat)
deriving DecidableEq, Repr

namespace LexicalError

/-- The error in words. -/
def message : LexicalError → String
  | .unknownLexeme _ body => "unknown lexeme '" ++ body ++ "'"
  | .unexpectedEnd _ => "unexpected end of input"
  | .vocabularyBlank line => s!"vocabulary line {line + 1} has whitespace inside a token"

/-- The stretch of the source that the error is about. -/
def span : LexicalError → Span
  | .unknownLexeme span _ => span
  | .unexpectedEnd place => Span.point place
  | .vocabularyBlank line => Span.point (Caret.lineStart line)

/-- The lines that explain the error further. -/
def notes : LexicalError → List String
  | .unknownLexeme _ _ => ["it is not an identifier, a constant, or in the vocabulary"]
  | _ => []

/-- The message to the reader of a report. -/
def diagnostic (error : LexicalError) : Report.Diagnostic :=
  { text := error.message
    span := some error.span
    notes := error.notes }

end LexicalError

end Descent
