import Descent.Lexeme.Basic
import Descent.Text.Alphabet
import Descent.Vocabulary

/-!
# Reading lexemes

A source is read from left to right.  Blanks are skipped.  A word is the longest run of characters
that words are made of, and its kind depends on the whole of it.  Anything else is the longest
lexeme of the vocabulary that stands there, or else a single unknown character.  The two never
compete: a lexeme of the vocabulary is looked for as a prefix only where no word starts.

## How many lexemes there are

`Reading.all` is given a number of lexemes to read at most.  Each lexeme takes up a character or
more unless the vocabulary holds the empty lexeme; the empty lexeme, once read, is read again for
ever.  So as many lexemes as there are characters are always enough, or no number is.
-/

namespace Descent

variable [Text.Alphabet]

/-- What is left of a source. -/
structure Reading where
  /-- The caret before what is left. -/
  caret : Caret
  /-- The characters that are left. -/
  rest : List Char
deriving DecidableEq, Repr

namespace Vocabulary

/-- The kind of a word, if it is a lexeme at all. -/
def wordKind? (vocabulary : Vocabulary) (word : List Char) : Option LexemeKind :=
  if vocabulary.contains (String.ofList word) then some .reserved
  else if word.all Char.isDigit then some .constant
  else if word.head?.any Text.isIdentifierStart then some .identifier
  else none

/-- The characters of the lexeme at the head of a text, and its kind if it has one. -/
def headKind (vocabulary : Vocabulary) : List Char → List Char × Option LexemeKind
  | [] => ([], none)
  | c :: rest =>
    if Text.isWordPart c then
      let word := (c :: rest).takeWhile Text.isWordPart
      (word, vocabulary.wordKind? word)
    else
      match vocabulary.longestStart? (c :: rest) with
      | some lexeme => (lexeme.toList, some .reserved)
      | none => ([c], none)

end Vocabulary

namespace Reading

/-- The reading after some characters of the rest. -/
def past (reading : Reading) (body : List Char) : Reading :=
  ⟨reading.caret.after body, reading.rest.drop body.length⟩

/-- The reading after the blanks at the head of the rest. -/
def skipBlanks (reading : Reading) : Reading :=
  reading.past (reading.rest.takeWhile Text.isBlank)

/-- The reading of a whole text, with the blanks at its head skipped. -/
def ofText (text : String) : Reading :=
  skipBlanks ⟨Caret.start, text.toList⟩

/-- Whether nothing is left. -/
def isAtEnd (reading : Reading) : Bool := reading.rest.isEmpty

/-- The lexeme at the head of the rest, or the error there, and the reading after it and the
blanks that follow.  Characters that are no lexeme are passed as well. -/
def next (vocabulary : Vocabulary) (reading : Reading) :
    Except LexicalError Lexeme × Reading :=
  let reading := reading.skipBlanks
  if reading.isAtEnd then (.error (.unexpectedEnd reading.caret), reading)
  else
    let (body, kind) := vocabulary.headKind reading.rest
    let after := reading.past body
    let span := Span.between reading.caret after.caret
    let result :=
      match kind with
      | some kind => .ok ⟨kind, String.ofList body, span⟩
      | none => .error (.unknownLexeme span (String.ofList body))
    (result, after.skipBlanks)

/-- The lexemes and errors up to the end, if there are at most `limit` of them. -/
def all (vocabulary : Vocabulary) (reading : Reading) (limit : Nat) :
    Option (List (Except LexicalError Lexeme)) :=
  if reading.isAtEnd then some []
  else
    match limit with
    | 0 => none
    | limit + 1 =>
      let (result, after) := reading.next vocabulary
      (after.all vocabulary limit).map (result :: ·)
termination_by structural limit

end Reading

end Descent
