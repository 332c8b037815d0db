import Descent.Caret

/-!
# Spans

A span is the stretch of a text between two carets.  It carries the proof that it does not end
before it starts, so it can only be made from carets that were put in order.  A single caret has
the empty span at it, and of two spans the hull is the smallest one around both.

The words of a text are located here as well, because a place that is typed as a word, and not
read as a lexeme, has its span from nowhere else.
-/

namespace Descent

/-- The stretch of a text from `start` to `stop`. -/
structure Span where
  /-- The caret before the first character. -/
  start : Caret
  /-- The caret after the last character. -/
  stop : Caret
  /-- A span does not end before it starts. -/
  start_le_stop : start ≤ stop := by decide
deriving DecidableEq, Repr

namespace Span

/-- The span between two carets, given in any order. -/
def between (a b : Caret) : Span :=
  if h : a ≤ b then ⟨a, b, h⟩ else ⟨b, a, Caret.le_of_not_le h⟩

/-- The span of no characters at one caret. -/
def point (caret : Caret) : Span := ⟨caret, caret, Caret.le_refl caret⟩

/-- Whether the span starts and ends on the same line. -/
def isSingleLine (span : Span) : Bool := span.start.line == span.stop.line

/-- The span that covers two spans and what lies between them. -/
def hull (a b : Span) : Span :=
  between (a.start.earlier b.start) (a.stop.later b.stop)

/-- Start and end, if both can be shown. -/
def render? (span : Span) : Option String := do
  let start ← span.start.render?
  let stop ← span.stop.render?
  return s!"{start}-{stop}"

theorem start_between (a b : Caret) : (between a b).start = a.earlier b := by
  unfold between Caret.earlier
  split <;> rfl

end Span

/-! ### Words with their spans -/

/-- A word together with where it stands. -/
structure LocatedWord where
  /-- The characters of the word. -/
  word : String
  /-- The stretch of the text that the word takes up. -/
  span : Span
deriving DecidableEq, Repr

/-- Reads on from `caret`.  In the middle of a word, `reading` holds the caret before it and
the characters read so far, the latest first. -/
def locatedWordsFrom (caret : Caret) (reading : Option (Caret × List Char)) :
    List Char → List LocatedWord
  | [] =>
    match reading with
    | none => []
    | some (start, read) => [⟨String.ofList read.reverse, Span.between start caret⟩]
  | c :: rest =>
    if Text.isBlank c then
      match reading with
      | none => locatedWordsFrom (caret.advance c) none rest
      | some (start, read) =>
        ⟨String.ofList read.reverse, Span.between start caret⟩ ::
          locatedWordsFrom (caret.advance c) none rest
    else
      match reading with
      | none => locatedWordsFrom (caret.advance c) (some (caret, [c])) rest
      | some (start, read) => locatedWordsFrom (caret.advance c) (some (start, c :: read)) rest

/-- The words of a text, from left to right, each with its span. -/
def locatedWords (text : String) : List LocatedWord :=
  locatedWordsFrom Caret.start none text.toList

end Descent
