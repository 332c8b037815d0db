import Descent.Text.Alphanumeric
import Descent.Text.LineBreak.Rules
import Descent.Text.Pieces
import Descent.Text.Width

/-!
# Wrapped paragraphs

A line that is too long is broken into several, at the places that make the whole look even.

## Fragments

A line is cut into words where the line breaking algorithm allows it, except after hyphens; a word
is cut after a hyphen between two letters or digits; and what is still wider than a line is cut
where it has to be.  What is left are the fragments, which are kept together.  Sequences that
start with an escape character and a bracket, which set colours on a terminal, take up no columns
and are not cut.

## The best lines

A line has a cost that grows with the square of what it leaves empty, and there are penalties for
a lonely end and for going over the width.  Of all ways to make lines the one with the least total
cost is taken, and of two with the same cost the one whose last line starts earlier.
-/

namespace Descent.Text

/-! ### Escape sequences -/

/-- Some characters of a line, of which at most one is shown. -/
structure Segment where
  /-- The character that is shown. -/
  shown : Option Char
  /-- The characters of the line. -/
  source : List Char
deriving DecidableEq, Repr

/-- The character that starts an escape sequence. -/
def escape : Char := '\x1b'

/-- Whether a character ends an escape sequence. -/
def endsEscape (c : Char) : Bool := 0x40 ≤ c.toNat && c.toNat ≤ 0x7E

theorem length_dropWhile_le (test : Char → Bool) (text : List Char) :
    (text.dropWhile test).length ≤ text.length :=
  (List.dropWhile_sublist test).length_le

/-- The segments of a line.  A sequence that does not end takes the rest of the line with it,
and an escape character without a bracket the character after it. -/
def segments : List Char → List Segment
  | [] => []
  | c :: rest =>
    if c = escape then
      match rest with
      | [] => [⟨some c, [c]⟩]
      | '[' :: body =>
        match _h : body.dropWhile (!endsEscape ·) with
        | [] => [⟨some c, c :: rest⟩]
        | final :: after =>
          ⟨none, c :: '[' :: body.takeWhile (!endsEscape ·) ++ [final]⟩ :: segments after
      | other :: after => ⟨some c, [c, other]⟩ :: segments after
    else ⟨some c, [c]⟩ :: segments rest
termination_by text => text.length
decreasing_by
  · have := length_dropWhile_le (!endsEscape ·) body
    rw [_h] at this
    simp only [List.length_cons] at this ⊢
    omega
  · simp only [List.length_cons]
    omega
  · simp

/-- The columns of a segment. -/
def Segment.width (segment : Segment) : Nat :=
  (segment.shown.map charWidth).getD 0

/-- The columns of a part of a line, character by character. -/
def plainWidth (text : List Char) : Nat :=
  (segments text).foldl (fun total segment => total + segment.width) 0

/-! ### Words -/

/-- Cuts a list after each marked element. -/
def splitMarked {α : Type} : List (α × Bool) → List (List α)
  | [] => []
  | (a, marked) :: rest =>
    if marked then [a] :: splitMarked rest
    else
      match splitMarked rest with
      | [] => [[a]]
      | part :: parts => (a :: part) :: parts

/-- Takes away the first mark. -/
def dropFirstMark {α : Type} : List (α × Bool) → List (α × Bool)
  | [] => []
  | (a, marked) :: rest => (a, false) :: if marked then rest else dropFirstMark rest

/-- Takes away the last mark. -/
def dropLastMark {α : Type} (marks : List (α × Bool)) : List (α × Bool) :=
  (dropFirstMark marks.reverse).reverse

/-- Whether words are not cut after a character, although lines may be broken there. -/
def holdsWord (c : Char) : Bool := c = '-' || c = '\u00AD'

/-- Adds characters that are not shown to the segment after them, or at the end of the line to
the one before them. -/
def attachHidden (hidden : List Char) : List Segment → List (Char × List Char)
  | [] => []
  | segment :: rest =>
    match segment.shown with
    | none => attachHidden (hidden ++ segment.source) rest
    | some c =>
      let others := attachHidden [] rest
      let trailing := if others.isEmpty then rest.flatMap (·.source) else []
      (c, hidden ++ segment.source ++ trailing) :: others

/-- The words of a line, each with the spaces after it.  The last place where the line could be
cut, which is its end unless that is held, is not used. -/
def lineWords (line : List Char) : List (List Char) :=
  match attachHidden [] (segments line) with
  | [] => if line.isEmpty then [] else [line]
  | shown =>
    let breaks := List.zipWith (fun (c, _) allowed => allowed && !holdsWord c) shown
      (breaksAfter (shown.map (·.1)))
    (splitMarked (dropLastMark ((shown.map (·.2)).zip breaks))).map List.flatten

/-! ### Fragments -/

/-- A part of a line that is kept together. -/
structure Fragment where
  /-- The characters. -/
  text : List Char
  /-- The columns that they take up. -/
  width : Nat
  /-- The number of spaces after them. -/
  gap : Nat
deriving DecidableEq, Repr

/-- The fragment of some characters and a number of spaces after them. -/
def Fragment.ofText (text : List Char) (gap : Nat) : Fragment :=
  ⟨text, plainWidth text, gap⟩

/-- A word without the spaces after it, and their number. -/
def withoutGap (word : List Char) : List Char × Nat :=
  let spaces := word.reverse.takeWhile (· = ' ')
  (word.take (word.length - spaces.length), spaces.length)

/-- The parts of a word, cut after each hyphen between letters or digits, where `before` is the
character before the word. -/
def hyphenParts (before : Option Char) : List Char → List (List Char)
  | [] => [[]]
  | c :: rest =>
    let cut := c = '-' && before.any isAlphanumeric && rest.head?.any isAlphanumeric
    match hyphenParts (some c) rest with
    | [] => [[c]]
    | part :: parts => if cut then [c] :: part :: parts else (c :: part) :: parts

/-- The pieces of a text, none wider than a line unless it is one character.  `piece` is what was
read of the current piece, and `width` its width. -/
def chopFrom (limit : Nat) (piece : List Char) (width : Nat) :
    List Segment → List (List Char × Nat)
  | [] => if piece.isEmpty then [] else [(piece, width)]
  | segment :: rest =>
    match segment.shown with
    | none => chopFrom limit (piece ++ segment.source) width rest
    | some _ =>
      if 0 < width ∧ limit < width + segment.width then
        (piece, width) :: chopFrom limit segment.source segment.width rest
      else chopFrom limit (piece ++ segment.source) (width + segment.width) rest

/-- Gives the last fragment of a word the spaces after the word. -/
def withLastGap (gap : Nat) : List Fragment → List Fragment
  | [] => []
  | [last] => [{ last with gap }]
  | fragment :: rest => fragment :: withLastGap gap rest

/-- A fragment in pieces that fit on a line. -/
def chop (limit : Nat) (fragment : Fragment) : List Fragment :=
  if limit < fragment.width then
    withLastGap fragment.gap
      ((chopFrom limit [] 0 (segments fragment.text)).map fun (text, width) => ⟨text, width, 0⟩)
  else [fragment]

/-- The fragments of a word. -/
def wordFragments (word : List Char) : List Fragment :=
  let (text, gap) := withoutGap word
  withLastGap gap ((hyphenParts none text).map (Fragment.ofText · 0))

/-- The fragments of a line. -/
def fragments (limit : Nat) (line : List Char) : List Fragment :=
  ((lineWords line).flatMap wordFragments).flatMap (chop limit)

/-! ### Lines -/

/-- How bad it is to make a line of `count` fragments, `width` columns wide.  Each line costs
something, each column over the limit a lot; a line that is not the last costs the square of the
columns left; and a single short fragment on the last line costs a little. -/
def lineCost (limit width count : Nat) (isLast : Bool) : Nat :=
  let extra :=
    if limit < width then (width - limit) * 2500
    else if !isLast then (limit - width) * (limit - width)
    else if count = 1 ∧ 4 * width < limit then 25
    else 0
  1000 + extra

/-- Lines that are made of the first fragments, the last line first, and their total cost. -/
structure Lines where
  /-- The lines. -/
  lines : List (List Fragment)
  /-- The total cost. -/
  cost : Nat
deriving DecidableEq, Repr

/-- Puts one more line after some lines. -/
def Lines.add (limit : Nat) (isLast : Bool) (before : Lines) (line : List Fragment)
    (width : Nat) : Lines :=
  ⟨line :: before.lines, before.cost + lineCost limit width line.length isLast⟩

/-- The best lines that end with `line`, which is `width` columns wide, or go on further to the
left.  The fragments to the left are given from right to left, each with the best lines of those
before it.  A line over the limit only gets worse further to the left, so once it alone costs more
than the best lines there is nothing better to find. -/
def bestFrom (limit : Nat) (isLast : Bool) (best : Lines) (line : List Fragment) (width : Nat) :
    List (Fragment × Lines) → Lines
  | [] => best
  | (fragment, before) :: rest =>
    let line := fragment :: line
    let width := fragment.width + fragment.gap + width
    if limit < width ∧ best.cost < lineCost limit width line.length isLast then best
    else
      let candidate := before.add limit isLast line width
      bestFrom limit isLast (if candidate.cost ≤ best.cost then candidate else best) line width rest

/-- The best lines of some fragments, the last of which is `fragment`. -/
def bestEnding (limit : Nat) (isLast : Bool) (fragment : Fragment) (before : Lines)
    (earlier : List (Fragment × Lines)) : Lines :=
  bestFrom limit isLast (before.add limit isLast [fragment] fragment.width) [fragment]
    fragment.width earlier

/-- The best lines of some fragments, where `before` are the best lines of the fragments read
so far and `earlier` these fragments, each with the best lines of those before it. -/
def bestLinesFrom (limit : Nat) (before : Lines) (earlier : List (Fragment × Lines)) :
    List Fragment → Lines
  | [] => before
  | fragment :: rest =>
    let best := bestEnding limit rest.isEmpty fragment before earlier
    bestLinesFrom limit best ((fragment, before) :: earlier) rest

/-- The lines with the least total cost, from first to last. -/
def bestLines (limit : Nat) (fragments : List Fragment) : List (List Fragment) :=
  match (bestLinesFrom limit ⟨[], 0⟩ [] fragments).lines with
  | [] => [[]]
  | lines => lines.reverse

/-- The characters of a line.  The spaces after its last fragment are left out. -/
def renderLine : List Fragment → List Char
  | [] => []
  | [last] => last.text
  | fragment :: rest => fragment.text ++ List.replicate fragment.gap ' ' ++ renderLine rest

/-- The lines of a text, each at most `limit` columns wide where that is possible.  Each line of
the text is wrapped by itself. -/
def wrapEvenly (limit : Nat) (text : List Char) : List (List Char) :=
  (pieces (· = '\n') text).flatMap fun line =>
    (bestLines limit (fragments limit line)).map renderLine

end Descent.Text
