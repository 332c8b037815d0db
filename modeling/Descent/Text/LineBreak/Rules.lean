import Descent.Text.LineBreak.Class

/-!
# Where a line may be broken

The rules of the Unicode line breaking algorithm, without tailoring.  They are stated there for
pairs of neighbours, where marks count as part of the character before them and some rules look
past spaces.  Read from left to right this takes a `BreakContext`: the class of the last character
that is neither a space nor a mark, and what lies between it and the place in question.
-/

namespace Descent.Text

namespace BreakClass

/-- Whether characters of the class end a line. -/
def endsLine : BreakClass → Bool
  | .lineEnd | .lineFeed | .carriageReturn => true
  | _ => false

/-- Whether characters of the class are part of the character before them. -/
def attaches : BreakClass → Bool
  | .mark | .joiner => true
  | _ => false

/-- Whether characters of the class never stand at the start of a line, even after spaces. -/
def neverFirst : BreakClass → Bool
  | .closing | .closingParenthesis | .exclamation | .numberSeparator | .slash => true
  | _ => false

/-- Whether the class is one of letters. -/
def isLetter : BreakClass → Bool
  | .letter | .hebrewLetter => true
  | _ => false

/-- Whether the class is one of ideographs or pictures. -/
def isIdeographic : BreakClass → Bool
  | .ideograph | .emojiBase | .emojiModifier => true
  | _ => false

/-- Whether the class is one of Hangul letters or syllables. -/
def isHangul : BreakClass → Bool
  | .leadingJamo | .vowelJamo | .trailingJamo | .openSyllable | .closedSyllable => true
  | _ => false

/-- Whether the class is one of closing punctuation. -/
def isClosing : BreakClass → Bool
  | .closing | .closingParenthesis => true
  | _ => false

/-- Whether the class is one of signs before or after numbers. -/
def isNumberSign : BreakClass → Bool
  | .numberPrefix | .numberSuffix => true
  | _ => false

/-- Whether a syllable goes on from one class to the other. -/
def joinsHangul : BreakClass → BreakClass → Bool
  | .leadingJamo, .leadingJamo | .leadingJamo, .vowelJamo | .leadingJamo, .openSyllable
  | .leadingJamo, .closedSyllable | .vowelJamo, .vowelJamo | .vowelJamo, .trailingJamo
  | .openSyllable, .vowelJamo | .openSyllable, .trailingJamo | .trailingJamo, .trailingJamo
  | .closedSyllable, .trailingJamo => true
  | _, _ => false

/-- Whether two neighbours belong to one number. -/
def joinsNumber : BreakClass → BreakClass → Bool
  | .closing, .numberSuffix | .closing, .numberPrefix
  | .closingParenthesis, .numberSuffix | .closingParenthesis, .numberPrefix
  | .digit, .numberSuffix | .digit, .numberPrefix
  | .numberSuffix, .opening | .numberSuffix, .digit
  | .numberPrefix, .opening | .numberPrefix, .digit
  | .hyphen, .digit | .numberSeparator, .digit | .digit, .digit | .slash, .digit => true
  | _, _ => false

/-- Whether two neighbours belong to one word, number, syllable or picture. -/
def joins (before after : BreakClass) : Bool :=
  (before.isLetter && after == .digit) ||
    (before == .digit && after.isLetter) ||
    (before == .numberPrefix && (after.isIdeographic || after.isHangul)) ||
    ((before.isIdeographic || before.isHangul) && after == .numberSuffix) ||
    (before.isNumberSign && after.isLetter) ||
    (before.isLetter && after.isNumberSign) ||
    joinsNumber before after ||
    joinsHangul before after ||
    ((before.isLetter || before == .numberSeparator) && after.isLetter) ||
    ((before.isLetter || before == .digit) && after == .opening) ||
    (before == .closingParenthesis && (after.isLetter || after == .digit)) ||
    (before == .emojiBase && after == .emojiModifier)

end BreakClass

/-- What the rules have to know of the characters before a place. -/
structure BreakContext where
  /-- The class of the last character that is neither a space nor a mark. -/
  last : BreakClass
  /-- Whether spaces stand after it. -/
  spaced : Bool
  /-- Whether a joiner stands right before the place. -/
  joined : Bool
  /-- Whether that character is a hyphen or the like right after a Hebrew letter. -/
  afterHebrew : Bool
  /-- Whether an odd number of regional indicators ends there. -/
  oddRegional : Bool
deriving DecidableEq, Repr

namespace BreakContext

/-- Whether marks are part of the last character. -/
def carriesMarks (context : BreakContext) : Bool :=
  !context.spaced && !context.last.endsLine && context.last != .space &&
    context.last != .zeroSpace

/-- The class that a character counts as: a mark without a carrier is a letter. -/
def effective (context : BreakContext) (kind : BreakClass) : BreakClass :=
  if kind.attaches && !context.carriesMarks then .letter else kind

/-- Whether a line may be broken between the last character and one of a class, with no spaces
between them. -/
def allowsPair (context : BreakContext) (next : BreakClass) : Bool :=
  let last := context.last
  if last == .wordJoiner || last == .glue then false
  else if next == .glue && last != .breakAfter && last != .hyphen then false
  else if next == .quotation || last == .quotation then false
  else if next == .contingent || last == .contingent then true
  else if next == .breakAfter || next == .hyphen || next == .nonstarter ||
      last == .breakBefore then false
  else if context.afterHebrew then false
  else if last == .slash && next == .hebrewLetter then false
  else if next == .inseparable then false
  else if last == .regional && next == .regional then !context.oddRegional
  else !last.joins next

/-- Whether a line may be broken before a character of a class. -/
def allows (context : BreakContext) (kind : BreakClass) : Bool :=
  let last := context.last
  let next := context.effective kind
  if last == .carriageReturn && !context.spaced then kind != .lineFeed
  else if last.endsLine && !context.spaced then true
  else if kind.endsLine || kind == .space || kind == .zeroSpace then false
  else if last == .zeroSpace then true
  else if context.joined || next.attaches then false
  else if next == .wordJoiner || next.neverFirst then false
  else if last == .opening then false
  else if last == .quotation && next == .opening then false
  else if last.isClosing && next == .nonstarter then false
  else if last == .breakBoth && next == .breakBoth then false
  else if context.spaced || last == .space then true
  else context.allowsPair next

/-- The context after the first character of a text. -/
def first (kind : BreakClass) : BreakContext where
  last := if kind.attaches then .letter else kind
  spaced := false
  joined := kind == .joiner
  afterHebrew := false
  oddRegional := kind == .regional

/-- The context after one more character. -/
def next (context : BreakContext) (kind : BreakClass) : BreakContext :=
  if kind == .space then
    if context.last.endsLine then first .space
    else { context with spaced := true, joined := false }
  else if kind.attaches && context.carriesMarks then
    { context with joined := kind == .joiner }
  else
    { last := context.effective kind
      spaced := false
      joined := kind == .joiner
      afterHebrew := !context.spaced && context.last == .hebrewLetter &&
        (kind == .hyphen || kind == .breakAfter)
      oddRegional := kind == .regional &&
        !(context.last == .regional && !context.spaced && context.oddRegional) }

end BreakContext

/-- For each character and the end of a text, whether a line may be broken before it. -/
def breaksFrom (context : BreakContext) : List Char → List Bool
  | [] => [true]
  | c :: rest => context.allows (breakClass c) :: breaksFrom (context.next (breakClass c)) rest

/-- For each character of a text, whether a line may be broken after it. -/
def breaksAfter : List Char → List Bool
  | [] => []
  | c :: rest => breaksFrom (BreakContext.first (breakClass c)) rest

end Descent.Text
