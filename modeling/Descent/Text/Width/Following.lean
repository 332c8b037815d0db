import Descent.Text.Width.Emoji
import Descent.Text.Width.Zero

/-!
# Characters that are drawn together

A picture can be put together from several characters, and some scripts write several letters as
one.  A text is read from its end, so what a character forms is decided by what follows it.

Of what follows only little matters, and this is what a `Follower` says: whether a joiner, a flag,
a row of tags or a part of a ligature was begun.  The signs that ask for a picture or for text are
kept beside it, in a `Following`, because such a sign is about the character right before it.
Letters that wait for the first part of a ligature go on waiting behind such a sign, a joined
picture behind one that asks for a picture; everything else is forgotten.
-/

namespace Descent.Text

/-! ### Classes of characters -/

/-- The sign that asks for a picture. -/
def pictureSign : Char := '\uFE0F'

/-- The sign that asks for text. -/
def textSign : Char := '\uFE0E'

/-- The zero width joiner. -/
def joiner : Char := '\u200D'

/-- Whether a character is a regional indicator. -/
def isRegional (c : Char) : Bool := inRanges [(0x1F1E6, 0x1F1FF)] c

/-- Whether a character is a skin tone. -/
def isModifier (c : Char) : Bool := inRanges [(0x1F3FB, 0x1F3FF)] c

/-- Whether a character is a letter in the tags of a flag. -/
def isTagLetter (c : Char) : Bool := inRanges [(0xE0061, 0xE007A)] c

/-- Whether a character is a digit in the tags of a flag. -/
def isTagDigit (c : Char) : Bool := inRanges [(0xE0030, 0xE0039)] c

/-- Whether a character is a Tifinagh consonant. -/
def isTifinagh (c : Char) : Bool := inRanges [(0x2D31, 0x2D65), (0x2D6F, 0x2D6F)] c

/-- Whether a character is a form of Arabic alef. -/
def isAlef (c : Char) : Bool :=
  inRanges [(0x622, 0x623), (0x625, 0x625), (0x627, 0x627), (0x671, 0x673), (0x675, 0x675),
    (0x773, 0x774), (0x870, 0x882)] c

/-- Whether a character is a form of Arabic lam. -/
def isLam (c : Char) : Bool :=
  inRanges [(0x644, 0x644), (0x6B5, 0x6B8), (0x76A, 0x76A), (0x8A6, 0x8A6), (0x8C7, 0x8C7)] c

/-- Whether a character is a Khmer letter that can be put below another. -/
def isBelowLetter (c : Char) : Bool :=
  inRanges [(0x1780, 0x1782), (0x1784, 0x1787), (0x1789, 0x178C), (0x178E, 0x1793),
    (0x1795, 0x1798), (0x179B, 0x179D), (0x17A0, 0x17A0), (0x17A2, 0x17A2), (0x17A7, 0x17A7),
    (0x17AB, 0x17AC), (0x17AF, 0x17AF)] c

/-- Whether a character leaves Arabic letters joined. -/
def isTransparent (c : Char) : Bool := inRanges zeroWidths c && !inRanges joinBreakers c

/-- Whether a character is a mark that is ignored within the ligatures of other scripts. -/
def isIgnorableMark (c : Char) : Bool :=
  inRanges [(0x34F, 0x34F), (0x17B4, 0x17B5), (0x180B, 0x180D), (0x180F, 0x180F),
    (0xFE00, 0xFE0F), (0xE0100, 0xE01EF)] c

/-! ### What was read -/

/-- The parts that ligatures end with. -/
inductive LigatureEnd where
  /-- Arabic alef, after lam. -/
  | alef
  /-- Hebrew lamed, after alef and a joiner. -/
  | lamed
  /-- Buginese ya, after the vowels a and i and a joiner. -/
  | ya
  /-- Buginese ya with the joiner and the vowel i before it. -/
  | vowelYa
  /-- A Tifinagh consonant, after another and a joiner. -/
  | tifinagh
  /-- A Tifinagh consonant with the joiner of its script before it. -/
  | joinedTifinagh
  /-- The second half of a Lisu tone. -/
  | tone
  /-- Old Turkic i, after a consonant and a joiner. -/
  | orkhonI
  /-- A Khmer letter that can be put below another. -/
  | belowLetter
deriving DecidableEq, Repr

/-- What was read of the tags of a flag, from their end. -/
inductive TagsRead where
  /-- Some letters. -/
  | letters (count : Nat)
  /-- Some digits, and maybe letters after them. -/
  | digits (count : Nat)
deriving DecidableEq, Repr

/-- The number of regional indicators before a joiner. -/
inductive RegionalCount where
  /-- One. -/
  | one
  /-- An even number. -/
  | even
  /-- An odd number, but more than one. -/
  | odd
deriving DecidableEq, Repr

/-- What was read of a text, as far as it matters for the character before. -/
inductive Follower where
  /-- Nothing that matters. -/
  | plain
  /-- A line feed. -/
  | lineFeed
  /-- A picture. -/
  | picture
  /-- A skin tone. -/
  | modifier
  /-- A regional indicator. -/
  | regional
  /-- Several regional indicators. -/
  | regionals
  /-- A joiner before a picture. -/
  | joinedPicture
  /-- The sign for keycaps, joined to a picture. -/
  | joinedKeycap
  /-- Regional indicators, joined to a picture. -/
  | joinedRegionals (count : RegionalCount)
  /-- The tags of a flag, joined to a picture. -/
  | joinedTags (tags : TagsRead)
  /-- The end of a ligature, and whether a joiner was read before it. -/
  | ligature (last : LigatureEnd) (joined : Bool)
deriving DecidableEq, Repr

namespace Follower

/-- What a character is by itself. -/
def ofChar (c : Char) : Follower :=
  if c = '\n' then .lineFeed
  else if c.toNat ≤ 0xA0 then .plain
  else if isRegional c then .regional
  else if isModifier c then .modifier
  else if inRanges pictures c then .picture
  else if isAlef c then .ligature .alef false
  else if c = '\u05DC' then .ligature .lamed false
  else if c = '\u1A10' then .ligature .ya false
  else if c.toNat = 0x10C03 then .ligature .orkhonI false
  else if isTifinagh c then .ligature .tifinagh false
  else if isBelowLetter c then .ligature .belowLetter false
  else if inRanges [(0xA4FC, 0xA4FD)] c then .ligature .tone false
  else .plain

/-- Whether it is the end of a ligature. -/
def isLigature : Follower → Bool
  | .ligature _ _ => true
  | _ => false

/-- Whether the sign for pictures can stand before it within a joined picture. -/
def takesPictureSign : Follower → Bool
  | .joinedPicture | .joinedKeycap => true
  | _ => false

/-- A flag has three to six letters in its tags, or three digits before at most four letters. -/
def beforeTags? (c : Char) : TagsRead → Option (Int × Follower)
  | .letters count =>
    if isTagLetter c ∧ count < 6 then some (0, .joinedTags (.letters (count + 1)))
    else if isTagDigit c ∧ count ≤ 4 then some (0, .joinedTags (.digits 1))
    else if c.toNat = 0x1F3F4 ∧ 3 ≤ count then some (0, .picture)
    else none
  | .digits count =>
    if isTagDigit c ∧ count < 3 then some (0, .joinedTags (.digits (count + 1)))
    else if c.toNat = 0x1F3F4 ∧ count = 3 then some (0, .picture)
    else none

/-- The columns that a character adds before the end of a ligature that it belongs to. -/
def beforeLigature? (c : Char) : LigatureEnd → Bool → Option (Int × Follower)
  | .alef, _ =>
    if isLam c then some (0, .plain)
    else if isTransparent c then some (0, .ligature .alef false)
    else none
  | last, joined =>
    if c = joiner then some (0, .ligature last true)
    else if isIgnorableMark c then some (0, .ligature last joined)
    else
      match last, joined with
      | .lamed, true => if c = '\u05D0' then some (0, .plain) else none
      | .ya, true => if c = '\u1A17' then some (0, .ligature .vowelYa true) else none
      | .vowelYa, _ => if c = '\u1A15' then some (0, .plain) else none
      | .tifinagh, _ =>
        if c = '\u2D7F' then some (1, .ligature .joinedTifinagh true)
        else if joined ∧ isTifinagh c then some (0, .plain)
        else none
      | .joinedTifinagh, _ => if isTifinagh c then some (-1, .plain) else none
      | .tone, _ => if inRanges [(0xA4F8, 0xA4FB)] c then some (0, .plain) else none
      | .orkhonI, true => if c.toNat = 0x10C32 then some (0, .plain) else none
      | .belowLetter, _ => if c = '\u17D2' then some (-1, .plain) else none
      | _, _ => none

/-- The columns that a character adds before what was read, if it forms something with it, and
what the two are together. -/
def before? (c : Char) : Follower → Option (Int × Follower)
  | .plain | .lineFeed | .joinedKeycap => none
  | .picture => if c = joiner then some (0, .joinedPicture) else none
  | .modifier =>
    if inRanges modifierBases c then some (0, .picture)
    else if c = joiner then some (0, .joinedPicture)
    else none
  | .regional => if isRegional c then some (1, .regionals) else none
  | .regionals =>
    if isRegional c then some (1, .regionals)
    else if c = joiner then some (0, .joinedPicture)
    else none
  | .joinedPicture =>
    if c = '\u20E3' then some (0, .joinedKeycap)
    else if isRegional c then some (1, .joinedRegionals .one)
    else if isModifier c then some (0, .modifier)
    else if c.toNat = 0xE007F then some (0, .joinedTags (.letters 0))
    else if inRanges pictures c then some (0, .picture)
    else none
  | .joinedRegionals .one => if isRegional c then some (-1, .joinedRegionals .even) else none
  | .joinedRegionals .odd =>
    if isRegional c then some (-1, .joinedRegionals .even)
    else if c = joiner then some (0, .joinedPicture)
    else none
  | .joinedRegionals .even =>
    if isRegional c then some (3, .joinedRegionals .odd)
    else if c = joiner then some (0, .joinedPicture)
    else none
  | .joinedTags tags => beforeTags? c tags
  | .ligature last joined => beforeLigature? c last joined

end Follower

/-! ### Signs -/

/-- A follower, and the signs before it that ask for a picture or for text. -/
structure Following where
  /-- What was read before the signs. -/
  follower : Follower
  /-- Whether there is a sign that asks for a picture. -/
  asPicture : Bool := false
  /-- Whether there is a sign that asks for text. -/
  asText : Bool := false
deriving DecidableEq, Repr

namespace Following

/-- Nothing that matters. -/
def plain : Following where
  follower := .plain

/-- The sign that asks for a picture, before what was read. -/
def askPicture (following : Following) : Following :=
  if following.follower.isLigature || following.follower.takesPictureSign then
    { following with asPicture := true }
  else { plain with asPicture := true }

/-- The sign that asks for text, before what was read. -/
def askText (following : Following) : Following :=
  if following.follower.isLigature then { following with asText := true }
  else { plain with asText := true }

/-- What is left when the sign that asks for a picture asks in vain. -/
def withoutPicture (following : Following) : Following :=
  if !following.asPicture then following
  else if following.follower.isLigature then { following with asPicture := false }
  else plain

/-- The columns that a character adds before what was read, if it forms something with it, and
what the two are together. -/
def before? (c : Char) (following : Following) : Option (Int × Following) :=
  if following.asPicture ∧ inRanges pictureBases c then
    some (if following.follower.takesPictureSign then 0 else 2, { follower := .picture })
  else
    let following := following.withoutPicture
    if c = '\r' ∧ following.follower = .lineFeed then some (0, plain)
    else if c.toNat ≤ 0xA0 then none
    else if c = pictureSign then some (0, following.askPicture)
    else if c = textSign then some (0, following.askText)
    else if following.asText ∧ inRanges retractablePictures c then some (1, plain)
    else (following.follower.before? c).map fun (columns, follower) => (columns, { follower })

end Following

end Descent.Text
