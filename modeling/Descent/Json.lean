/-!
# JSON text

Values, and how they are written over several lines, two spaces deeper at each level.  Fields are
written in the order in which they are given, so an object is a list of them.
-/

namespace Descent

/-- A JSON value. -/
inductive Json where
  /-- No value. -/
  | null
  /-- A number. -/
  | number (value : Nat)
  /-- A text. -/
  | text (value : String)
  /-- Several values. -/
  | array (items : List Json)
  /-- Several values with names. -/
  | object (fields : List (String × Json))

namespace Json

/-- A value that may be missing. -/
def ofOption {α : Type} (encode : α → Json) : Option α → Json
  | none => .null
  | some value => encode value

/-- A hexadecimal digit, in lower case. -/
def hexDigit (n : Nat) : Char :=
  if n < 10 then Char.ofNat ('0'.toNat + n) else Char.ofNat ('a'.toNat + (n - 10))

/-- A character inside of a quoted text. -/
def escapeChar (c : Char) : List Char :=
  if c = '"' then ['\\', '"']
  else if c = '\\' then ['\\', '\\']
  else if c = '\n' then ['\\', 'n']
  else if c = '\r' then ['\\', 'r']
  else if c = '\t' then ['\\', 't']
  else if c = '\x08' then ['\\', 'b']
  else if c = '\x0c' then ['\\', 'f']
  else if c.toNat < 0x20 then
    ['\\', 'u', '0', '0', hexDigit (c.toNat / 16), hexDigit (c.toNat % 16)]
  else [c]

/-- A text in quotes. -/
def quote (text : String) : String :=
  String.ofList ('"' :: text.toList.flatMap escapeChar ++ ['"'])

/-- A line end and the spaces of a level. -/
def lineEnd (level : Nat) : String :=
  String.ofList ('\n' :: List.replicate (2 * level) ' ')

/-- Parts between two brackets, each on lines of its own. -/
def enclose (level : Nat) (left right : String) (parts : List String) : String :=
  if parts.isEmpty then left ++ right
  else
    left ++ lineEnd (level + 1) ++ ("," ++ lineEnd (level + 1)).intercalate parts ++
      lineEnd level ++ right

mutual

/-- The text of a value, the first line of which stands at a level. -/
def renderAt (level : Nat) : Json → String
  | .null => "null"
  | .number value => Nat.repr value
  | .text value => quote value
  | .array items => enclose level "[" "]" (renderItems (level + 1) items)
  | .object fields => enclose level "\x7b" "\x7d" (renderFields (level + 1) fields)

/-- The texts of values. -/
def renderItems (level : Nat) : List Json → List String
  | [] => []
  | item :: items => renderAt level item :: renderItems level items

/-- The texts of fields. -/
def renderFields (level : Nat) : List (String × Json) → List String
  | [] => []
  | (name, value) :: fields =>
    (quote name ++ ": " ++ renderAt level value) :: renderFields level fields

end

/-- The text of a value over several lines. -/
def render (value : Json) : String := renderAt 0 value

end Json

end Descent
