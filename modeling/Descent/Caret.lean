import Descent.Text.Blank

/-!
# Carets

A caret is a place between two characters of a text: a line and a column, both counted from zero
and shown to a reader from one.  Columns count characters, whatever their width on a screen.

## The last place

Lines and columns are numbers of 32 bits, and `Caret.last` is the largest of them.  A line of
4294967296 characters goes beyond it.  A program that checks its arithmetic stops there, which is
what `Caret.advance?` does, and ends with the status of a broken session; one that does not check
goes on counting from zero.

Reading a source counts without a bound, with `Caret.advance`.  This is what the program does on
every text whose places can be counted, by `Caret.Countable.path?_eq`.  Statements about what is
read are made about all texts, and count places without a bound: `Vocabulary.read_respaced`,
`scanAll_faithful`, `scan_ends_exact` and `Vocabulary.readable_exact`, which are about lexemes and
not about places, as well as those about the entries of a scan.  That every place is counted is a
conclusion of its own, where the text is one in which it is.
-/

namespace Descent

/-- A place in a text: the number of line feeds before it and the number of characters
since the last of them. -/
structure Caret where
  /-- The line, counted from zero. -/
  line : Nat
  /-- The column, counted from zero. -/
  column : Nat
deriving DecidableEq, Repr, Inhabited

namespace Caret

/-- The place before the first character. -/
def start : Caret := ⟨0, 0⟩

/-- The largest line or column that is counted. -/
def last : Nat := 4294967295

/-- The start of a line.  A line that is not counted becomes the last one. -/
def lineStart (line : Nat) : Caret := ⟨min line last, 0⟩

/-- The caret after one more character.  Only a line feed starts a new line. -/
def advance (caret : Caret) (c : Char) : Caret :=
  if c = '\n' then ⟨caret.line + 1, 0⟩ else ⟨caret.line, caret.column + 1⟩

/-- The caret after one more character, if its line and column can be counted. -/
def advance? (caret : Caret) (c : Char) : Option Caret :=
  let next := caret.advance c
  if next.line ≤ last ∧ next.column ≤ last then some next else none

/-- The caret after a text. -/
def after (caret : Caret) (text : List Char) : Caret :=
  text.foldl advance caret

/-- The caret before each character of a text and after the last one, if all of them
can be counted. -/
def path? (caret : Caret) : List Char → Option (List Caret)
  | [] => some [caret]
  | c :: rest => do
    let next ← caret.advance? c
    let others ← next.path? rest
    return caret :: others

/-- Line and column counted from one, if these can be counted. -/
def render? (caret : Caret) : Option String :=
  if caret.line < last ∧ caret.column < last then
    some s!"{caret.line + 1}:{caret.column + 1}"
  else none

@[simp] theorem after_nil (caret : Caret) : caret.after [] = caret := rfl

@[simp] theorem after_cons (caret : Caret) (c : Char) (text : List Char) :
    caret.after (c :: text) = (caret.advance c).after text := rfl

/-- A text can be passed in two parts. -/
theorem after_append (caret : Caret) (text rest : List Char) :
    caret.after (text ++ rest) = (caret.after text).after rest :=
  List.foldl_append

/-! ### Order -/

instance : LE Caret where
  le a b := a.line < b.line ∨ (a.line = b.line ∧ a.column ≤ b.column)

instance (a b : Caret) : Decidable (a ≤ b) :=
  inferInstanceAs (Decidable (_ ∨ _))

instance : Ord Caret where
  compare a b := (compare a.line b.line).then (compare a.column b.column)

theorem le_iff {a b : Caret} :
    a ≤ b ↔ a.line < b.line ∨ (a.line = b.line ∧ a.column ≤ b.column) := Iff.rfl

@[simp] theorem le_refl (a : Caret) : a ≤ a := by
  simp [le_iff]

theorem le_of_not_le {a b : Caret} (h : ¬ a ≤ b) : b ≤ a := by
  simp only [le_iff] at *
  omega

theorem le_trans {a b c : Caret} (hab : a ≤ b) (hbc : b ≤ c) : a ≤ c := by
  simp only [le_iff] at *
  omega

/-- The earlier of two carets. -/
def earlier (a b : Caret) : Caret := if a ≤ b then a else b

/-- The later of two carets. -/
def later (a b : Caret) : Caret := if a ≤ b then b else a

end Caret

end Descent
