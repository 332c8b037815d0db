import Mathlib.Data.List.DropRight
import Descent.Lexeme.Reading

/-!
# The lexeme at the head of a text

What stands at the head of a text, said without reading it: the longest word, or else the longest
lexeme of the vocabulary, or else a single unknown character.

`Vocabulary.Head` is this as a relation between a beginning of the text and its kind.  It is what
a reader of the rules would write down, and everything later is proved of the relation: that what
stands there does not change with what comes behind the next blank is hard to see in a function
that takes characters as long as it can, and easy in a relation that names what was taken.
`Vocabulary.Head.headKind_append` is the bridge to what the program computes, and it goes one way
only, because something stands at the head of every text and the function has one value.
-/

namespace Descent

open Text

namespace Vocabulary

variable {vocabulary : Vocabulary} {texts : List String} {text body rest word : List Char}
  {lexeme : String} {kind : Option LexemeKind}

/-! ### The longest start -/

theorem longest?_eq_none_iff : longest? texts = none ↔ texts = [] := by
  cases texts with
  | nil => exact iff_of_true rfl rfl
  | cons text texts =>
    refine iff_of_false ?_ (List.cons_ne_nil _ _)
    rw [longest?]
    split
    · exact Option.some_ne_none _
    · split <;> exact Option.some_ne_none _

/-- The longest of some texts is one of them, and none of them is longer. -/
theorem longest?_spec (h : longest? texts = some lexeme) :
    lexeme ∈ texts ∧ ∀ other ∈ texts, other.length ≤ lexeme.length := by
  induction texts generalizing lexeme with
  | nil => cases h
  | cons text texts ih =>
    rw [longest?] at h
    rw [List.forall_mem_cons]
    split at h
    · rename_i none
      cases h
      rw [longest?_eq_none_iff.mp none]
      exact ⟨List.mem_cons_self, Nat.le_refl _, List.forall_mem_nil _⟩
    · rename_i other found
      obtain ⟨mem, most⟩ := ih found
      split at h
      · rename_i longer
        cases h
        exact ⟨List.mem_cons_of_mem text mem, Nat.le_of_lt longer, most⟩
      · rename_i enough
        cases h
        exact ⟨List.mem_cons_self, Nat.le_refl _,
          fun third later => (most third later).trans (Nat.le_of_not_lt enough)⟩

/-- A text starts with no lexeme of the vocabulary. -/
theorem longestStart?_eq_none_iff :
    vocabulary.longestStart? text = none ↔
      ∀ lexeme ∈ vocabulary.lexemes, ¬ lexeme.toList <+: text := by
  simp only [longestStart?, longest?_eq_none_iff, List.filter_eq_nil_iff,
    List.isPrefixOf_iff_prefix]

/-- Of the lexemes that a text starts with one is the longest. -/
theorem longestStart?_eq_some_iff :
    vocabulary.longestStart? text = some lexeme ↔
      lexeme ∈ vocabulary.lexemes ∧ lexeme.toList <+: text ∧
        ∀ other ∈ vocabulary.lexemes, other.toList <+: text → other.length ≤ lexeme.length := by
  have spec {lexeme : String} (h : vocabulary.longestStart? text = some lexeme) :
      lexeme ∈ vocabulary.lexemes ∧ lexeme.toList <+: text ∧
        ∀ other ∈ vocabulary.lexemes, other.toList <+: text → other.length ≤ lexeme.length := by
    simpa only [List.mem_filter, List.isPrefixOf_iff_prefix, and_imp, and_assoc] using
      longest?_spec h
  refine ⟨spec, ?_⟩
  rintro ⟨known, start, most⟩
  cases found : vocabulary.longestStart? text with
  | none => exact absurd start (longestStart?_eq_none_iff.mp found lexeme known)
  | some other =>
    -- Both are the beginning of the text that is as long.
    obtain ⟨known', start', most'⟩ := spec found
    have length : other.length = lexeme.length :=
      Nat.le_antisymm (most other known' start') (most' lexeme known start)
    rw [← String.length_toList, ← String.length_toList] at length
    have within := List.prefix_of_prefix_length_le start' start (Nat.le_of_eq length)
    rw [String.toList_inj.mp (within.eq_of_length length)]

/-! ### The lexeme at the head -/

variable [Alphabet]

/-- `vocabulary.WordKind word kind` says what a word is: a word of the vocabulary is reserved,
another is a constant if it consists of digits, and else an identifier if it starts like one. -/
inductive WordKind (vocabulary : Vocabulary) (word : List Char) : Option LexemeKind → Prop
  /-- The word is in the vocabulary. -/
  | reserved (known : String.ofList word ∈ vocabulary.lexemes) :
      WordKind vocabulary word (some .reserved)
  /-- The word is a number. -/
  | constant (new : String.ofList word ∉ vocabulary.lexemes) (digits : ∀ c ∈ word, c.isDigit) :
      WordKind vocabulary word (some .constant)
  /-- The word is a name. -/
  | identifier (new : String.ofList word ∉ vocabulary.lexemes) (other : ∃ c ∈ word, ¬ c.isDigit)
      (starts : ∃ c ∈ word.head?, isIdentifierStart c) : WordKind vocabulary word (some .identifier)
  /-- The word is none of these. -/
  | unknown (new : String.ofList word ∉ vocabulary.lexemes) (other : ∃ c ∈ word, ¬ c.isDigit)
      (starts : ¬ ∃ c ∈ word.head?, isIdentifierStart c) : WordKind vocabulary word none

theorem wordKind_iff : vocabulary.WordKind word kind ↔ vocabulary.wordKind? word = kind := by
  have digits : word.all Char.isDigit = false ↔ ∃ c ∈ word, ¬ c.isDigit := by simp
  have starts : word.head?.any isIdentifierStart ↔ ∃ c ∈ word.head?, isIdentifierStart c := by
    cases word <;> simp
  have known : vocabulary.contains (String.ofList word) ↔ String.ofList word ∈ vocabulary.lexemes :=
    List.contains_iff_mem
  rw [wordKind?]
  constructor
  · rintro (member | ⟨new, numeral⟩ | ⟨new, other, start⟩ | ⟨new, other, start⟩)
    · rw [if_pos (known.mpr member)]
    · rw [if_neg (mt known.mp new), if_pos (List.all_eq_true.mpr numeral)]
    · rw [if_neg (mt known.mp new), digits.mpr other, if_neg Bool.false_ne_true,
        if_pos (starts.mpr start)]
    · rw [if_neg (mt known.mp new), digits.mpr other, if_neg Bool.false_ne_true,
        if_neg (mt starts.mp start)]
  · rintro rfl
    split
    · exact .reserved (known.mp ‹_›)
    · split
      · exact .constant (mt known.mpr ‹_›) (List.all_eq_true.mp ‹_›)
      · have other := digits.mp (eq_false_of_ne_true ‹_›)
        split
        · exact .identifier (mt known.mpr ‹_›) other (starts.mp ‹_›)
        · exact .unknown (mt known.mpr ‹_›) other (mt starts.mpr ‹_›)

/-- `vocabulary.Head body rest kind` says that the text that consists of `body` and `rest` starts
with the lexeme `body`, which is of this kind, or else with the unknown characters `body`. -/
inductive Head (vocabulary : Vocabulary) : List Char → List Char → Option LexemeKind → Prop
  /-- A word goes on as long as it can. -/
  | word {word rest : List Char} {kind : Option LexemeKind} (nonempty : word ≠ [])
      (parts : ∀ c ∈ word, isWordPart c) (stop : ∀ c ∈ rest.head?, ¬ isWordPart c)
      (found : vocabulary.WordKind word kind) : Head vocabulary word rest kind
  /-- Where no word starts, the longest lexeme of the vocabulary stands. -/
  | sign {body rest : List Char} (start : ∀ c ∈ (body ++ rest).head?, ¬ isWordPart c)
      (known : String.ofList body ∈ vocabulary.lexemes)
      (longest : ∀ other ∈ vocabulary.lexemes, other.toList <+: body ++ rest →
        other.length ≤ body.length) : Head vocabulary body rest (some .reserved)
  /-- Where no lexeme of the vocabulary stands either, one character is unknown. -/
  | unknown {c : Char} {rest : List Char} (start : ¬ isWordPart c)
      (absent : ∀ other ∈ vocabulary.lexemes, ¬ other.toList <+: c :: rest) :
      Head vocabulary [c] rest none

/-- A run of characters that goes on as long as it can. -/
theorem takeWhile_isWordPart_eq (parts : ∀ c ∈ word, isWordPart c)
    (stop : ∀ c ∈ rest.head?, ¬ isWordPart c) : (word ++ rest).takeWhile isWordPart = word := by
  have ended : rest.takeWhile isWordPart = [] := by
    cases rest with
    | nil => rfl
    | cons c rest => exact List.takeWhile_cons_of_neg (stop c rfl)
  rw [List.takeWhile_append_of_pos parts, ended, List.append_nil]

/-- Unless the vocabulary holds the empty lexeme, there is something at the head. -/
theorem Head.ne_nil (h : vocabulary.Head body rest kind) (proper : "" ∉ vocabulary.lexemes) :
    body ≠ [] := by
  cases h with
  | word nonempty => exact nonempty
  | sign _ known =>
    rintro rfl
    exact proper known
  | unknown => exact List.cons_ne_nil _ _

/-- A lexeme at the head is reserved if it is in the vocabulary, and only then. -/
theorem Head.eq_reserved_iff {kind : LexemeKind} (h : vocabulary.Head body rest (some kind)) :
    kind = .reserved ↔ String.ofList body ∈ vocabulary.lexemes := by
  cases h with
  | word _ _ _ found =>
    cases found with
    | reserved known => exact iff_of_true rfl known
    | constant new => exact iff_of_false LexemeKind.noConfusion new
    | identifier new => exact iff_of_false LexemeKind.noConfusion new
  | sign _ known => exact iff_of_true rfl known

/-- Something stands at the head of every text. -/
theorem exists_head (vocabulary : Vocabulary) (nonempty : text ≠ []) :
    ∃ body rest kind, text = body ++ rest ∧ vocabulary.Head body rest kind := by
  obtain ⟨c, more, rfl⟩ := List.exists_cons_of_ne_nil nonempty
  by_cases part : isWordPart c
  · have stop := List.head?_dropWhile_not isWordPart (c :: more)
    refine ⟨(c :: more).takeWhile isWordPart, (c :: more).dropWhile isWordPart, _,
      List.takeWhile_append_dropWhile.symm, .word ?_ (fun _ => List.mem_takeWhile_imp) ?_
        (wordKind_iff.mpr rfl)⟩
    · rw [List.takeWhile_cons_of_pos part]
      exact List.cons_ne_nil _ _
    · intro first mem
      rw [Option.mem_def.mp mem] at stop
      simpa using stop
  · have start : ∀ first ∈ (c :: more).head?, ¬ isWordPart first := by simpa using part
    cases found : vocabulary.longestStart? (c :: more) with
    | none => exact ⟨[c], more, none, rfl, .unknown part (longestStart?_eq_none_iff.mp found)⟩
    | some lexeme =>
      obtain ⟨known, ⟨rest, whole⟩, longest⟩ := longestStart?_eq_some_iff.mp found
      rw [← whole] at start longest
      refine ⟨lexeme.toList, rest, some .reserved, whole.symm, .sign start ?_ ?_⟩
      · rwa [String.ofList_toList]
      · rwa [String.length_toList]

/-- **What is read at the head of a text** is what stands there. -/
theorem Head.headKind_append (h : vocabulary.Head body rest kind) (nonempty : body ++ rest ≠ []) :
    vocabulary.headKind (body ++ rest) = (body, kind) := by
  obtain ⟨c, more, whole⟩ := List.exists_cons_of_ne_nil nonempty
  cases h with
  | word present parts stop found =>
    have run := takeWhile_isWordPart_eq parts stop
    obtain ⟨first, others, rfl⟩ := List.exists_cons_of_ne_nil present
    rw [List.cons_append] at run
    rw [List.cons_append, headKind, if_pos (parts first List.mem_cons_self)]
    dsimp only
    rw [run, wordKind_iff.mp found]
  | sign start known longest =>
    have first : vocabulary.longestStart? (body ++ rest) = some (String.ofList body) := by
      refine longestStart?_eq_some_iff.mpr ⟨known, ?_, fun other mem within => ?_⟩
      · rw [String.toList_ofList]
        exact List.prefix_append _ _
      · rw [String.length_ofList]
        exact longest other mem within
    rw [whole] at first start ⊢
    rw [headKind, if_neg (start c rfl), first]
    dsimp only
    rw [String.toList_ofList]
  | unknown start absent =>
    rw [List.singleton_append, headKind, if_neg start, longestStart?_eq_none_iff.mpr absent]

theorem Head.headKind_eq (h : vocabulary.Head body rest kind) (proper : "" ∉ vocabulary.lexemes) :
    vocabulary.headKind (body ++ rest) = (body, kind) :=
  h.headKind_append (List.append_ne_nil_of_left_ne_nil (h.ne_nil proper) rest)

end Vocabulary

end Descent
