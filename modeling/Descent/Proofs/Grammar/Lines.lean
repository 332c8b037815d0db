import Descent.Proofs.Grammar.Sections

/-!
# Lines of the text form

What a line counts as is decided by its first word.  Lines of words that are written under the
headers of their sections are read back, each with its section; and lines that are read could have
been written so.

The last part needs the two conditions on words to be the same.  A first word must not start like
a header or a comment to be written (`Document.StartsLine`), and a line that was read as content
does not start like one, also where blanks stand before its first word.
-/

namespace Descent.Document

variable {part : Part} {current : Option Part} {number : Nat} {line : List Char}
  {lines : List (List Char)} {entries : List Entry} {first : Symbol} {words others : List Symbol}

/-- The line above a section. -/
def Part.header : Part → String
  | .nonterminals => "#NONTERMINALS"
  | .terminals => "#TERMINALS"
  | .start => "#START"
  | .productions => "#PRODUCTIONS"

/-- A line that starts with the word is neither a header nor a comment. -/
def StartsLine (word : Symbol) : Prop :=
  ¬ "#".toList <+: word.toList ∧ ¬ "//".toList <+: word.toList

/-- The words of a line with content. -/
structure IsContent (words : List Symbol) : Prop where
  /-- There are some. -/
  nonempty : words ≠ []
  /-- They are words. -/
  isWord : ∀ word ∈ words, Text.IsWord word.toList
  /-- The line is neither a header nor a comment. -/
  startsLine : ∀ word ∈ words.head?, StartsLine word

/-- Words of which the first starts a line are the words of a line with content, if there are
some. -/
theorem eq_nil_or_isContent (isWord : ∀ word ∈ words, Text.IsWord word.toList)
    (startsLine : ∀ word ∈ words.head?, StartsLine word) : words = [] ∨ IsContent words := by
  by_cases nonempty : words = []
  · exact .inl nonempty
  · exact .inr ⟨nonempty, isWord, startsLine⟩

/-- The words of a production line are those of a line with content exactly if its symbols are
words and the left-hand side starts a line. -/
theorem isContent_words_iff {line : Rule} :
    IsContent line.words ↔ (Text.IsWord line.name.toList ∧ StartsLine line.name) ∧
      ∀ production ∈ line.alternatives, ∀ symbol ∈ production.symbols,
        Text.IsWord symbol.toList := by
  constructor
  · intro content
    refine ⟨⟨content.isWord _ List.mem_cons_self, content.startsLine _ rfl⟩, ?_⟩
    intro production mem symbol inside
    refine content.isWord symbol (List.mem_cons_of_mem _ (List.mem_cons_of_mem _ ?_))
    exact Text.mem_intercalate_of_mem (List.mem_map_of_mem mem) inside
  · rintro ⟨⟨isWord, startsLine⟩, symbols⟩
    refine ⟨List.cons_ne_nil _ _, ?_, fun word first => Option.some.inj first ▸ startsLine⟩
    refine List.forall_mem_cons.mpr ⟨isWord, List.forall_mem_cons.mpr ⟨by decide, ?_⟩⟩
    intro word mem
    rcases Text.eq_or_exists_of_mem_intercalate mem with rfl | ⟨spelled, listed, inside⟩
    · decide
    · obtain ⟨production, mem, rfl⟩ := List.mem_map.mp listed
      exact symbols production mem word inside

/-! ### What a line counts as -/

theorem isWord_of_mem_lineWords {word : Symbol} (h : word ∈ lineWords line) :
    Text.IsWord word.toList := by
  obtain ⟨chars, mem, rfl⟩ := List.mem_map.mp h
  rw [String.toList_ofList]
  exact Text.isWord_of_mem_words mem

theorem words_eq_of_lineWords_eq (h : lineWords line = first :: others) :
    Text.words line = first.toList :: others.map String.toList := by
  obtain ⟨chars, rest, split, rfl, rfl⟩ := List.map_eq_cons_iff.mp h
  rw [split, String.toList_ofList, List.map_map]
  have same : String.toList ∘ String.ofList = id := funext fun _ => String.toList_ofList
  rw [same, List.map_id]

/-- A line without words counts for nothing. -/
theorem isSkipped_trim_of_lineWords_eq_nil (h : lineWords line = []) :
    isSkipped (Text.trim line) := by
  rw [isSkipped, Text.trim_eq_nil_iff.mpr (List.map_eq_nil_iff.mp h)]
  rfl

/-- A line counts for nothing if its first word starts with two slashes. -/
theorem isSkipped_trim_iff (h : lineWords line = first :: others) :
    isSkipped (Text.trim line) ↔ "//".toList <+: first.toList := by
  have read := words_eq_of_lineWords_eq h
  have nonempty : Text.trim line ≠ [] := by
    rw [Ne, Text.trim_eq_nil_iff, read]
    exact List.cons_ne_nil _ _
  have solid : Text.IsWord "//".toList := by decide
  rw [← Text.prefix_trim_iff read solid.2, isSkipped, Bool.or_eq_true, List.isEmpty_iff,
    List.isPrefixOf_iff_prefix]
  exact or_iff_right nonempty

/-- A line is a header if its first word starts with a number sign. -/
theorem head?_trim_eq_iff (h : lineWords line = first :: others) :
    (Text.trim line).head? = some '#' ↔ "#".toList <+: first.toList := by
  have solid : Text.IsWord "#".toList := by decide
  rw [← Text.prefix_trim_iff (words_eq_of_lineWords_eq h) solid.2]
  cases Text.trim line with
  | nil => simp
  | cons c rest => simp [eq_comm]

/-- A section has one header. -/
theorem ofHeader?_eq_some_iff {text : List Char} :
    Part.ofHeader? (String.ofList text) = some part ↔ text = part.header.toList := by
  constructor
  · intro found
    rw [← String.toList_ofList (l := text)]
    unfold Part.ofHeader? at found
    split at found <;> cases found <;> exact congrArg String.toList ‹_›
  · rintro rfl
    cases part <;> rfl

/-- What a line is read as, and how reading goes on after it. -/
theorem entriesFrom_cons_eq_ok_iff :
    entriesFrom current number (line :: lines) = .ok entries ↔
      if isSkipped (Text.trim line) then entriesFrom current (number + 1) lines = .ok entries
      else if (Text.trim line).head? = some '#' then
        ∃ part : Part, Text.trim line = part.header.toList ∧
          entriesFrom (some part) (number + 1) lines = .ok entries
      else
        ∃ part others, current = some part ∧
          entriesFrom current (number + 1) lines = .ok others ∧
          entries = ⟨number, part, lineWords line⟩ :: others := by
  conv_lhs => unfold entriesFrom
  dsimp only
  split
  · rfl
  · split
    · simp only [← ofHeader?_eq_some_iff]
      split
      · rename_i unknown
        simp [unknown]
      · rename_i part known
        simp [known]
    · cases current with
      | none => simp
      | some part =>
        dsimp only
        split
        · rename_i failed
          simp [failed]
        · rename_i others read
          simp [read, eq_comm]

theorem entriesFrom_of_isSkipped (h : isSkipped (Text.trim line)) :
    entriesFrom current number (line :: lines) = entriesFrom current (number + 1) lines :=
  if_pos h

/-- A line with content is read under its section. -/
theorem entriesFrom_of_isContent (h : IsContent (lineWords line))
    (read : entriesFrom (some part) (number + 1) lines = .ok entries) :
    entriesFrom (some part) number (line :: lines) =
      .ok (⟨number, part, lineWords line⟩ :: entries) := by
  obtain ⟨first, others, split⟩ := List.exists_cons_of_ne_nil h.nonempty
  have starts := h.startsLine first (by rw [split]; rfl)
  rw [entriesFrom_cons_eq_ok_iff, if_neg (mt (isSkipped_trim_iff split).mp starts.2),
    if_neg (mt (head?_trim_eq_iff split).mp starts.1)]
  exact ⟨part, entries, rfl, read, rfl⟩

/-- **What is read as a line with content.** -/
theorem isContent_of_entriesFrom (read : entriesFrom current number lines = .ok entries) :
    ∀ entry ∈ entries, IsContent entry.words := by
  induction lines generalizing current number entries with
  | nil =>
    cases read
    exact List.forall_mem_nil _
  | cons line lines ih =>
    rw [entriesFrom_cons_eq_ok_iff] at read
    split at read
    · exact ih read
    · rename_i counts
      split at read
      · obtain ⟨part, -, read⟩ := read
        exact ih read
      · rename_i header
        obtain ⟨part, others, -, more, rfl⟩ := read
        refine List.forall_mem_cons.mpr ⟨?_, ih more⟩
        refine ⟨fun none => counts (isSkipped_trim_of_lineWords_eq_nil none),
          fun _ => isWord_of_mem_lineWords, fun word mem => ?_⟩
        obtain ⟨rest, split⟩ := List.head?_eq_some_iff.mp mem
        exact ⟨mt (head?_trim_eq_iff split).mpr header, mt (isSkipped_trim_iff split).mpr counts⟩

theorem isContent_of_mem_wordsOf (h : ∀ entry ∈ entries, IsContent entry.words)
    (mem : words ∈ wordsOf part entries) : IsContent words := by
  obtain ⟨entry, among, rfl⟩ := List.mem_map.mp mem
  exact h entry (List.mem_filter.mp among).1

/-- The first word of some lines with content starts a line. -/
theorem startsLine_of_mem_head?_flatten {list : List (List Symbol)}
    (h : ∀ words ∈ list, IsContent words) : ∀ word ∈ list.flatten.head?, StartsLine word := by
  intro word mem
  cases list with
  | nil => cases mem
  | cons words others =>
    have content := h words List.mem_cons_self
    obtain ⟨first, rest, rfl⟩ := List.exists_cons_of_ne_nil content.nonempty
    exact content.startsLine word mem

/-! ### Writing lines -/

/-- A header starts its section. -/
theorem entriesFrom_header :
    entriesFrom current number (part.header.toList :: lines) =
      entriesFrom (some part) (number + 1) lines := by
  cases part <;> rfl

/-- Words with a space between neighbours are read back. -/
theorem lineWords_intercalate (h : ∀ word ∈ words, Text.IsWord word.toList) :
    lineWords (" ".intercalate words).toList = words := by
  have back : (words.map String.toList).map String.ofList = words := by
    simp [Function.comp_def]
  rw [lineWords, String.toList_intercalate]
  refine (congrArg (List.map String.ofList) (Text.words_intercalate fun chars mem => ?_)).trans back
  obtain ⟨word, inside, rfl⟩ := List.mem_map.mp mem
  exact h word inside

/-- Lines of words, each section under its header. -/
def write (parts : List (Part × List (List Symbol))) : List String :=
  parts.flatMap fun (part, lines) => part.header :: lines.map (" ".intercalate ·)

theorem wordsOf_cons (entry : Entry) (entries : List Entry) :
    wordsOf part (entry :: entries) =
      if entry.part = part then entry.words :: wordsOf part entries else wordsOf part entries := by
  rw [wordsOf, entriesOf, List.filter_cons]
  by_cases same : entry.part = part
  · simp [same, wordsOf, entriesOf]
  · simp [same, wordsOf, entriesOf]

/-- Lines of words are read back under their section. -/
theorem exists_entriesFrom_intercalate {contents : Part → List (List Symbol)}
    {list : List (List Symbol)} (h : ∀ words ∈ list, words = [] ∨ IsContent words)
    (after : ∀ number, ∃ entries, entriesFrom (some part) number lines = .ok entries ∧
      ∀ other, wordsOf other entries = contents other) (number : Nat) :
    ∃ entries, entriesFrom (some part) number
        ((list.map (" ".intercalate ·)).map String.toList ++ lines) = .ok entries ∧
      ∀ other, wordsOf other entries =
        (if part = other then list.filter (!·.isEmpty) else []) ++ contents other := by
  -- Line numbers go up along the list, so that what follows is read from every number.
  induction list generalizing number with
  | nil => simpa using after number
  | cons words list ih =>
    rw [List.forall_mem_cons] at h
    obtain ⟨entries, read, said⟩ := ih h.2 (number + 1)
    rcases h.1 with rfl | content
    · refine ⟨entries, ?_, by simpa using said⟩
      rw [← read]
      exact entriesFrom_of_isSkipped (by rfl)
    · have same := lineWords_intercalate content.isWord
      refine ⟨⟨number, part, words⟩ :: entries, ?_, fun other => ?_⟩
      · rw [← same] at content
        exact (entriesFrom_of_isContent content read).trans (by rw [same])
      · rw [wordsOf_cons, said]
        split
        · rw [List.filter_cons_of_pos (by simpa using content.nonempty), List.cons_append]
        · rfl

/-- Lines that are written under their headers are read back. -/
theorem exists_entriesFrom_write {parts : List (Part × List (List Symbol))}
    (h : ∀ part ∈ parts, ∀ words ∈ part.2, words = [] ∨ IsContent words) (current : Option Part)
    (number : Nat) :
    ∃ entries, entriesFrom current number ((write parts).map String.toList) = .ok entries ∧
      ∀ part, wordsOf part entries =
        parts.flatMap fun (other, lines) =>
          if other = part then lines.filter (!·.isEmpty) else [] := by
  induction parts generalizing current number with
  | nil => exact ⟨[], rfl, fun _ => rfl⟩
  | cons part parts ih =>
    obtain ⟨part, list⟩ := part
    rw [List.forall_mem_cons] at h
    obtain ⟨entries, read, said⟩ :=
      exists_entriesFrom_intercalate h.1 (ih h.2 (some part)) (number + 1)
    refine ⟨entries, ?_, said⟩
    have split : (write (⟨part, list⟩ :: parts)).map String.toList = part.header.toList ::
        ((list.map (" ".intercalate ·)).map String.toList ++ (write parts).map String.toList) := by
      rw [write, List.flatMap_cons, List.map_append]
      rfl
    rw [split, entriesFrom_header, read]

/-- There is no line break in what is written on a line. -/
theorem ne_of_mem_write {parts : List (Part × List (List Symbol))}
    (h : ∀ part ∈ parts, ∀ words ∈ part.2, words = [] ∨ IsContent words) {line : String}
    (mem : line ∈ write parts) {c : Char} (inside : c ∈ line.toList) : c ≠ '\n' ∧ c ≠ '\r' := by
  obtain ⟨⟨part, list⟩, among, mem⟩ := List.mem_flatMap.mp mem
  rcases List.mem_cons.mp mem with rfl | mem
  · have solid : Text.IsWord part.header.toList := by cases part <;> decide
    exact solid.ne_of_mem inside
  · obtain ⟨words, listed, rfl⟩ := List.mem_map.mp mem
    rw [String.toList_intercalate] at inside
    rcases Text.eq_or_exists_of_mem_intercalate inside with rfl | ⟨chars, spelled, inside⟩
    · decide
    · obtain ⟨word, mem, rfl⟩ := List.mem_map.mp spelled
      rcases h _ among words listed with rfl | content
      · cases mem
      · exact (content.isWord word mem).ne_of_mem inside

/-- **What is written is read back**: the words of a section are those that were written under its
headers. -/
theorem exists_entries_write {parts : List (Part × List (List Symbol))}
    (h : ∀ part ∈ parts, ∀ words ∈ part.2, words = [] ∨ IsContent words) :
    ∃ entries, Document.entries (String.join ((write parts).map (· ++ "\n"))) = .ok entries ∧
      ∀ part, wordsOf part entries =
        parts.flatMap fun (other, lines) =>
          if other = part then lines.filter (!·.isEmpty) else [] := by
  have text : (String.join ((write parts).map (· ++ "\n"))).toList =
      ((write parts).map String.toList).flatMap (· ++ ['\n']) := by
    simp [String.toList_join, List.flatMap_map]
  have back : Text.lines (String.join ((write parts).map (· ++ "\n"))).toList =
      (write parts).map String.toList := by
    rw [text, Text.lines_flatMap]
    intro chars written c inside
    obtain ⟨line, mem, rfl⟩ := List.mem_map.mp written
    exact ne_of_mem_write h mem inside
  rw [Document.entries, back]
  exact exists_entriesFrom_write h none 0

end Descent.Document
