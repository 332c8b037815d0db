import Descent.Program
import Descent.Proofs.Lexeme.Layout
import Descent.Proofs.Lexeme.Positions

/-!
# Longest matches

What the lexemes of a text are, said without reading it: blanks are passed over, and what stands
at the head of the rest is taken off.  There is one way to take a text apart like this, and
scanning finds it.

`Reading.Munched` is how a text is taken apart; it is to a whole text what `Vocabulary.Head` is to
its head.  `Records` says the same of the entry that is made of a lexeme, where the symbol table
is that which comes out in the end: an entry is right in the table that it was made with, and
stays right when more names are put in.  So `scan_exact` needs to follow neither the reading nor
the table.
-/

namespace Descent

open Text

variable [Alphabet] in
/-- The lexemes and errors of a text, if it has a last one. -/
def Vocabulary.read (vocabulary : Vocabulary) (text : String) :
    Option (List (Except LexicalError Lexeme)) :=
  (Reading.ofText text).all vocabulary (Reading.ofText text).rest.length

namespace Reading

variable {vocabulary : Vocabulary} {before text : List Char}
  {results : List (Except LexicalError Lexeme)}

/-- A blank is skipped together with those after it. -/
theorem skipBlanks_cons {c : Char} (blank : isBlank c) (before rest : List Char) :
    (ofRest before (c :: rest)).skipBlanks = (ofRest (before ++ [c]) rest).skipBlanks := by
  simp only [skipBlanks, ofRest, past, List.takeWhile_cons_of_pos blank, Caret.after_ofText,
    List.append_assoc, List.singleton_append, List.length_cons, List.drop_succ_cons]

theorem length_rest_skipBlanks_le (reading : Reading) :
    reading.skipBlanks.rest.length ≤ reading.rest.length := by
  rw [skipBlanks, past, List.length_drop]
  exact Nat.sub_le _ _

/-! ### Taking a text apart -/

variable [Alphabet]

/-- `Munched vocabulary before text results` says that `text`, which stands after `before`, is taken
apart into these results: blanks are passed over, and else the lexeme at the head comes next. -/
inductive Munched (vocabulary : Vocabulary) :
    List Char → List Char → List (Except LexicalError Lexeme) → Prop
  /-- Nothing is left. -/
  | done (before : List Char) : Munched vocabulary before [] []
  /-- A blank is passed over. -/
  | blank {before rest : List Char} {c : Char} {results : List (Except LexicalError Lexeme)}
      (h : isBlank c) (others : Munched vocabulary (before ++ [c]) rest results) :
      Munched vocabulary before (c :: rest) results
  /-- The lexeme at the head is taken off, or what is unknown there. -/
  | next {before body rest : List Char} {kind : Option LexemeKind}
      {results : List (Except LexicalError Lexeme)}
      (settled : ∀ c ∈ (body ++ rest).head?, ¬ isBlank c) (head : vocabulary.Head body rest kind)
      (others : Munched vocabulary (before ++ body) rest results) :
      Munched vocabulary before (body ++ rest)
        (outcome kind body (Span.stretch before body) :: results)

/-- Every text can be taken apart. -/
theorem exists_munched (proper : "" ∉ vocabulary.lexemes) (before text : List Char) :
    ∃ results, Munched vocabulary before text results := by
  -- A blank or a lexeme takes up a character or more, so that less is left after it.
  induction length : text.length using Nat.strong_induction_on generalizing before text with
  | _ count ih =>
    cases text with
    | nil => exact ⟨[], .done before⟩
    | cons c more =>
      by_cases blank : isBlank c
      · obtain ⟨results, others⟩ := ih more.length (by simp [← length]) (before ++ [c]) more rfl
        exact ⟨results, .blank blank others⟩
      · obtain ⟨body, rest, kind, whole, head⟩ :=
          vocabulary.exists_head (List.cons_ne_nil c more)
        have positive := List.length_pos_of_ne_nil (head.ne_nil proper)
        rw [whole, List.length_append] at length
        obtain ⟨results, others⟩ := ih rest.length (by omega) (before ++ body) rest rfl
        have settled : ∀ first ∈ (c :: more).head?, ¬ isBlank first := by simpa using blank
        rw [whole] at settled ⊢
        exact ⟨_, .next settled head others⟩

/-- There are no more results than characters from the first one on that is no blank. -/
theorem Munched.length_le (h : Munched vocabulary before text results)
    (proper : "" ∉ vocabulary.lexemes) :
    results.length ≤ (ofRest before text).skipBlanks.rest.length := by
  induction h with
  | done => exact Nat.zero_le _
  | blank h _ ih => rwa [skipBlanks_cons h]
  | @next before body rest kind results settled head _ ih =>
    have positive := List.length_pos_of_ne_nil (head.ne_nil proper)
    have later := ih.trans (length_rest_skipBlanks_le _)
    rw [skipBlanks_of_head settled]
    simp only [ofRest, List.length_append, List.length_cons] at later ⊢
    omega

/-- **What a text is taken apart into is read.** -/
theorem Munched.all_eq (h : Munched vocabulary before text results)
    (proper : "" ∉ vocabulary.lexemes) {limit : Nat} (enough : results.length ≤ limit) :
    (ofRest before text).skipBlanks.all vocabulary limit = some results := by
  induction h generalizing limit with
  | done before => cases limit <;> rfl
  | blank h _ ih =>
    rw [skipBlanks_cons h]
    exact ih enough
  | @next before body rest kind results settled head _ ih =>
    have nonempty := head.ne_nil proper
    have going : (ofRest before (body ++ rest)).isAtEnd = false := by
      simp [ofRest, isAtEnd, nonempty]
    obtain ⟨limit, rfl⟩ := Nat.exists_eq_add_of_le' (Nat.succ_le_of_lt enough)
    rw [skipBlanks_of_head settled]
    unfold Reading.all
    rw [if_neg (by simp [going])]
    simp only [next_ofRest settled nonempty (head.headKind_eq proper)]
    rw [ih (Nat.le_of_succ_le_succ enough)]
    rfl

/-- A text is read as it is taken apart. -/
theorem Munched.read_eq {text : String} (h : Munched vocabulary [] text.toList results)
    (proper : "" ∉ vocabulary.lexemes) : vocabulary.read text = some results :=
  h.all_eq proper (h.length_le proper)

/-- Each result is what stands at the head of the text from its place on. -/
theorem Munched.exists_head (h : Munched vocabulary before text results) :
    ∀ result ∈ results, ∃ above body rest kind, before ++ text = above ++ (body ++ rest) ∧
      (∀ c ∈ (body ++ rest).head?, ¬ isBlank c) ∧ vocabulary.Head body rest kind ∧
      result = outcome kind body (Span.stretch above body) := by
  induction h with
  | done => exact List.forall_mem_nil _
  | @blank before rest c results _ _ ih =>
    rw [List.append_assoc, List.singleton_append] at ih
    exact ih
  | @next before body rest kind results settled head _ ih =>
    rw [List.append_assoc] at ih
    exact List.forall_mem_cons.mpr ⟨⟨before, body, rest, kind, rfl, settled, head, rfl⟩, ih⟩

/-- There is one way to take a text apart. -/
theorem Munched.unique {others : List (Except LexicalError Lexeme)}
    (h : Munched vocabulary before text results) (h' : Munched vocabulary before text others)
    (proper : "" ∉ vocabulary.lexemes) : others = results := by
  have read := h.all_eq proper (h.length_le proper)
  rw [h'.all_eq proper (h'.length_le proper)] at read
  exact Option.some.inj read

end Reading

/-! ### Recording lexemes -/

/-- The names among some lexemes, which are the identifiers and the constants, in order. -/
def namesOf (lexemes : List Lexeme) : List String :=
  (lexemes.filter (·.kind ≠ .reserved)).map (·.body)

/-- `Records table lexeme entry` says what the entry of a lexeme is: its terminal, its place, and
the position at which the table holds it if it is a name. -/
inductive Records (table : SymbolTable) : Lexeme → ProgramEntry → Prop
  /-- A reserved lexeme is its own terminal. -/
  | reserved {body : String} {span : Span} :
      Records table ⟨.reserved, body, span⟩ ⟨body, none, span⟩
  /-- An identifier is in the table. -/
  | identifier {body : String} {span : Span} {position : Position}
      (held : table.position? body = some position) :
      Records table ⟨.identifier, body, span⟩ ⟨"identifier", some position, span⟩
  /-- So is a constant. -/
  | constant {body : String} {span : Span} {position : Position}
      (held : table.position? body = some position) :
      Records table ⟨.constant, body, span⟩ ⟨"number", some position, span⟩

/-- An entry stays right when more names are put in. -/
theorem Records.insertAll {table : SymbolTable} {lexeme : Lexeme} {entry : ProgramEntry}
    (h : Records table lexeme entry) (names : List String) :
    Records (table.insertAll names) lexeme entry := by
  cases h with
  | reserved => exact .reserved
  | identifier held => exact .identifier (SymbolTable.position?_insertAll held names)
  | constant held => exact .constant (SymbolTable.position?_insertAll held names)

theorem namesOf_append (lexemes more : List Lexeme) :
    namesOf (lexemes ++ more) = namesOf lexemes ++ namesOf more := by
  rw [namesOf, List.filter_append, List.map_append, namesOf, namesOf]

/-- The entry of a lexeme, and the table with its name. -/
theorem exists_recordLexeme_eq (table : SymbolTable) (lexeme : Lexeme) :
    ∃ entry, recordLexeme table lexeme = (table.insertAll (namesOf [lexeme]), entry) ∧
      Records (table.insertAll (namesOf [lexeme])) lexeme entry := by
  obtain ⟨kind, body, span⟩ := lexeme
  have held := table.position?_insert body
  cases kind with
  | reserved => exact ⟨_, rfl, .reserved⟩
  | identifier => exact ⟨_, rfl, .identifier held⟩
  | constant => exact ⟨_, rfl, .constant held⟩

/-- **The names of lexemes are put into the symbol table in order**, and each entry holds the
position of its name in the table that comes out. -/
theorem exists_record_eq (table : SymbolTable) (lexemes : List Lexeme) :
    ∃ program, record table lexemes = (table.insertAll (namesOf lexemes), program) ∧
      List.Forall₂ (Records (table.insertAll (namesOf lexemes))) lexemes program := by
  induction lexemes generalizing table with
  | nil => exact ⟨[], rfl, .nil⟩
  | cons lexeme lexemes ih =>
    obtain ⟨entry, first, right⟩ := exists_recordLexeme_eq table lexeme
    obtain ⟨program, others, entries⟩ := ih (table.insertAll (namesOf [lexeme]))
    rw [← List.singleton_append, namesOf_append, SymbolTable.insertAll_append]
    refine ⟨entry :: program, ?_, .cons (right.insertAll _) entries⟩
    simp only [List.singleton_append, record, first, others]

/-- Where there are no errors there is nothing but lexemes. -/
theorem eq_map_lexemesOf {results : List (Except LexicalError Lexeme)} (h : errorsOf results = []) :
    results = (lexemesOf results).map .ok := by
  induction results with
  | nil => rfl
  | cons result results ih =>
    cases result with
    | error error => cases h
    | ok lexeme => exact congrArg (.ok lexeme :: ·) (ih h)

/-! ### Scanning -/

/-- A program, unless there are errors. -/
def programUnless (errors : List LexicalError) (program : Program) :
    Except (List LexicalError) Program :=
  match errors with
  | [] => .ok program
  | errors => .error errors

section Alphabet

variable [Alphabet]

/-- What a scan gives is known from what is read. -/
theorem scan_of_read {vocabulary : Vocabulary} {text : String}
    {results : List (Except LexicalError Lexeme)} (read : vocabulary.read text = some results)
    (table : SymbolTable) :
    scan vocabulary text table =
      some (programUnless (errorsOf results) (record table (lexemesOf results)).2,
        (record table (lexemesOf results)).1) := by
  rw [Vocabulary.read] at read
  simp only [scan, read, Option.bind_eq_bind, Option.bind_some]
  cases errorsOf results <;> rfl

/-- What a scan gives is known from what the text is taken apart into. -/
theorem Reading.Munched.scan_eq {vocabulary : Vocabulary} {text : String}
    {results : List (Except LexicalError Lexeme)}
    (h : Munched vocabulary [] text.toList results) (proper : "" ∉ vocabulary.lexemes)
    (table : SymbolTable) :
    scan vocabulary text table =
      some (programUnless (errorsOf results) (record table (lexemesOf results)).2,
        (record table (lexemesOf results)).1) :=
  scan_of_read (h.read_eq proper) table

/-- A scan comes to an end, with a program or with errors. -/
theorem scan_cases {vocabulary : Vocabulary} (proper : "" ∉ vocabulary.lexemes) (text : String)
    (table : SymbolTable) :
    (∃ program last, scan vocabulary text table = some (.ok program, last)) ∨
      ∃ errors last, errors ≠ [] ∧ scan vocabulary text table = some (.error errors, last) := by
  obtain ⟨results, munched⟩ := Reading.exists_munched proper [] text.toList
  rw [munched.scan_eq proper table]
  cases errorsOf results with
  | nil => exact .inl ⟨_, _, rfl⟩
  | cons error errors => exact .inr ⟨_, _, List.cons_ne_nil error errors, rfl⟩

/-- **Scanning takes a text apart by longest matches.**  There is one way to take the text apart.
If something unknown is found, all of it is reported in order, and else the program has an entry
for each lexeme.  Either way the names among the lexemes are put into the symbol table in order. -/
theorem scan_exact {vocabulary : Vocabulary} (proper : "" ∉ vocabulary.lexemes) (text : String)
    (table : SymbolTable) :
    ∃ results, (∀ other, Reading.Munched vocabulary [] text.toList other ↔ other = results) ∧
      let lexemes := lexemesOf results
      let last := table.insertAll (namesOf lexemes)
      (errorsOf results ≠ [] →
        scan vocabulary text table = some (.error (errorsOf results), last)) ∧
      (errorsOf results = [] → results = lexemes.map .ok ∧
        ∃ program, scan vocabulary text table = some (.ok program, last) ∧
          List.Forall₂ (Records last) lexemes program) := by
  obtain ⟨results, munched⟩ := Reading.exists_munched proper [] text.toList
  refine ⟨results, fun other => ⟨fun found => munched.unique found proper, ?_⟩, ?_⟩
  · rintro rfl
    exact munched
  intro lexemes last
  have read : (Reading.ofText text).all vocabulary (Reading.ofText text).rest.length =
      some results :=
    munched.all_eq proper (munched.length_le proper)
  obtain ⟨program, recorded, entries⟩ := exists_record_eq table lexemes
  constructor
  · intro unknown
    obtain ⟨error, errors, found⟩ := List.exists_cons_of_ne_nil unknown
    simp only [scan, read, Option.bind_eq_bind, Option.bind_some, recorded, found, lexemes]
    rfl
  · intro known
    refine ⟨eq_map_lexemesOf known, program, ?_, entries⟩
    simp only [scan, read, Option.bind_eq_bind, Option.bind_some, recorded, known, lexemes]
    rfl

end Alphabet

/-- The longer of two signs, an unknown character, and two names that are recorded all the same. -/
theorem scan_exact_line :
    let vocabulary := Vocabulary.ofList ["<", "<=", "let"]
    let text := "let a1<=$ 7"
    let table := SymbolTable.ofCapacity 10
    let errors := [LexicalError.unknownLexeme (Span.between ⟨0, 8⟩ ⟨0, 9⟩) "$"]
    scan vocabulary text table = some (.error errors, table.insertAll ["a1", "7"]) ∧
      ∃ results, Reading.Munched vocabulary [] text.toList results ∧ errorsOf results = errors := by
  intro vocabulary text table errors
  have scanned : scan vocabulary text table =
      some (.error errors, table.insertAll ["a1", "7"]) := by
    decide +kernel
  have proper : "" ∉ vocabulary.lexemes := by decide
  obtain ⟨results, munched, found, none⟩ := scan_exact proper text table
  refine ⟨scanned, results, (munched results).mpr rfl, ?_⟩
  by_cases known : errorsOf results = []
  · obtain ⟨-, program, accepted, -⟩ := none known
    rw [scanned] at accepted
    cases accepted
  · have rejected := found known
    rw [scanned] at rejected
    exact (Except.error.inj (congrArg Prod.fst (Option.some.inj rejected))).symm

end Descent
