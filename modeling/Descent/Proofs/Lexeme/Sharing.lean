import Descent.Proofs.Lexeme.Munch

/-!
# One symbol table for many texts

Texts can be scanned one after the other with one symbol table.  A scan puts names into the table,
with or without errors, and takes none out.  So the entries of each program can be looked up in
the table that comes out at the end, and two of them have the same position if their lexemes have
the same characters, whichever texts they come from.

The table is passed from scan to scan, and the entries of the first text have to be right in the
last table.  What makes this an easy induction is that `Records` is kept by putting names in,
whoever does it.  Places play no part, and are counted without a bound.
-/

namespace Descent

variable [Text.Alphabet] in
/-- What some texts give that are scanned one after the other, and the symbol table at the end. -/
def scanAll (vocabulary : Vocabulary) (table : SymbolTable) :
    List String → Option (List (Except (List LexicalError) Program) × SymbolTable)
  | [] => some ([], table)
  | text :: texts => do
    let (outcome, table) ← scan vocabulary text table
    let (outcomes, table) ← scanAll vocabulary table texts
    return (outcome :: outcomes, table)

variable {vocabulary : Vocabulary} {table last : SymbolTable} {text : String}
  {texts : List String} {outcome : Except (List LexicalError) Program}
  {outcomes : List (Except (List LexicalError) Program)} {lexeme : Lexeme} {entry : ProgramEntry}

/-! ### Lexemes in their text -/

/-- `lexeme.StandsIn vocabulary text` says that the text has the characters of the lexeme at its
place, and that it is reserved if the vocabulary has it. -/
structure Lexeme.StandsIn (vocabulary : Vocabulary) (text : String) (lexeme : Lexeme) : Prop where
  /-- The characters are in the text, and the place is theirs. -/
  quoted : ∃ before rest, text.toList = before ++ (lexeme.body.toList ++ rest) ∧
    lexeme.span = Span.stretch before lexeme.body.toList
  /-- The lexemes of the vocabulary are reserved, and no others. -/
  reserved_iff : lexeme.kind = .reserved ↔ lexeme.body ∈ vocabulary.lexemes

variable [Text.Alphabet] in
/-- The lexemes that are read in a text stand in it. -/
theorem Reading.Munched.standsIn {results : List (Except LexicalError Lexeme)}
    (h : Munched vocabulary [] text.toList results) (mem : .ok lexeme ∈ results) :
    lexeme.StandsIn vocabulary text := by
  obtain ⟨before, body, rest, kind, whole, -, head, same⟩ := h.exists_head _ mem
  cases kind with
  | none => cases same
  | some kind =>
    cases same
    refine ⟨⟨before, rest, ?_, ?_⟩, head.eq_reserved_iff⟩ <;> rw [String.toList_ofList]
    exact whole

/-! ### The positions of entries -/

/-- Two names have the same position if they are the same, if one of them has a position at all. -/
theorem SymbolTable.position?_eq_iff {name name' : String} (held : (table.position? name).isSome) :
    table.position? name = table.position? name' ↔ name = name' := by
  refine ⟨fun same => ?_, congrArg _⟩
  obtain ⟨position, found⟩ := Option.isSome_iff_exists.mp held
  exact Option.some.inj <|
    (name?_of_position? found).symm.trans (name?_of_position? (same.symm.trans found))

/-- There is no position in the entry of a reserved lexeme, and in that of no other. -/
theorem Records.position_eq_none_iff (h : Records table lexeme entry) :
    entry.position = none ↔ lexeme.kind = .reserved := by
  cases h with
  | reserved => exact iff_of_true rfl rfl
  | identifier => exact iff_of_false (Option.some_ne_none _) LexemeKind.noConfusion
  | constant => exact iff_of_false (Option.some_ne_none _) LexemeKind.noConfusion

/-- The position in the entry of a name is where the table holds it. -/
theorem Records.position_eq (h : Records table lexeme entry) (name : lexeme.kind ≠ .reserved) :
    entry.position = table.position? lexeme.body ∧ (table.position? lexeme.body).isSome := by
  cases h with
  | reserved => exact absurd rfl name
  | identifier held => exact ⟨held.symm, held ▸ rfl⟩
  | constant held => exact ⟨held.symm, held ▸ rfl⟩

/-- `Faithful vocabulary last text lexeme entry` says that an entry tells what its lexeme is, to
those who have the symbol table `last`. -/
structure Faithful (vocabulary : Vocabulary) (last : SymbolTable) (text : String) (lexeme : Lexeme)
    (entry : ProgramEntry) : Prop where
  /-- The lexeme stands in its text. -/
  standsIn : lexeme.StandsIn vocabulary text
  /-- The entry has the place of the lexeme. -/
  span_eq : entry.span = lexeme.span
  /-- It has the terminal of the lexeme. -/
  terminal_eq : entry.terminal = lexeme.terminal
  /-- There is no position if the lexeme is reserved, and only then. -/
  position_eq_none_iff : entry.position = none ↔ lexeme.kind = .reserved
  /-- What the table has at the position are the characters of the lexeme. -/
  name?_eq : ∀ position, entry.position = some position → last.name? position = some lexeme.body

/-- An entry that is right for its lexeme is faithful to it. -/
theorem Records.faithful (h : Records last lexeme entry)
    (stands : lexeme.StandsIn vocabulary text) : Faithful vocabulary last text lexeme entry := by
  refine ⟨stands, ?_, ?_, h.position_eq_none_iff, fun position same => ?_⟩
  · cases h <;> rfl
  · cases h <;> rfl
  · have name : lexeme.kind ≠ .reserved := fun reserved => by
      rw [h.position_eq_none_iff.mpr reserved] at same
      cases same
    exact SymbolTable.name?_of_position? ((h.position_eq name).1.symm.trans same)

/-! ### One text after the other -/

section Alphabet

variable [Text.Alphabet]

/-- `Recorded vocabulary table text outcome` says that a program of the text, if the outcome is one,
has an entry for each lexeme of the text, and that the table has their names. -/
def Recorded (vocabulary : Vocabulary) (table : SymbolTable) (text : String)
    (outcome : Except (List LexicalError) Program) : Prop :=
  ∀ program, outcome = .ok program → ∃ lexemes, vocabulary.read text = some (lexemes.map .ok) ∧
    (∀ lexeme ∈ lexemes, lexeme.StandsIn vocabulary text) ∧
    List.Forall₂ (Records table) lexemes program

/-- What is recorded stays so when more names are put in. -/
theorem Recorded.insertAll (h : Recorded vocabulary table text outcome) (names : List String) :
    Recorded vocabulary (table.insertAll names) text outcome := by
  intro program accepted
  obtain ⟨lexemes, read, stand, entries⟩ := h program accepted
  exact ⟨lexemes, read, stand, entries.imp fun _ _ right => right.insertAll names⟩

/-- **A scan puts names into the table, and its entries are right.** -/
theorem exists_scan_eq (proper : "" ∉ vocabulary.lexemes) (text : String) (table : SymbolTable) :
    ∃ outcome names, scan vocabulary text table = some (outcome, table.insertAll names) ∧
      Recorded vocabulary (table.insertAll names) text outcome := by
  obtain ⟨results, munched⟩ := Reading.exists_munched proper [] text.toList
  obtain ⟨program, recorded, entries⟩ := exists_record_eq table (lexemesOf results)
  refine ⟨programUnless (errorsOf results) program, namesOf (lexemesOf results), ?_, ?_⟩
  · rw [munched.scan_eq proper table, recorded]
  · intro program' accepted
    cases known : errorsOf results with
    | cons error errors =>
      rw [known] at accepted
      cases accepted
    | nil =>
      rw [known] at accepted
      cases accepted
      have whole := eq_map_lexemesOf known
      refine ⟨lexemesOf results, ?_, fun lexeme mem => munched.standsIn ?_, entries⟩
      · rw [← whole]
        exact munched.read_eq proper
      · rw [whole]
        exact List.mem_map_of_mem mem

/-- **Scans one after the other put names into the table, and all their entries are right** at the
end, since what one of them recorded stays while the others go on. -/
theorem exists_scanAll_eq (proper : "" ∉ vocabulary.lexemes) (texts : List String)
    (table : SymbolTable) :
    ∃ outcomes names, scanAll vocabulary table texts = some (outcomes, table.insertAll names) ∧
      List.Forall₂ (Recorded vocabulary (table.insertAll names)) texts outcomes := by
  induction texts generalizing table with
  | nil => exact ⟨[], [], rfl, .nil⟩
  | cons text texts ih =>
    obtain ⟨outcome, names, scanned, right⟩ := exists_scan_eq proper text table
    obtain ⟨outcomes, more, others, rights⟩ := ih (table.insertAll names)
    rw [← SymbolTable.insertAll_append] at others rights
    refine ⟨outcome :: outcomes, names ++ more, ?_, .cons ?_ rights⟩
    · simp only [scanAll, scanned, others, Option.bind_eq_bind, Option.bind_some]
      rfl
    · rw [SymbolTable.insertAll_append]
      exact right.insertAll more

/-! ### Back from entries to characters -/

/-- `Entered vocabulary texts outcomes text lexeme entry` says that `text` is one of the texts, that
it has a program, and that of this program `entry` is the one of `lexeme`. -/
def Entered (vocabulary : Vocabulary) (texts : List String)
    (outcomes : List (Except (List LexicalError) Program)) (text : String) (lexeme : Lexeme)
    (entry : ProgramEntry) : Prop :=
  ∃ program, (text, .ok program) ∈ texts.zip outcomes ∧
    ∃ lexemes : List Lexeme, vocabulary.read text = some (lexemes.map .ok) ∧
      (lexeme, entry) ∈ lexemes.zip program

/-- What is entered is recorded. -/
theorem Entered.records (h : Entered vocabulary texts outcomes text lexeme entry)
    (rights : List.Forall₂ (Recorded vocabulary last) texts outcomes) :
    Records last lexeme entry ∧ lexeme.StandsIn vocabulary text := by
  obtain ⟨program, scanned, lexemes, read, mem⟩ := h
  obtain ⟨lexemes', read', stand, entries⟩ := (List.forall₂_iff_zip.mp rights).2 scanned program rfl
  obtain rfl : lexemes = lexemes' :=
    List.map_injective_iff.mpr (fun _ _ => Except.ok.inj) (Option.some.inj (read.symm.trans read'))
  exact ⟨(List.forall₂_iff_zip.mp entries).2 mem, stand lexeme (List.of_mem_zip mem).1⟩

/-- **Positions are faithful when texts are scanned one after the other with one symbol table.**
If the vocabulary does not hold the empty lexeme, each scan comes to an end, and a program has an
entry for each lexeme of its text.  Whatever is scanned later, with or without errors, an entry
still tells what its lexeme is: there is no position if that was reserved and only then, and else
the table has its characters, which are those of the text, at the position.  Two entries of names,
of one text or of two, have the same position if the names are the same and only then. -/
theorem scanAll_faithful (proper : "" ∉ vocabulary.lexemes) (texts : List String)
    (table : SymbolTable) :
    ∃ outcomes last, scanAll vocabulary table texts = some (outcomes, last) ∧
      outcomes.length = texts.length ∧
      (∀ text program, (text, .ok program) ∈ texts.zip outcomes →
        ∃ lexemes : List Lexeme, vocabulary.read text = some (lexemes.map .ok) ∧
          lexemes.length = program.length) ∧
      (∀ text lexeme entry, Entered vocabulary texts outcomes text lexeme entry →
        Faithful vocabulary last text lexeme entry) ∧
      ∀ text text' lexeme lexeme' entry entry',
        Entered vocabulary texts outcomes text lexeme entry →
        Entered vocabulary texts outcomes text' lexeme' entry' →
        lexeme.kind ≠ .reserved → lexeme'.kind ≠ .reserved →
        (entry.position = entry'.position ↔ lexeme.body = lexeme'.body) := by
  obtain ⟨outcomes, names, scanned, rights⟩ := exists_scanAll_eq proper texts table
  refine ⟨outcomes, _, scanned, rights.length_eq.symm, fun text program mem => ?_,
    fun text lexeme entry entered => ?_, ?_⟩
  · obtain ⟨lexemes, read, -, entries⟩ := (List.forall₂_iff_zip.mp rights).2 mem program rfl
    exact ⟨lexemes, read, entries.length_eq⟩
  · obtain ⟨right, stands⟩ := entered.records rights
    exact right.faithful stands
  · intro text text' lexeme lexeme' entry entry' entered entered' name name'
    obtain ⟨same, held⟩ := (entered.records rights).1.position_eq name
    obtain ⟨same', -⟩ := (entered'.records rights).1.position_eq name'
    rw [same, same', SymbolTable.position?_eq_iff held]

end Alphabet

/-- Three names share a bucket, one of which comes in a text with an unknown character.  The name
that comes first keeps its position, and has it in the last text as well. -/
theorem scanAll_faithful_bucket :
    let vocabulary := Vocabulary.ofList ["let", "="]
    let table := SymbolTable.ofCapacity 10
    let texts := ["let ab = 7", "ba $", "ba ab"]
    let place (start stop : Nat) : Span := Span.between ⟨0, start⟩ ⟨0, stop⟩
    let entry : ProgramEntry := ⟨"identifier", some ⟨5, 0⟩, place 4 6⟩
    let entry' : ProgramEntry := ⟨"identifier", some ⟨5, 0⟩, place 3 5⟩
    let first : Program := [⟨"let", none, place 0 3⟩, entry, ⟨"=", none, place 7 8⟩,
      ⟨"number", some ⟨5, 1⟩, place 9 10⟩]
    let third : Program := [⟨"identifier", some ⟨5, 2⟩, place 0 2⟩, entry']
    let outcomes := [.ok first, .error [.unknownLexeme (place 3 4) "$"], .ok third]
    "" ∉ vocabulary.lexemes ∧
      ∃ last, scanAll vocabulary table texts = some (outcomes, last) ∧
        last.name? ⟨5, 0⟩ = some "ab" ∧ entry.position = entry'.position := by
  intro vocabulary table texts place entry entry' first third outcomes
  have proper : "" ∉ vocabulary.lexemes := by decide
  have evaluated : scanAll vocabulary table texts =
      some (outcomes, table.insertAll ["ab", "7", "ba"]) := by
    decide +kernel
  obtain ⟨found, last, scanned, -, -, faithful, same⟩ := scanAll_faithful proper texts table
  obtain ⟨rfl, rfl⟩ := Prod.mk.inj (Option.some.inj (evaluated.symm.trans scanned))
  let lexeme : Lexeme := ⟨.identifier, "ab", place 4 6⟩
  let lexeme' : Lexeme := ⟨.identifier, "ab", place 3 5⟩
  have entered : Entered vocabulary texts outcomes "let ab = 7" lexeme entry :=
    ⟨first, List.mem_of_getElem? (i := 0) rfl, [⟨.reserved, "let", place 0 3⟩, lexeme,
      ⟨.reserved, "=", place 7 8⟩, ⟨.constant, "7", place 9 10⟩], by decide +kernel,
      List.mem_of_getElem? (i := 1) rfl⟩
  have entered' : Entered vocabulary texts outcomes "ba ab" lexeme' entry' :=
    ⟨third, List.mem_of_getElem? (i := 2) rfl, [⟨.identifier, "ba", place 0 2⟩, lexeme'],
      by decide +kernel, List.mem_of_getElem? (i := 1) rfl⟩
  exact ⟨proper, _, scanned, (faithful _ _ _ entered).name?_eq _ rfl,
    (same _ _ _ _ _ _ entered entered' LexemeKind.noConfusion LexemeKind.noConfusion).mpr rfl⟩

end Descent
