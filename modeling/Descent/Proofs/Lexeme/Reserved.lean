import Descent.Proofs.Lexeme.Sharing

/-!
# Which reserved lexemes are read

A word is read as a whole before it is looked up in the vocabulary, and signs are looked up only
where no word starts.  So a lexeme of the vocabulary is read if it is a word of its own or starts
with no part of a word.  One that starts like a word and goes on otherwise, such as `a+`, is never
read, wherever it stands: the word at its head is.

That it is never read is said of all texts, of whatever length; places are counted without a
bound.
-/

namespace Descent

open Text

/-- An entry without a position is that of a reserved lexeme, which is its own terminal. -/
theorem Records.terminal_eq_body {table : SymbolTable} {lexeme : Lexeme} {entry : ProgramEntry}
    (h : Records table lexeme entry) (reserved : entry.position = none) :
    entry.terminal = lexeme.body := by
  cases h with
  | reserved => rfl
  | identifier => cases reserved
  | constant => cases reserved

namespace Vocabulary

variable {vocabulary : Vocabulary} {body rest : List Char} {kind : Option LexemeKind}
  {lexeme text : String}

section Alphabet

variable [Alphabet]

/-- All of the characters are parts of words, or the first of them is none. -/
def Readable (text : List Char) : Prop :=
  (∀ c ∈ text, isWordPart c) ∨ ∀ c ∈ text.head?, ¬ isWordPart c

instance (text : List Char) : Decidable (Readable text) :=
  decidable_of_iff (text.all isWordPart ∨ text.head?.all (!isWordPart ·))
    (by cases text <;> simp [Readable])

/-- **What stands at the head of a text** is a word, or does not start like one. -/
theorem Head.readable (h : vocabulary.Head body rest kind) (nonempty : body ≠ []) :
    Readable body := by
  cases h with
  | word _ parts => exact .inl parts
  | sign start =>
    obtain ⟨first, others, rfl⟩ := List.exists_cons_of_ne_nil nonempty
    exact .inr start
  | unknown start =>
    refine .inr fun first mem => ?_
    rwa [← Option.some.inj mem]

/-- What is read of a text is a word, or does not start like one. -/
theorem readable_of_mem_read {results : List (Except LexicalError Lexeme)} {found : Lexeme}
    (proper : "" ∉ vocabulary.lexemes) (read : vocabulary.read text = some results)
    (mem : .ok found ∈ results) : Readable found.body.toList := by
  obtain ⟨results', munched⟩ := Reading.exists_munched proper [] text.toList
  obtain rfl := Option.some.inj (read.symm.trans (munched.read_eq proper))
  obtain ⟨above, body, rest, kind, -, -, head, same⟩ := munched.exists_head _ mem
  cases kind with
  | none => cases same
  | some kind =>
    cases same
    rw [String.toList_ofList]
    exact head.readable (head.ne_nil proper)

/-- A lexeme of the vocabulary stands at the head of its own text, if it can be read at all. -/
theorem Readable.head (readable : Readable lexeme.toList) (known : lexeme ∈ vocabulary.lexemes)
    (nonempty : lexeme.toList ≠ []) : vocabulary.Head lexeme.toList [] (some .reserved) := by
  have known' : String.ofList lexeme.toList ∈ vocabulary.lexemes := by rwa [String.ofList_toList]
  rcases readable with parts | start
  · exact .word nonempty parts nofun (.reserved known')
  · refine .sign ?_ known' ?_
    · rwa [List.append_nil]
    · intro other _ within
      rw [List.append_nil] at within
      rw [← String.length_toList]
      exact within.length_le

/-- **A lexeme that can be read is read as itself**, where its text is all there is. -/
theorem Readable.exists_read_eq (readable : Readable lexeme.toList) (solid : vocabulary.Solid)
    (known : lexeme ∈ vocabulary.lexemes) :
    ∃ span, vocabulary.read lexeme = some [.ok ⟨.reserved, lexeme, span⟩] := by
  have word : IsWord lexeme.toList := solid lexeme known
  have head := readable.head known word.1
  have settled : ∀ c ∈ (lexeme.toList ++ []).head?, ¬ isBlank c := word.not_isBlank_head []
  have munched := Reading.Munched.next settled head (.done ([] ++ lexeme.toList))
  rw [List.append_nil, Reading.outcome, String.ofList_toList] at munched
  exact ⟨_, munched.read_eq solid.empty_not_mem⟩

/-- A reserved entry of a program stands for a lexeme that can be read. -/
theorem readable_of_mem_program {table last : SymbolTable} {program : Program}
    {entry : ProgramEntry} (proper : "" ∉ vocabulary.lexemes)
    (scanned : scan vocabulary text table = some (.ok program, last)) (mem : entry ∈ program)
    (reserved : entry.position = none) : Readable entry.terminal.toList := by
  obtain ⟨outcome, names, scanned', recorded⟩ := exists_scan_eq proper text table
  obtain ⟨rfl, -⟩ := Prod.mk.inj (Option.some.inj (scanned'.symm.trans scanned))
  obtain ⟨lexemes, read, -, entries⟩ := recorded program rfl
  obtain ⟨i, inside, rfl⟩ := List.getElem_of_mem mem
  have inside' : i < lexemes.length := entries.length_eq ▸ inside
  have right : Records (table.insertAll names) lexemes[i] program[i] := entries.get inside' inside
  have read' : .ok lexemes[i] ∈ (lexemes.map .ok : List (Except LexicalError Lexeme)) :=
    List.mem_map_of_mem (List.getElem_mem inside')
  rw [right.terminal_eq_body reserved]
  exact readable_of_mem_read proper read read'

/-- **Which lexemes of a loaded vocabulary are read.**  The text of such a lexeme is read as it, and
as nothing else, exactly if all of its characters are parts of words or the first of them is none.
Otherwise it is not a reserved lexeme of any text. -/
theorem readable_exact {source : String} (loaded : load source = .ok vocabulary)
    (known : lexeme ∈ vocabulary.lexemes) :
    ((∃ found : Lexeme, vocabulary.read lexeme = some [.ok found] ∧ found.kind = .reserved ∧
        found.terminal = lexeme) ↔ Readable lexeme.toList) ∧
    (∀ table, (∃ entry, scan vocabulary lexeme table = some (.ok [entry], table) ∧
        entry.position = none ∧ entry.terminal = lexeme) ↔ Readable lexeme.toList) ∧
    (¬ Readable lexeme.toList → ∀ text,
      (∃ results, vocabulary.read text = some results ∧ ∀ found : Lexeme, .ok found ∈ results →
        found.kind = .reserved → found.terminal ≠ lexeme) ∧
      ∀ table program last, scan vocabulary text table = some (.ok program, last) →
        ∀ entry ∈ program, entry.position = none → entry.terminal ≠ lexeme) := by
  have solid : vocabulary.Solid := solid_of_load loaded
  have proper := solid.empty_not_mem
  -- A reserved lexeme is its own terminal, so that it is read only if it can be.
  have terminal {text : String} {results : List (Except LexicalError Lexeme)} {found : Lexeme}
      (read : vocabulary.read text = some results) (mem : .ok found ∈ results)
      (reserved : found.kind = .reserved) (same : found.terminal = lexeme) :
      Readable lexeme.toList := by
    have body : found.body = lexeme := by
      rw [← same, Lexeme.terminal, reserved]
    exact body ▸ readable_of_mem_read proper read mem
  refine ⟨⟨?_, fun readable => ?_⟩, fun table => ⟨?_, fun readable => ?_⟩,
    fun barred text => ⟨?_, ?_⟩⟩
  · rintro ⟨found, read, reserved, same⟩
    exact terminal read List.mem_cons_self reserved same
  · obtain ⟨span, read⟩ := readable.exists_read_eq solid known
    exact ⟨_, read, rfl, rfl⟩
  · rintro ⟨entry, scanned, reserved, same⟩
    exact same ▸ readable_of_mem_program proper scanned List.mem_cons_self reserved
  · obtain ⟨span, read⟩ := readable.exists_read_eq solid known
    exact ⟨_, scan_of_read read table, rfl, rfl⟩
  · obtain ⟨results, munched⟩ := Reading.exists_munched proper [] text.toList
    have read := munched.read_eq proper
    exact ⟨results, read, fun found mem reserved same => barred (terminal read mem reserved same)⟩
  · intro table program last scanned entry mem reserved same
    exact barred (same ▸ readable_of_mem_program proper scanned mem reserved)

end Alphabet

/-- Of two lexemes that start alike one can be read, and the other is never found. -/
theorem readable_exact_signs :
    let vocabulary := ofList ["+a", "a+"]
    let table := SymbolTable.ofCapacity 10
    (∃ entry, scan vocabulary "+a" table = some (.ok [entry], table) ∧
      entry.position = none ∧ entry.terminal = "+a") ∧
    ¬ Readable "a+".toList ∧
    ∃ results, vocabulary.read "a+a+" = some results ∧ ∀ found : Lexeme, .ok found ∈ results →
      found.kind = .reserved → found.terminal ≠ "a+" := by
  intro vocabulary table
  have loaded : load "a+\n+a" = .ok vocabulary := by rfl
  have readable : Readable "+a".toList := by decide +kernel
  have barred : ¬ Readable "a+".toList := by decide +kernel
  obtain ⟨-, scans, -⟩ := readable_exact loaded (show "+a" ∈ vocabulary.lexemes by decide)
  obtain ⟨-, -, never⟩ := readable_exact loaded (show "a+" ∈ vocabulary.lexemes by decide)
  exact ⟨(scans table).mpr readable, barred, (never barred "a+a+").1⟩

end Vocabulary

end Descent
