import Descent.Proofs.Lexeme.Seam

/-!
# Spacing

What separates the lexemes of a text has no bearing on them.  Once they are known, they can be
written with other blanks between them, and are read back: no lexeme has a blank in it, so which
one stands at the head of a text does not depend on what comes after it, as long as that is a
blank.

Places do depend on it, so results, entries and scans are compared without theirs (`unplaced`).
This is also why nothing is assumed of how long the text is: places are counted without a bound
here, and none of them is looked at.
-/

namespace Descent

open Text

/-! ### Pieces with blanks between them -/

/-- `Text.Spaced pieces text` says that `text` consists of the pieces in order, with a blank or
more between neighbours and nothing else. -/
inductive Text.Spaced : List (List Char) → List Char → Prop
  /-- No pieces are written as nothing. -/
  | nil : Spaced [] []
  /-- There is nothing around a single piece. -/
  | single (piece : List Char) : Spaced [piece] piece
  /-- After a piece comes a gap, and then the next one. -/
  | cons {piece gap next text : List Char} {others : List (List Char)} (nonempty : gap ≠ [])
      (blank : ∀ c ∈ gap, isBlank c) (rest : Spaced (next :: others) text) :
      Spaced (piece :: next :: others) (piece ++ (gap ++ text))

/-- Pieces can be written with one space between neighbours. -/
theorem Text.spaced_intercalate (pieces : List (List Char)) :
    Spaced pieces ([' '].intercalate pieces) := by
  induction pieces with
  | nil => exact .nil
  | cons piece others ih =>
    cases others with
    | nil =>
      rw [List.intercalate_singleton]
      exact .single piece
    | cons next others =>
      rw [List.intercalate_cons_cons, List.append_assoc]
      exact .cons (List.cons_ne_nil ' ' []) (List.all_eq_true.mp rfl) ih

/-! ### Lexemes before blanks -/

namespace Vocabulary

variable {vocabulary : Vocabulary} {body rest more : List Char} {kind : Option LexemeKind}

variable [Alphabet]

/-- **The lexeme at the head of a text is a word**, where no blank stands there. -/
theorem Head.isWord (h : vocabulary.Head body rest kind) (solid : vocabulary.Solid)
    (settled : ∀ c ∈ (body ++ rest).head?, ¬ isBlank c) : IsWord body := by
  cases h with
  | word nonempty parts =>
    exact ⟨nonempty, fun c mem blank => not_isWordPart_of_isBlank blank (parts c mem)⟩
  | sign _ known =>
    have word := solid _ known
    rwa [String.toList_ofList] at word
  | @unknown c =>
    refine ⟨List.cons_ne_nil c [], fun other mem => ?_⟩
    rw [List.mem_singleton.mp mem]
    exact settled c rfl

/-- **The lexeme at the head of a text stays the same before other blanks**, or at the end. -/
theorem Head.before_blank (h : vocabulary.Head body rest kind) (solid : vocabulary.Solid)
    (blank : ∀ c ∈ more.head?, isBlank c) : vocabulary.Head body more kind := by
  refine h.congr_rest solid (fun c mem => .inr (blank c mem)) fun lexeme known start => ?_
  refine List.IsPrefix.trans ?_ (List.prefix_append body rest)
  cases more with
  | nil => rwa [List.append_nil] at start
  | cons c more => exact prefix_of_prefix_append_blank (solid lexeme known) (blank c rfl) start

end Vocabulary

/-! ### Results without their places -/

namespace Reading

variable {vocabulary : Vocabulary} {before text : List Char} {kind : Option LexemeKind}
  {body : List Char} {span : Span} {results others : List (Except LexicalError Lexeme)}

/-- The characters that were read. -/
def bodyOf : Except LexicalError Lexeme → List Char
  | .ok lexeme => lexeme.body.toList
  | .error (.unknownLexeme _ body) => body.toList
  | .error _ => []

/-- The kind of what was read, if it is a lexeme, and its characters. -/
def unplaced (result : Except LexicalError Lexeme) : Option LexemeKind × List Char :=
  (result.toOption.map (·.kind), bodyOf result)

@[simp] theorem bodyOf_outcome : bodyOf (outcome kind body span) = body := by
  cases kind <;> exact String.toList_ofList

@[simp] theorem unplaced_outcome : unplaced (outcome kind body span) = (kind, body) := by
  rw [unplaced, bodyOf_outcome]
  cases kind <;> rfl

theorem map_bodyOf_eq (results : List (Except LexicalError Lexeme)) :
    results.map bodyOf = (results.map unplaced).map Prod.snd := by
  rw [List.map_map]
  rfl

variable [Alphabet]

/-- **Each result has its characters where it stands**, and they are a word. -/
theorem Munched.exists_outcome (h : Munched vocabulary before text results)
    (solid : vocabulary.Solid) : ∀ result ∈ results, ∃ above body rest kind,
      before ++ text = above ++ (body ++ rest) ∧ IsWord body ∧
      result = outcome kind body (Span.stretch above body) := by
  intro result mem
  obtain ⟨above, body, rest, kind, whole, settled, head, same⟩ := h.exists_head result mem
  exact ⟨above, body, rest, kind, whole, head.isWord solid settled, same⟩

/-- Blanks are passed over. -/
theorem Munched.of_blanks {blanks : List Char} (h : ∀ c ∈ blanks, isBlank c)
    (munched : Munched vocabulary (before ++ blanks) text results) :
    Munched vocabulary before (blanks ++ text) results := by
  induction blanks generalizing before with
  | nil => rwa [List.append_nil] at munched
  | cons c blanks ih =>
    rw [List.forall_mem_cons] at h
    rw [List.append_cons] at munched
    exact .blank h.1 (ih h.2 munched)

/-- **Lexemes are read back from other blanks between them**, and what is unknown is still
unknown. -/
theorem Munched.respaced {above respaced : List Char}
    (h : Munched vocabulary before text results) (solid : vocabulary.Solid)
    (spaced : Spaced (results.map bodyOf) respaced) :
    ∃ others, Munched vocabulary above respaced others ∧
      others.map unplaced = results.map unplaced := by
  rw [map_bodyOf_eq] at spaced
  induction h generalizing above respaced with
  | done =>
    cases spaced
    exact ⟨[], .done above, rfl⟩
  | blank _ _ ih => exact ih spaced
  | @next before body rest kind results settled head _ ih =>
    have word := head.isWord solid settled
    rw [List.map_cons, List.map_cons, unplaced_outcome] at spaced
    rw [List.map_cons, unplaced_outcome]
    generalize read : (results.map unplaced).map Prod.snd = bodies at spaced ih
    cases spaced with
    | single =>
      obtain rfl : results = [] := List.map_eq_nil_iff.mp (List.map_eq_nil_iff.mp read)
      have ended : Munched vocabulary above (body ++ []) _ :=
        .next (word.not_isBlank_head []) (head.before_blank solid (by simp)) (.done (above ++ body))
      rw [List.append_nil] at ended
      exact ⟨_, ended, by simp⟩
    | @cons _ gap next text others nonempty blank spaced =>
      obtain ⟨others, munched, same⟩ := ih spaced
      have first : ∀ c ∈ (gap ++ text).head?, isBlank c := by
        obtain ⟨first, blanks, rfl⟩ := List.exists_cons_of_ne_nil nonempty
        exact fun c mem => blank c (Option.mem_some.mp mem ▸ List.mem_cons_self)
      refine ⟨_, .next (word.not_isBlank_head _) (head.before_blank solid first)
        (munched.of_blanks blank), ?_⟩
      rw [List.map_cons, unplaced_outcome, same]

end Reading

/-! ### Programs without their places -/

/-- The kind and the characters of a lexeme. -/
def Lexeme.unplaced (lexeme : Lexeme) : LexemeKind × List Char := (lexeme.kind, lexeme.body.toList)

/-- The terminal and the position of an entry. -/
def ProgramEntry.unplaced (entry : ProgramEntry) : String × Option Position :=
  (entry.terminal, entry.position)

/-- What a scan gives, without the places: terminals and positions, or the unknown characters. -/
def unplaced : Except (List LexicalError) Program →
    Except (List (List Char)) (List (String × Option Position))
  | .ok program => .ok (program.map (·.unplaced))
  | .error errors => .error (errors.map (Reading.bodyOf <| .error ·))

theorem map_unplaced_lexemesOf (results : List (Except LexicalError Lexeme)) :
    (lexemesOf results).map (·.unplaced) =
      (results.map Reading.unplaced).filterMap fun seen => seen.1.map (·, seen.2) := by
  rw [lexemesOf, List.map_filterMap, List.filterMap_map]
  refine List.filterMap_congr fun result _ => ?_
  cases result <;> rfl

theorem map_bodyOf_errorsOf (results : List (Except LexicalError Lexeme)) :
    (errorsOf results).map (Reading.bodyOf <| .error ·) =
      (results.map Reading.unplaced).filterMap fun seen =>
        if seen.1.isNone then some seen.2 else none := by
  rw [errorsOf, List.map_filterMap, List.filterMap_map]
  refine List.filterMap_congr fun result _ => ?_
  cases result <;> rfl

/-- Where lexemes stand has no bearing on the names that are recorded, nor on their positions. -/
theorem record_congr {lexemes others : List Lexeme}
    (same : others.map (·.unplaced) = lexemes.map (·.unplaced)) (table : SymbolTable) :
    (record table others).1 = (record table lexemes).1 ∧
      (record table others).2.map (·.unplaced) = (record table lexemes).2.map (·.unplaced) := by
  induction lexemes generalizing others table with
  | nil =>
    rw [List.map_eq_nil_iff.mp same]
    exact ⟨rfl, rfl⟩
  | cons lexeme lexemes ih =>
    obtain ⟨other, others, rfl, seen, alike⟩ := List.map_eq_cons_iff.mp same
    obtain ⟨kind, body, span⟩ := lexeme
    obtain ⟨kind', body', span'⟩ := other
    obtain ⟨rfl, chars⟩ := Prod.mk.inj seen
    obtain rfl : body' = body := String.toList_inj.mp chars
    have first : (recordLexeme table ⟨kind', body', span'⟩).1 =
        (recordLexeme table ⟨kind', body', span⟩).1 ∧
        (recordLexeme table ⟨kind', body', span'⟩).2.unplaced =
          (recordLexeme table ⟨kind', body', span⟩).2.unplaced := by
      cases kind' <;> exact ⟨rfl, rfl⟩
    obtain ⟨tables, entries⟩ := ih alike (recordLexeme table ⟨kind', body', span⟩).1
    simp only [record, List.map_cons, first, tables, entries, and_self]

/-- Alike entries make alike programs, and alike errors make none. -/
theorem unplaced_programUnless_congr {errors errors' : List LexicalError}
    {program program' : Program}
    (bodies : errors'.map (Reading.bodyOf <| .error ·) = errors.map (Reading.bodyOf <| .error ·))
    (entries : program'.map (·.unplaced) = program.map (·.unplaced)) :
    unplaced (programUnless errors' program') = unplaced (programUnless errors program) := by
  cases errors with
  | nil =>
    rw [List.map_eq_nil_iff.mp bodies]
    exact congrArg Except.ok entries
  | cons error errors =>
    obtain ⟨error', errors', rfl, -, -⟩ := List.map_eq_cons_iff.mp bodies
    exact congrArg Except.error bodies

section Alphabet

variable [Alphabet]

/-- Texts that are read alike are scanned alike. -/
theorem scan_congr {vocabulary : Vocabulary} {text respaced : String}
    {results others : List (Except LexicalError Lexeme)} (proper : "" ∉ vocabulary.lexemes)
    (h : Reading.Munched vocabulary [] text.toList results)
    (h' : Reading.Munched vocabulary [] respaced.toList others)
    (same : others.map Reading.unplaced = results.map Reading.unplaced) (table : SymbolTable) :
    (scan vocabulary respaced table).map (Prod.map unplaced id) =
      (scan vocabulary text table).map (Prod.map unplaced id) := by
  have errors : (errorsOf others).map (Reading.bodyOf <| .error ·) =
      (errorsOf results).map (Reading.bodyOf <| .error ·) := by
    rw [map_bodyOf_errorsOf, map_bodyOf_errorsOf, same]
  have lexemes : (lexemesOf others).map (·.unplaced) = (lexemesOf results).map (·.unplaced) := by
    rw [map_unplaced_lexemesOf, map_unplaced_lexemesOf, same]
  obtain ⟨tables, entries⟩ := record_congr lexemes table
  rw [h.scan_eq proper, h'.scan_eq proper, Option.map_some, Option.map_some, Prod.map_apply,
    Prod.map_apply, tables, unplaced_programUnless_congr errors entries]

/-! ### Other blanks -/

/-- A text with its lexemes and unknown characters as they are, and one space between
neighbours. -/
def Vocabulary.normalise (vocabulary : Vocabulary) (text : String) : Option String :=
  (vocabulary.read text).map fun results =>
    String.ofList ([' '].intercalate (results.map Reading.bodyOf))

/-- **What separates the lexemes of a text has no bearing on them.**  If no lexeme of the vocabulary
is empty or has a blank in it, a text is read to its end, and each result is a lexeme or an unknown
one.  When their characters are written with any other blanks between neighbours, the results are as
many, of the same kinds and the same characters, with what is unknown at the same places among them.
A scan gives the same terminals at the same positions, or the same unknown characters, and the same
symbol table.  So one space can be put between neighbours, and doing that again changes nothing. -/
theorem Vocabulary.read_respaced {vocabulary : Vocabulary} (solid : vocabulary.Solid)
    (text : String) :
    ∃ results, vocabulary.read text = some results ∧
      (∀ result ∈ results, ∃ kind body span,
        IsWord body ∧ result = Reading.outcome kind body span) ∧
      (∀ respaced : String, Spaced (results.map Reading.bodyOf) respaced.toList →
        (∃ others, vocabulary.read respaced = some others ∧ others.length = results.length ∧
          others.map Reading.unplaced = results.map Reading.unplaced) ∧
        ∀ table, (scan vocabulary respaced table).map (Prod.map Descent.unplaced id) =
          (scan vocabulary text table).map (Prod.map Descent.unplaced id)) ∧
      ∃ normal, vocabulary.normalise text = some normal ∧
        vocabulary.normalise normal = some normal ∧
        ∀ table, (scan vocabulary normal table).map (Prod.map Descent.unplaced id) =
          (scan vocabulary text table).map (Prod.map Descent.unplaced id) := by
  have proper := solid.empty_not_mem
  obtain ⟨results, munched⟩ := Reading.exists_munched proper [] text.toList
  have read := munched.read_eq proper
  have again {respaced : String} (spaced : Spaced (results.map Reading.bodyOf) respaced.toList) :
      (∃ others, vocabulary.read respaced = some others ∧
        others.map Reading.unplaced = results.map Reading.unplaced) ∧
      ∀ table, (scan vocabulary respaced table).map (Prod.map Descent.unplaced id) =
        (scan vocabulary text table).map (Prod.map Descent.unplaced id) := by
    obtain ⟨others, munched', same⟩ := munched.respaced solid spaced
    exact ⟨⟨others, munched'.read_eq proper, same⟩, scan_congr proper munched munched' same⟩
  refine ⟨results, read, fun result mem => ?_, fun respaced spaced => ?_, ?_⟩
  · obtain ⟨_, body, _, kind, -, word, rfl⟩ := munched.exists_outcome solid result mem
    exact ⟨kind, body, _, word, rfl⟩
  · obtain ⟨⟨others, found, same⟩, scanned⟩ := again spaced
    refine ⟨⟨others, found, ?_, same⟩, scanned⟩
    simpa using congrArg List.length same
  · have spaced := spaced_intercalate (results.map Reading.bodyOf)
    rw [← String.toList_ofList (l := [' '].intercalate (results.map Reading.bodyOf))] at spaced
    obtain ⟨⟨others, found, same⟩, scanned⟩ := again spaced
    refine ⟨_, by rw [normalise, read, Option.map_some], ?_, scanned⟩
    rw [normalise, found, Option.map_some, Reading.map_bodyOf_eq, same, ← Reading.map_bodyOf_eq]

end Alphabet

/-- Signs that stand next to each other are two signs with any blanks between them, and an unknown
character is still unknown. -/
theorem Vocabulary.read_respaced_signs :
    let vocabulary := Vocabulary.ofList ["<", "<="]
    let seen : List (Option LexemeKind × List Char) := [(some .identifier, ['a']),
      (some .reserved, ['<', '=']), (some .reserved, ['<']), (none, ['=']), (some .constant, ['7'])]
    vocabulary.Solid ∧
      (vocabulary.read "a<=<\n=7").map (·.map Reading.unplaced) = some seen ∧
      (vocabulary.read "a\t<=  <\n\n= 7").map (·.map Reading.unplaced) = some seen ∧
      vocabulary.normalise "a<=<\n=7" = some "a <= < = 7" := by
  intro vocabulary seen
  have solid : vocabulary.Solid := by decide
  have first : (vocabulary.read "a<=<\n=7").map (·.map Reading.unplaced) = some seen := by
    decide +kernel
  obtain ⟨results, read, -, respaced, -⟩ := read_respaced solid "a<=<\n=7"
  have found := first
  rw [read, Option.map_some, Option.some_inj] at found
  have bodies : results.map Reading.bodyOf = [['a'], ['<', '='], ['<'], ['='], ['7']] := by
    rw [Reading.map_bodyOf_eq, found]
    rfl
  have spaced : Spaced (results.map Reading.bodyOf) "a\t<=  <\n\n= 7".toList := by
    rw [bodies]
    exact .cons (List.cons_ne_nil '\t' []) (List.all_eq_true.mp rfl) <|
      .cons (List.cons_ne_nil ' ' [' ']) (List.all_eq_true.mp rfl) <|
      .cons (List.cons_ne_nil '\n' ['\n']) (List.all_eq_true.mp rfl) <|
      .cons (List.cons_ne_nil ' ' []) (List.all_eq_true.mp rfl) (.single ['7'])
  obtain ⟨⟨others, again, -, same⟩, -⟩ := respaced _ spaced
  refine ⟨solid, first, ?_, by decide +kernel⟩
  rw [again, Option.map_some, same, found]

end Descent
