import Descent.Proofs.Lexeme.Munch

/-!
# Texts in two pieces

No lexeme goes on over a blank, and which lexeme stands at the head of a text does not depend on
what comes after the next blank.  So a text can be cut at a line feed, and its two pieces scanned
one after the other.

What comes of the second piece is the same as in the whole text, only that it stands some lines
further up.  This holds because it comes after a line feed, so that columns are counted anew;
nowhere else could a text be cut with so little to correct.  `down` moves carets, spans, lexemes,
errors and entries by some lines, and `Reading.Munched.down` says that this is all that the text
above a piece does to it.
-/

namespace Descent

open Text

/-! ### Lexemes before a blank -/

namespace Vocabulary

variable {vocabulary : Vocabulary} {body rest text word more : List Char}
  {kind : Option LexemeKind} {c : Char}

/-- A word that a text starts with ends before the first blank. -/
theorem prefix_of_prefix_append_blank (solid : IsWord word) (blank : isBlank c)
    (h : word <+: text ++ c :: more) : word <+: text := by
  rcases List.prefix_or_prefix_of_prefix h (List.prefix_append text (c :: more)) with short | long
  · exact short
  · obtain ⟨further, rfl⟩ := long
    cases further with
    | nil => simp
    | cons first further =>
      have start := (List.prefix_append_right_inj text).mp h
      rw [List.cons_prefix_cons] at start
      obtain ⟨rfl, -⟩ := start
      exact absurd blank (solid.2 first (by simp))

variable [Alphabet]

/-- The lexeme at the head of a text is the same before something else, if that starts alike or
with a blank, and no lexeme of the vocabulary stands there that did not before. -/
theorem Head.congr_rest (h : vocabulary.Head body rest kind) (solid : vocabulary.Solid)
    (stop : ∀ c ∈ more.head?, c ∈ rest.head? ∨ isBlank c)
    (within : ∀ lexeme ∈ vocabulary.lexemes,
      lexeme.toList <+: body ++ more → lexeme.toList <+: body ++ rest) :
    vocabulary.Head body more kind := by
  have nonempty := h.ne_nil solid.empty_not_mem
  cases h with
  | word _ parts ended found =>
    exact .word nonempty parts
      (fun c mem => (stop c mem).elim (ended c) not_isWordPart_of_isBlank) found
  | sign start known longest =>
    obtain ⟨first, others, rfl⟩ := List.exists_cons_of_ne_nil nonempty
    exact .sign start known fun other mem begins => longest other mem (within other mem begins)
  | unknown start absent =>
    exact .unknown start fun other mem begins => absent other mem (within other mem begins)

/-- **The lexeme at the head of a text is the same before a blank.** -/
theorem Head.append_blank (h : vocabulary.Head body rest kind) (solid : vocabulary.Solid)
    (blank : isBlank c) (more : List Char) : vocabulary.Head body (rest ++ c :: more) kind := by
  refine h.congr_rest solid (fun first mem => ?_) fun lexeme known start => ?_
  · cases rest with
    | nil => exact .inr (Option.mem_some.mp mem ▸ blank)
    | cons => exact .inl mem
  · rw [← List.append_assoc] at start
    exact prefix_of_prefix_append_blank (solid lexeme known) blank start

end Vocabulary

namespace Reading.Munched

variable {vocabulary : Vocabulary} {before text rest : List Char} {c : Char}
  {results others : List (Except LexicalError Lexeme)}

variable [Alphabet] in
/-- **Two pieces around a blank are taken apart one after the other.** -/
theorem append_blank (h : Munched vocabulary before text results) (solid : vocabulary.Solid)
    (blank : isBlank c) (h' : Munched vocabulary (before ++ text) (c :: rest) others) :
    Munched vocabulary before (text ++ c :: rest) (results ++ others) := by
  induction h with
  | done before => simpa using h'
  | blank first _ ih => exact .blank first (ih (by simpa using h'))
  | @next before body text kind results settled head _ ih =>
    rw [← List.append_assoc] at h'
    rw [List.append_assoc]
    refine .next ?_ (head.append_blank solid blank rest) (ih h')
    obtain ⟨first, others, rfl⟩ := List.exists_cons_of_ne_nil (head.ne_nil solid.empty_not_mem)
    exact settled

end Reading.Munched

/-! ### Further down -/

/-- The same place in a line some lines further down. -/
def Caret.down (lines : Nat) (caret : Caret) : Caret := ⟨caret.line + lines, caret.column⟩

theorem Caret.down_le_down {a b : Caret} (h : a ≤ b) (lines : Nat) :
    a.down lines ≤ b.down lines := by
  simp only [Caret.le_iff, Caret.down] at *
  omega

theorem Caret.advance_down (lines : Nat) (caret : Caret) (c : Char) :
    (caret.down lines).advance c = (caret.advance c).down lines := by
  unfold Caret.advance Caret.down
  split
  · exact congrArg (Caret.mk · 0) (Nat.add_right_comm _ _ _)
  · rfl

/-- Places are further down by the lines above them. -/
theorem Caret.ofText_append_feed (above text : List Char) :
    Caret.ofText (above ++ '\n' :: text) = (Caret.ofText text).down (above.count '\n' + 1) := by
  induction text using List.reverseRecOn with
  | nil =>
    rw [Caret.ofText_concat]
    simp [Caret.advance, Caret.down, Caret.ofText]
  | append_singleton text c ih =>
    rw [← List.cons_append, ← List.append_assoc, Caret.ofText_concat, ih, Caret.advance_down,
      Caret.ofText_concat]

/-- The same stretch some lines further down. -/
def Span.down (lines : Nat) (span : Span) : Span where
  start := span.start.down lines
  stop := span.stop.down lines
  start_le_stop := Caret.down_le_down span.start_le_stop lines

theorem Span.stretch_append_feed (above before body : List Char) :
    Span.stretch (above ++ '\n' :: before) body =
      (Span.stretch before body).down (above.count '\n' + 1) := by
  simp only [Span.stretch, Span.down, List.append_assoc, List.cons_append,
    Caret.ofText_append_feed]

/-- The same lexeme some lines further down. -/
def Lexeme.down (lines : Nat) (lexeme : Lexeme) : Lexeme :=
  { lexeme with span := lexeme.span.down lines }

/-- The same error some lines further down. -/
def LexicalError.down (lines : Nat) : LexicalError → LexicalError
  | .unknownLexeme span body => .unknownLexeme (span.down lines) body
  | .unexpectedEnd place => .unexpectedEnd (place.down lines)
  | .vocabularyBlank line => .vocabularyBlank line

/-- The same result some lines further down. -/
def Reading.down (lines : Nat) : Except LexicalError Lexeme → Except LexicalError Lexeme
  | .ok lexeme => .ok (lexeme.down lines)
  | .error error => .error (error.down lines)

/-- The same entry some lines further down. -/
def ProgramEntry.down (lines : Nat) (entry : ProgramEntry) : ProgramEntry :=
  { entry with span := entry.span.down lines }

theorem Reading.down_outcome (lines : Nat) (kind : Option LexemeKind) (body : List Char)
    (span : Span) :
    Reading.down lines (Reading.outcome kind body span) =
      Reading.outcome kind body (span.down lines) := by
  cases kind <;> rfl

variable [Alphabet] in
/-- **What stands above a text moves its results down**, and changes nothing else about them. -/
theorem Reading.Munched.down {vocabulary : Vocabulary} {before text : List Char}
    {results : List (Except LexicalError Lexeme)} (h : Munched vocabulary before text results)
    (above : List Char) :
    Munched vocabulary (above ++ '\n' :: before) text
      (results.map (Reading.down (above.count '\n' + 1))) := by
  induction h with
  | done before => exact .done _
  | blank first _ ih => exact .blank first (by simpa using ih)
  | @next before body rest kind results settled head _ ih =>
    rw [List.map_cons, Reading.down_outcome, ← Span.stretch_append_feed]
    exact .next settled head (by simpa using ih)

theorem lexemesOf_map_down (lines : Nat) (results : List (Except LexicalError Lexeme)) :
    lexemesOf (results.map (Reading.down lines)) = (lexemesOf results).map (·.down lines) := by
  rw [lexemesOf, lexemesOf, List.filterMap_map, List.map_filterMap]
  refine List.filterMap_congr fun result _ => ?_
  cases result <;> rfl

theorem errorsOf_map_down (lines : Nat) (results : List (Except LexicalError Lexeme)) :
    errorsOf (results.map (Reading.down lines)) = (errorsOf results).map (·.down lines) := by
  rw [errorsOf, errorsOf, List.filterMap_map, List.map_filterMap]
  refine List.filterMap_congr fun result _ => ?_
  cases result <;> rfl

/-! ### Recording in two goes -/

/-- **Lexemes are recorded one after the other.** -/
theorem record_append (table : SymbolTable) (lexemes more : List Lexeme) :
    record table (lexemes ++ more) =
      ((record (record table lexemes).1 more).1,
        (record table lexemes).2 ++ (record (record table lexemes).1 more).2) := by
  induction lexemes generalizing table with
  | nil => rfl
  | cons lexeme lexemes ih => simp only [List.cons_append, record, ih]

theorem recordLexeme_down (table : SymbolTable) (lines : Nat) (lexeme : Lexeme) :
    recordLexeme table (lexeme.down lines) =
      ((recordLexeme table lexeme).1, (recordLexeme table lexeme).2.down lines) := by
  obtain ⟨kind, body, span⟩ := lexeme
  cases kind <;> rfl

/-- Where lexemes stand has no bearing on what is recorded of them otherwise. -/
theorem record_map_down (table : SymbolTable) (lines : Nat) (lexemes : List Lexeme) :
    record table (lexemes.map (·.down lines)) =
      ((record table lexemes).1, (record table lexemes).2.map (·.down lines)) := by
  induction lexemes generalizing table with
  | nil => rfl
  | cons lexeme lexemes ih => simp only [List.map_cons, record, recordLexeme_down, ih]

/-! ### Scanning in two goes -/

/-- What two scans come to, the second of which starts some lines further down: both programs, or
the errors of both. -/
def joinScans (lines : Nat) :
    Except (List LexicalError) Program → Except (List LexicalError) Program →
      Except (List LexicalError) Program
  | .ok program, .ok more => .ok (program ++ more.map (·.down lines))
  | .ok _, .error errors => .error (errors.map (·.down lines))
  | .error errors, .ok _ => .error errors
  | .error errors, .error more => .error (errors ++ more.map (·.down lines))

theorem joinScans_programUnless (lines : Nat) (errors others : List LexicalError)
    (program more : Program) :
    joinScans lines (programUnless errors program) (programUnless others more) =
      programUnless (errors ++ others.map (·.down lines))
        (program ++ more.map (·.down lines)) := by
  cases errors with
  | nil => cases others <;> rfl
  | cons error errors =>
    cases others with
    | nil => simp [joinScans, programUnless]
    | cons other others => rfl

variable [Alphabet] in
/-- **A text is scanned in two pieces.**  If no lexeme of the vocabulary is empty or has a blank in
it, as those of loaded vocabularies, two texts can be scanned one after the other, or as one with a
line feed between them.  The names go into the symbol table alike.  There is a program if both texts
have one: that of the first and then that of the second, with the same positions, and as many lines
further down as the first text has line feeds and one more.  Otherwise the errors of both come one
after the other, those of the second as far down. -/
theorem scan_append_feed :
    (∀ source vocabulary, Vocabulary.load source = .ok vocabulary → vocabulary.Solid) ∧
    ∀ vocabulary : Vocabulary, vocabulary.Solid → ∀ (text more : String) (table : SymbolTable),
      ∃ first middle second last,
        scan vocabulary text table = some (first, middle) ∧
        scan vocabulary more middle = some (second, last) ∧
        scan vocabulary (text ++ "\n" ++ more) table =
          some (joinScans (text.toList.count '\n' + 1) first second, last) := by
  refine ⟨fun _ _ => Vocabulary.solid_of_load, fun vocabulary solid text more table => ?_⟩
  have proper := solid.empty_not_mem
  obtain ⟨results, munched⟩ := Reading.exists_munched proper [] text.toList
  obtain ⟨others, munched'⟩ := Reading.exists_munched proper [] more.toList
  refine ⟨_, _, _, _, munched.scan_eq proper table, munched'.scan_eq proper _, ?_⟩
  -- The second piece stands after the first and a line feed.
  have feed : isBlank '\n' := by decide
  have below : Reading.Munched vocabulary ([] ++ text.toList) ('\n' :: more.toList)
      (others.map (Reading.down (text.toList.count '\n' + 1))) :=
    .blank feed (munched'.down text.toList)
  have whole := munched.append_blank solid feed below
  have spelled : (text ++ "\n" ++ more).toList = text.toList ++ '\n' :: more.toList := by simp
  rw [← spelled] at whole
  rw [whole.scan_eq proper table, joinScans_programUnless]
  have errors : errorsOf (results ++ others.map (Reading.down (text.toList.count '\n' + 1))) =
      errorsOf results ++ (errorsOf others).map (·.down (text.toList.count '\n' + 1)) := by
    rw [← errorsOf_map_down, errorsOf, List.filterMap_append, errorsOf, errorsOf]
  have lexemes : lexemesOf (results ++ others.map (Reading.down (text.toList.count '\n' + 1))) =
      lexemesOf results ++ (lexemesOf others).map (·.down (text.toList.count '\n' + 1)) := by
    rw [← lexemesOf_map_down, lexemesOf, List.filterMap_append, lexemesOf, lexemesOf]
  rw [errors, lexemes, record_append, record_map_down]

/-- A sign at the end of the first text is not taken together with the one that the second starts
with, and a name that is in both has one position. -/
theorem scan_append_feed_signs :
    let vocabulary := Vocabulary.ofList ["<", "<=", "="]
    let table := SymbolTable.ofCapacity 10
    let entry (terminal : String) (position : Option Position) (line column : Nat) :
        ProgramEntry := ⟨terminal, position, Span.between ⟨line, column⟩ ⟨line, column + 1⟩⟩
    let first := [entry "identifier" (some ⟨7, 0⟩) 0 0, entry "<" none 1 1]
    let second := [entry "=" none 0 0, entry "number" (some ⟨9, 0⟩) 0 2,
      entry "identifier" (some ⟨7, 0⟩) 0 4]
    let middle := table.insertAll ["a"]
    let last := middle.insertAll ["1"]
    Vocabulary.load "<\n=\n<=" = .ok vocabulary ∧
      scan vocabulary "a\n <" table = some (.ok first, middle) ∧
      scan vocabulary "= 1\ta" middle = some (.ok second, last) ∧
      scan vocabulary ("a\n <" ++ "\n" ++ "= 1\ta") table =
        some (.ok (first ++ second.map (·.down 2)), last) := by
  intro vocabulary table entry first second middle last
  have loaded : Vocabulary.load "<\n=\n<=" = .ok vocabulary := by rfl
  have above : scan vocabulary "a\n <" table = some (.ok first, middle) := by decide +kernel
  have below : scan vocabulary "= 1\ta" middle = some (.ok second, last) := by decide +kernel
  obtain ⟨solid, scans⟩ := scan_append_feed
  obtain ⟨_, _, _, _, found, found', whole⟩ :=
    scans vocabulary (solid _ _ loaded) "a\n <" "= 1\ta" table
  -- The two scans are the ones above.
  cases above.symm.trans found
  cases below.symm.trans found'
  exact ⟨loaded, above, below, whole⟩

end Descent
