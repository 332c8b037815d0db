import Descent.Proofs.Lexeme.Head
import Descent.Proofs.Text.Place
import Descent.Proofs.Text.Words
import Descent.Text.Unicode

/-!
# How lexemes lie in a source

Reading a source to its end cuts it into lexemes and unknown characters, with nothing but blanks
before, between and after them.  Each is given the place at which it stands.

`Reading.Laid` is this cut as a relation, by induction over the text: a blank is passed, or a
result takes up the next characters.  It carries the characters that were passed already, so that
the place of each result is known from the text alone, and that results are in order, do not
overlap and cover everything but blanks can be read off.  What has to be shown of the program is
only that it moves from one such cut to the next, for which every reading is written as the rest
of a text after some characters of it (`Reading.ofRest`).

Nothing of this holds of a vocabulary with the empty lexeme.  A loaded vocabulary has none, since
all its lexemes are words: `Vocabulary.solid_of_load`.
-/

namespace Descent

open Text

namespace Vocabulary

variable {vocabulary : Vocabulary} {text : List Char}

/-! ### Lexemes of a vocabulary -/

/-- The lexemes of a vocabulary are words: none of them is empty or has a blank in it. -/
def Solid (vocabulary : Vocabulary) : Prop :=
  ∀ lexeme ∈ vocabulary.lexemes, IsWord lexeme.toList

instance (vocabulary : Vocabulary) : Decidable vocabulary.Solid :=
  inferInstanceAs (Decidable (∀ lexeme ∈ vocabulary.lexemes, IsWord lexeme.toList))

theorem Solid.empty_not_mem (solid : vocabulary.Solid) : "" ∉ vocabulary.lexemes :=
  fun mem => (solid "" mem).1 rfl

/-- Lines of words add words. -/
theorem Solid.readLines {next : Vocabulary} {number : Nat} {lines : List (List Char)}
    (solid : vocabulary.Solid) (h : vocabulary.readLines number lines = .ok next) : next.Solid := by
  induction lines generalizing vocabulary number with
  | nil =>
    cases h
    exact solid
  | cons line lines ih =>
    rw [Vocabulary.readLines] at h
    split at h
    · exact ih solid h
    · rename_i word single
      have isWord : IsWord word := isWord_of_mem_words (single ▸ List.mem_singleton_self word)
      refine ih (fun lexeme mem => ?_) h
      rcases mem_insert.mp mem with rfl | mem
      · rwa [String.toList_ofList]
      · exact solid lexeme mem
    · cases h

/-- **The lexemes of a loaded vocabulary are words.** -/
theorem solid_of_load {text : String} (h : load text = .ok vocabulary) : vocabulary.Solid :=
  Solid.readLines (fun _ mem => absurd mem List.not_mem_nil) h

/-- A loaded vocabulary does not hold the empty lexeme. -/
theorem empty_not_mem_of_load {text : String} (h : load text = .ok vocabulary) :
    "" ∉ vocabulary.lexemes :=
  (solid_of_load h).empty_not_mem

variable [Alphabet] in
/-- **The lexeme at the head of a text** is a beginning of it, and takes up a character or more. -/
theorem headKind_spec (proper : "" ∉ vocabulary.lexemes) (nonempty : text ≠ []) :
    (vocabulary.headKind text).1 ≠ [] ∧ (vocabulary.headKind text).1 <+: text := by
  obtain ⟨body, rest, kind, rfl, head⟩ := vocabulary.exists_head nonempty
  rw [head.headKind_eq proper]
  exact ⟨head.ne_nil proper, List.prefix_append body rest⟩

end Vocabulary

/-! ### Stretches of a source -/

/-- The stretch that some characters take up after others. -/
def Span.stretch (before body : List Char) : Span where
  start := Caret.ofText before
  stop := Caret.ofText (before ++ body)
  start_le_stop := Caret.ofText_le_append before body

/-- The stretch lies between the place before the characters and the place after them. -/
theorem Span.between_ofText (before body : List Char) :
    between (Caret.ofText before) (Caret.ofText (before ++ body)) = stretch before body :=
  dif_pos (stretch before body).start_le_stop

namespace Reading

variable {vocabulary : Vocabulary} {before body text rest : List Char} {kind : Option LexemeKind}
  {span : Span} {results : List (Except LexicalError Lexeme)}

/-- What some characters are read as: a lexeme if they have a kind, and else unknown. -/
def outcome (kind : Option LexemeKind) (body : List Char) (span : Span) :
    Except LexicalError Lexeme :=
  match kind with
  | some kind => .ok ⟨kind, String.ofList body, span⟩
  | none => .error (.unknownLexeme span (String.ofList body))

/-- The stretch of the source that a result is about. -/
def spanOf : Except LexicalError Lexeme → Span
  | .ok lexeme => lexeme.span
  | .error error => error.span

@[simp] theorem spanOf_outcome : spanOf (outcome kind body span) = span := by
  cases kind <;> rfl

theorem outcome_ne_unexpectedEnd (place : Caret) :
    outcome kind body span ≠ .error (.unexpectedEnd place) := by
  cases kind <;> exact nofun

/-- `Laid before text results` says that `text`, which stands after `before`, consists of what the
results were read from, one after the other, and of nothing but blanks before, between and after
them.  Each result has the characters that it was read from, and the stretch that they take up. -/
inductive Laid : List Char → List Char → List (Except LexicalError Lexeme) → Prop
  /-- Nothing is left. -/
  | done (before : List Char) : Laid before [] []
  /-- A blank comes next. -/
  | blank {before rest : List Char} {c : Char} {results : List (Except LexicalError Lexeme)}
      (h : isBlank c) (others : Laid (before ++ [c]) rest results) : Laid before (c :: rest) results
  /-- The characters of the next result come next. -/
  | next {before body rest : List Char} {kind : Option LexemeKind}
      {results : List (Except LexicalError Lexeme)} (nonempty : body ≠ [])
      (others : Laid (before ++ body) rest results) :
      Laid before (body ++ rest) (outcome kind body (Span.stretch before body) :: results)

/-- Blanks can stand before what is laid out. -/
theorem Laid.of_blanks {blanks : List Char} (h : ∀ c ∈ blanks, isBlank c)
    (laid : Laid (before ++ blanks) text results) : Laid before (blanks ++ text) results := by
  induction blanks generalizing before with
  | nil => rwa [List.append_nil] at laid
  | cons c blanks ih =>
    rw [List.forall_mem_cons] at h
    rw [List.append_cons] at laid
    exact .blank h.1 (ih h.2 laid)

/-! ### What follows from a layout -/

/-- There are no more results than characters. -/
theorem Laid.length_le (h : Laid before text results) : results.length ≤ text.length := by
  induction h with
  | done => exact Nat.le_refl 0
  | blank _ _ ih => exact Nat.le_succ_of_le ih
  | next nonempty _ ih =>
    have positive := List.length_pos_of_ne_nil nonempty
    rw [List.length_cons, List.length_append]
    omega

/-- Every result is a lexeme or unknown. -/
theorem Laid.ne_unexpectedEnd (h : Laid before text results) (place : Caret) :
    .error (.unexpectedEnd place) ∉ results := by
  induction h with
  | done => exact List.not_mem_nil
  | blank _ _ ih => exact ih
  | next _ _ ih =>
    rw [List.mem_cons, not_or]
    exact ⟨(outcome_ne_unexpectedEnd place).symm, ih⟩

/-- All results stand after what comes before the text. -/
theorem Laid.ofText_le_start (h : Laid before text results) :
    ∀ result ∈ results, Caret.ofText before ≤ (spanOf result).start := by
  induction h with
  | done => exact List.forall_mem_nil _
  | blank _ _ ih =>
    exact fun result mem => Caret.le_trans (Caret.ofText_le_append _ _) (ih result mem)
  | next _ _ ih =>
    refine List.forall_mem_cons.mpr ⟨?_, fun result mem => ?_⟩
    · rw [spanOf_outcome]
      exact Caret.le_refl _
    · exact Caret.le_trans (Caret.ofText_le_append _ _) (ih result mem)

/-- **Results are in order and do not overlap.** -/
theorem Laid.pairwise (h : Laid before text results) :
    results.Pairwise fun first second => (spanOf first).stop ≤ (spanOf second).start := by
  induction h with
  | done => exact .nil
  | blank _ _ ih => exact ih
  | next _ others ih =>
    refine .cons (fun result mem => ?_) ih
    rw [spanOf_outcome]
    exact others.ofText_le_start result mem

/-! ### Reading -/

/-- The reading of the rest of a text, after `before`. -/
def ofRest (before rest : List Char) : Reading := ⟨Caret.ofText before, rest⟩

theorem past_ofRest (before body rest : List Char) :
    (ofRest before (body ++ rest)).past body = ofRest (before ++ body) rest := by
  rw [past, ofRest, Caret.after_ofText, List.drop_left, ofRest]

/-- The blanks at the head of a rest are skipped, and no blank is at the head of what is left. -/
theorem exists_skipBlanks_eq (before rest : List Char) :
    ∃ blanks more, rest = blanks ++ more ∧ (∀ c ∈ blanks, isBlank c) ∧
      (∀ c ∈ more.head?, ¬ isBlank c) ∧
      (ofRest before rest).skipBlanks = ofRest (before ++ blanks) more := by
  have split := List.takeWhile_append_dropWhile (p := isBlank) (l := rest)
  have passed := past_ofRest before (rest.takeWhile isBlank) (rest.dropWhile isBlank)
  have stop := List.head?_dropWhile_not isBlank rest
  rw [split] at passed
  refine ⟨_, _, split.symm, fun c => List.mem_takeWhile_imp, fun c mem => ?_, passed⟩
  rw [Option.mem_def.mp mem] at stop
  simpa using stop

/-- Where no blank is at the head, there is nothing to skip. -/
theorem skipBlanks_of_head (settled : ∀ c ∈ rest.head?, ¬ isBlank c) (before : List Char) :
    (ofRest before rest).skipBlanks = ofRest before rest := by
  cases rest with
  | nil => rfl
  | cons c rest =>
    have solid := settled c rfl
    rw [skipBlanks, ofRest, List.takeWhile_cons_of_neg solid]
    rfl

section Alphabet

variable [Alphabet]

/-- Where no blank is at the head, what the vocabulary finds there is read, together with the blanks
after it. -/
theorem next_of_headKind {reading : Reading} (settled : reading.skipBlanks = reading)
    (going : reading.rest ≠ []) (head : vocabulary.headKind reading.rest = (body, kind)) :
    reading.next vocabulary =
      (outcome kind body (Span.between reading.caret (reading.past body).caret),
        (reading.past body).skipBlanks) := by
  have left : reading.isAtEnd = false := by simpa [isAtEnd] using going
  rw [next, settled, if_neg (by simp [left]), head]
  rfl

/-- The lexeme at the head of a rest is read, together with the blanks after it. -/
theorem next_ofRest (settled : ∀ c ∈ (body ++ rest).head?, ¬ isBlank c) (nonempty : body ≠ [])
    (head : vocabulary.headKind (body ++ rest) = (body, kind)) (before : List Char) :
    (ofRest before (body ++ rest)).next vocabulary =
      (outcome kind body (Span.stretch before body),
        (ofRest (before ++ body) rest).skipBlanks) := by
  rw [next_of_headKind (skipBlanks_of_head settled before)
    (List.append_ne_nil_of_left_ne_nil nonempty rest) head, past_ofRest]
  exact congrArg (fun span => (outcome kind body span, _)) (Span.between_ofText before body)

/-- **What is read at the head of a rest** where no blank stands. -/
theorem exists_next_eq (proper : "" ∉ vocabulary.lexemes) (settled : ∀ c ∈ rest.head?, ¬ isBlank c)
    (going : rest ≠ []) (before : List Char) :
    ∃ body kind blanks more, rest = body ++ (blanks ++ more) ∧ body ≠ [] ∧
      (∀ c ∈ blanks, isBlank c) ∧ (∀ c ∈ more.head?, ¬ isBlank c) ∧
      (ofRest before rest).next vocabulary =
        (outcome kind body (Span.stretch before body), ofRest (before ++ body ++ blanks) more) := by
  obtain ⟨nonempty, start⟩ := Vocabulary.headKind_spec proper going
  cases head : vocabulary.headKind rest with
  | mk body kind =>
    rw [head] at nonempty start
    obtain ⟨behind, rfl⟩ := start
    obtain ⟨blanks, more, split, blank, further, skipped⟩ :=
      exists_skipBlanks_eq (before ++ body) behind
    refine ⟨body, kind, blanks, more, by rw [split], nonempty, blank, further, ?_⟩
    rw [next_ofRest settled nonempty head, skipped]

/-- A rest is read to its end from where no blank stands, and consists of what was read. -/
theorem exists_all_eq (proper : "" ∉ vocabulary.lexemes)
    (settled : ∀ c ∈ rest.head?, ¬ isBlank c) (before : List Char) :
    ∃ results, Laid before rest results ∧ ∀ limit, (ofRest before rest).all vocabulary limit =
      if results.length ≤ limit then some results else none := by
  -- Each lexeme takes up a character or more, so that less is left after it.
  induction length : rest.length using Nat.strong_induction_on generalizing before rest with
  | _ count ih =>
    by_cases ended : rest = []
    · subst ended
      refine ⟨[], .done before, fun limit => ?_⟩
      cases limit <;> rfl
    · obtain ⟨body, kind, blanks, more, rfl, nonempty, blank, further, read⟩ :=
        exists_next_eq proper settled ended before
      have shorter : more.length < count := by
        have positive := List.length_pos_of_ne_nil nonempty
        simp only [← length, List.length_append]
        omega
      obtain ⟨results, laid, all⟩ := ih more.length shorter further (before ++ body ++ blanks) rfl
      refine ⟨outcome kind body (Span.stretch before body) :: results,
        .next nonempty (laid.of_blanks blank), fun limit => ?_⟩
      have going : (ofRest before (body ++ (blanks ++ more))).isAtEnd = false := by
        simp [ofRest, isAtEnd, nonempty]
      unfold Reading.all
      rw [if_neg (by simp [going])]
      cases limit with
      | zero => rfl
      | succ limit =>
        simp only [read, all, List.length_cons, Nat.add_le_add_iff_right]
        split <;> rfl

/-- **Reading loses nothing and places everything.**  A vocabulary without the empty lexeme, as
every loaded one is, cuts each text into lexemes and unknown characters, with nothing but blanks
around them.  These come out in order, each with its stretch of the text, and the reading ends.
Where lines are not too many and not too long, every place in the text is counted on the way. -/
theorem reading_exact :
    (∀ source vocabulary, Vocabulary.load source = .ok vocabulary → "" ∉ vocabulary.lexemes) ∧
    ∀ vocabulary : Vocabulary, "" ∉ vocabulary.lexemes → ∀ text : String,
      (∃ results,
        (∀ limit, (ofText text).all vocabulary limit =
          if results.length ≤ limit then some results else none) ∧
        results.length ≤ text.length ∧
        (∀ place, .error (.unexpectedEnd place) ∉ results) ∧
        Laid [] text.toList results ∧
        results.Pairwise fun first second => (spanOf first).stop ≤ (spanOf second).start) ∧
      (Caret.Countable text.toList →
        Caret.start.path? text.toList = some (text.toList.inits.map Caret.ofText)) := by
  refine ⟨fun _ _ => Vocabulary.empty_not_mem_of_load, fun vocabulary proper text => ⟨?_, ?_⟩⟩
  · obtain ⟨blanks, more, split, blank, settled, skipped⟩ := exists_skipBlanks_eq [] text.toList
    obtain ⟨results, laid, all⟩ := exists_all_eq proper settled ([] ++ blanks)
    have laid : Laid [] text.toList results := split ▸ laid.of_blanks blank
    refine ⟨results, fun limit => ?_, laid.length_le, laid.ne_unexpectedEnd, laid, laid.pairwise⟩
    rw [← all, ← skipped]
    rfl
  · exact fun countable => countable.path?_eq

end Alphabet

/-- A sign of two characters, a character that is no lexeme, and words on two lines. -/
theorem reading_exact_lines :
    let vocabulary := Vocabulary.ofList ["<", "<="]
    let text := " a <=\n $1"
    let span (line column column' : Nat) : Span := Span.between ⟨line, column⟩ ⟨line, column'⟩
    let results : List (Except LexicalError Lexeme) := [
      .ok ⟨.identifier, "a", span 0 1 2⟩, .ok ⟨.reserved, "<=", span 0 3 5⟩,
      .error (.unknownLexeme (span 1 1 2) "$"), .ok ⟨.constant, "1", span 1 2 3⟩]
    (ofText text).all vocabulary 4 = some results ∧ Laid [] text.toList results ∧
      (Caret.start.path? text.toList).isSome := by
  intro vocabulary text span results
  have read : (ofText text).all vocabulary 4 = some results := by decide +kernel
  have loaded : Vocabulary.load "<=\n<" = .ok vocabulary := by rfl
  have countable : Caret.Countable text.toList := ⟨by decide, by decide⟩
  obtain ⟨loads, reads⟩ := reading_exact
  obtain ⟨⟨found, all, -, -, laid, -⟩, counted⟩ := reads vocabulary (loads _ _ loaded) text
  have same : found = results := by
    rw [all] at read
    split at read
    · exact Option.some.inj read
    · cases read
  exact ⟨read, same ▸ laid, by rw [counted countable]; rfl⟩

end Reading

end Descent
