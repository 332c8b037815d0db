import Mathlib.Dynamics.FixedPoints.Basic
import Descent.Proofs.Lexeme.Munch

/-!
# Scans without end

A vocabulary may hold the empty lexeme.  It is read where nothing else is: where no word starts
and no longer lexeme stands, which is where an unknown character is found without it.  Reading it
leaves the reading where it was, so that it is read again and again.

Until then the empty lexeme has no bearing on what is read.  So two readings of a text, with the
empty lexeme and without it, go side by side, and the former stops going on where the latter meets
an unknown character that is no part of a word (`Reading.all_cases`).  That reading ends is said
by iterating a single step, and not by the number of lexemes that `Reading.all` is given.  The
text may be of any length, as places are counted without a bound here.
-/

namespace Descent

open Text

/-! ### Reading to the end -/

namespace Reading

variable {vocabulary : Vocabulary} {reading : Reading}

/-- There is nothing to skip after skipping. -/
theorem skipBlanks_skipBlanks (reading : Reading) :
    reading.skipBlanks.skipBlanks = reading.skipBlanks := by
  have left : reading.skipBlanks.rest = reading.rest.dropWhile isBlank := by
    have cut := @List.drop_left _ (reading.rest.takeWhile isBlank) (reading.rest.dropWhile isBlank)
    rwa [List.takeWhile_append_dropWhile] at cut
  have none : reading.skipBlanks.rest.takeWhile isBlank = [] := by
    rw [left, List.takeWhile_eq_nil_iff]
    intro positive
    have stop := List.head_dropWhile_not isBlank (List.length_pos_iff.mp positive)
    rw [List.head_eq_getElem] at stop
    simpa using stop
  rw [skipBlanks, none]
  rfl

variable [Alphabet]

/-- Reading lexeme after lexeme comes to a place where nothing is left. -/
def Ends (vocabulary : Vocabulary) (reading : Reading) : Prop :=
  ∃ count, ((fun reading : Reading => (reading.next vocabulary).2)^[count] reading).isAtEnd

theorem ends_of_isAtEnd (ended : reading.isAtEnd) : reading.Ends vocabulary := ⟨0, ended⟩

/-- Where something is left, reading ends if it ends after the next lexeme. -/
theorem ends_iff_of_not_isAtEnd (going : ¬ reading.isAtEnd) :
    reading.Ends vocabulary ↔ (reading.next vocabulary).2.Ends vocabulary := by
  constructor
  · rintro ⟨count, ended⟩
    cases count with
    | zero => exact absurd ended going
    | succ count => exact ⟨count, by rwa [Function.iterate_succ_apply] at ended⟩
  · rintro ⟨count, ended⟩
    exact ⟨count + 1, by rwa [Function.iterate_succ_apply]⟩

/-- Reading does not end where it stays. -/
theorem not_ends_of_stays (going : ¬ reading.isAtEnd)
    (stays : (reading.next vocabulary).2 = reading) : ¬ reading.Ends vocabulary := by
  rintro ⟨count, ended⟩
  have fixed : Function.IsFixedPt (fun reading : Reading => (reading.next vocabulary).2) reading :=
    stays
  rw [(fixed.iterate count).eq] at ended
  exact going ended

theorem all_of_isAtEnd (ended : reading.isAtEnd) (limit : Nat) :
    reading.all vocabulary limit = some [] := by
  unfold all
  exact if_pos ended

theorem all_zero (going : ¬ reading.isAtEnd) : reading.all vocabulary 0 = none := by
  unfold all
  exact if_neg going

theorem all_succ (going : ¬ reading.isAtEnd) (limit : Nat) :
    reading.all vocabulary (limit + 1) =
      ((reading.next vocabulary).2.all vocabulary limit).map
        ((reading.next vocabulary).1 :: ·) := by
  rw [all, if_neg going]

/-- **A reading that ends has results**, if it may read as many lexemes as it takes. -/
theorem exists_all_eq_some_iff :
    (∃ limit results, reading.all vocabulary limit = some results) ↔ reading.Ends vocabulary := by
  constructor
  · rintro ⟨limit, results, read⟩
    induction limit generalizing reading results with
    | zero =>
      by_cases ended : reading.isAtEnd
      · exact ends_of_isAtEnd ended
      · rw [all_zero ended] at read
        exact absurd read (Option.some_ne_none results).symm
    | succ limit ih =>
      by_cases ended : reading.isAtEnd
      · exact ends_of_isAtEnd ended
      · rw [all_succ ended, Option.map_eq_some_iff] at read
        obtain ⟨others, read, -⟩ := read
        exact (ends_iff_of_not_isAtEnd ended).mpr (ih others read)
  · rintro ⟨count, ended⟩
    induction count generalizing reading with
    | zero => exact ⟨0, [], all_of_isAtEnd ended 0⟩
    | succ count ih =>
      by_cases there : reading.isAtEnd
      · exact ⟨0, [], all_of_isAtEnd there 0⟩
      · rw [Function.iterate_succ_apply] at ended
        obtain ⟨limit, others, read⟩ := ih ended
        exact ⟨limit + 1, _, by rw [all_succ there, read, Option.map_some]⟩

end Reading

/-! ### The empty lexeme -/

namespace Vocabulary

variable {vocabulary : Vocabulary} {body rest word : List Char} {kind : Option LexemeKind}

/-- The vocabulary less the empty lexeme. -/
def withoutEmpty (vocabulary : Vocabulary) : Vocabulary :=
  ⟨vocabulary.lexemes.filter (· ≠ "")⟩

@[simp] theorem mem_withoutEmpty {lexeme : String} :
    lexeme ∈ vocabulary.withoutEmpty.lexemes ↔ lexeme ∈ vocabulary.lexemes ∧ lexeme ≠ "" := by
  simp [withoutEmpty]

theorem empty_not_mem_withoutEmpty : "" ∉ vocabulary.withoutEmpty.lexemes := by
  simp

/-- A vocabulary that does not hold the empty lexeme is left as it is. -/
theorem withoutEmpty_eq_self (proper : "" ∉ vocabulary.lexemes) :
    vocabulary.withoutEmpty = vocabulary := by
  have others : ∀ lexeme ∈ vocabulary.lexemes, lexeme ≠ "" := by
    intro lexeme known same
    exact proper (same ▸ known)
  exact congrArg Vocabulary.mk (List.filter_eq_self.mpr (by simpa using others))

variable [Alphabet]

/-- The empty lexeme has no bearing on the kind of a word. -/
theorem wordKind_withoutEmpty (nonempty : word ≠ []) :
    vocabulary.withoutEmpty.WordKind word kind ↔ vocabulary.WordKind word kind := by
  have other : String.ofList word ≠ "" := by simpa using nonempty
  have known : vocabulary.withoutEmpty.contains (String.ofList word) =
      vocabulary.contains (String.ofList word) := by
    rw [Bool.eq_iff_iff, contains, contains, List.contains_iff_mem, List.contains_iff_mem,
      mem_withoutEmpty, and_iff_left other]
  rw [wordKind_iff, wordKind_iff, wordKind?, wordKind?, known]

/-- **What the empty lexeme changes at the head of a text.**  It stands where an unknown character
that is no part of a word is found without it, and changes nothing elsewhere. -/
theorem Head.of_withoutEmpty (h : vocabulary.withoutEmpty.Head body rest kind)
    (empty : "" ∈ vocabulary.lexemes) :
    (vocabulary.Head body rest kind ∧ (kind = none → ∀ c ∈ body.head?, isWordPart c)) ∨
      (vocabulary.Head [] (body ++ rest) (some .reserved) ∧ kind = none ∧
        ∃ c, body = [c] ∧ ¬ isWordPart c) := by
  cases h with
  | word nonempty parts stop found =>
    refine .inl ⟨.word nonempty parts stop ((wordKind_withoutEmpty nonempty).mp found), ?_⟩
    intro _ c first
    exact parts c (List.mem_of_mem_head? first)
  | sign start known longest =>
    refine .inl ⟨.sign start (mem_withoutEmpty.mp known).1 ?_, nofun⟩
    intro other mem within
    by_cases nothing : other = ""
    · rw [nothing]
      exact Nat.zero_le _
    · exact longest other (mem_withoutEmpty.mpr ⟨mem, nothing⟩) within
  | @unknown c rest start absent =>
    refine .inr ⟨.sign ?_ empty ?_, rfl, c, rfl, start⟩
    · intro first mem
      rwa [← Option.some.inj mem]
    · intro other mem within
      by_cases nothing : other = ""
      · rw [nothing]
        exact Nat.le_refl 0
      · exact absurd within (absent other (mem_withoutEmpty.mpr ⟨mem, nothing⟩))

end Vocabulary

/-! ### Two readings side by side -/

variable [Alphabet] in
/-- Whether the error is about an unknown character that is no part of a word. -/
def LexicalError.IsStray (error : LexicalError) : Prop :=
  ∃ span body c, error = .unknownLexeme span body ∧ c ∈ body.toList.head? ∧ ¬ isWordPart c

namespace Reading

variable {vocabulary : Vocabulary} {reading : Reading} {limit : Nat}
  {results : List (Except LexicalError Lexeme)}

variable [Alphabet]

/-- What was read is an unknown character that is no part of a word. -/
def Stray (result : Except LexicalError Lexeme) : Prop :=
  ∃ error, result = .error error ∧ error.IsStray

theorem stray_outcome_iff {kind : Option LexemeKind} {body : List Char} {span : Span} :
    Stray (outcome kind body span) ↔ kind = none ∧ ∃ c ∈ body.head?, ¬ isWordPart c := by
  cases kind with
  | none =>
    constructor
    · rintro ⟨_, ⟨⟩, _, _, c, ⟨⟩, first, stray⟩
      rw [String.toList_ofList] at first
      exact ⟨rfl, c, first, stray⟩
    · rintro ⟨-, c, first, stray⟩
      refine ⟨_, rfl, span, _, c, rfl, ?_, stray⟩
      rwa [String.toList_ofList]
  | some kind => exact iff_of_false (by rintro ⟨error, ⟨⟩, -⟩) (by simp)

/-- **Either the empty lexeme changes nothing, or nothing is read.**  The latter is so where an
unknown character that is no part of a word is found without it. -/
theorem next_cases (empty : "" ∈ vocabulary.lexemes) (settled : reading.skipBlanks = reading)
    (going : ¬ reading.isAtEnd) :
    (reading.next vocabulary = reading.next vocabulary.withoutEmpty ∧
        ¬ Stray (reading.next vocabulary.withoutEmpty).1) ∨
      ((reading.next vocabulary).2 = reading ∧
        Stray (reading.next vocabulary.withoutEmpty).1) := by
  have left : reading.rest ≠ [] := by simpa [isAtEnd] using going
  obtain ⟨body, rest, kind, whole, head⟩ := vocabulary.withoutEmpty.exists_head left
  rw [whole] at left
  have read := next_of_headKind settled (whole ▸ left) (whole ▸ head.headKind_append left)
  rw [read, stray_outcome_iff]
  rcases head.of_withoutEmpty empty with ⟨same, part⟩ | ⟨nothing, unknown, c, rfl, stray⟩
  · have read' := next_of_headKind settled (whole ▸ left) (whole ▸ same.headKind_append left)
    refine .inl ⟨read', ?_⟩
    rintro ⟨unknown, c, first, stray⟩
    exact stray (part unknown c first)
  · have read' := next_of_headKind settled (whole ▸ left) (whole ▸ nothing.headKind_append left)
    refine .inr ⟨?_, unknown, c, rfl, stray⟩
    rw [read']
    exact settled

theorem skipBlanks_next (going : ¬ reading.isAtEnd) (settled : reading.skipBlanks = reading) :
    (reading.next vocabulary).2.skipBlanks = (reading.next vocabulary).2 := by
  have left : reading.rest ≠ [] := by simpa [isAtEnd] using going
  rw [next_of_headKind settled left rfl]
  exact skipBlanks_skipBlanks _

/-- **Two readings side by side.**  Either the empty lexeme has no bearing on what is read, or an
unknown character that is no part of a word is met without it, and reading with it stays there. -/
theorem all_cases (empty : "" ∈ vocabulary.lexemes) (settled : reading.skipBlanks = reading)
    (read : reading.all vocabulary.withoutEmpty limit = some results) :
    (reading.all vocabulary limit = some results ∧ ∀ result ∈ results, ¬ Stray result) ∨
      (¬ reading.Ends vocabulary ∧ ∃ result ∈ results, Stray result) := by
  induction limit generalizing reading results with
  | zero =>
    by_cases ended : reading.isAtEnd
    · rw [all_of_isAtEnd ended] at read ⊢
      cases read
      exact .inl ⟨rfl, List.forall_mem_nil _⟩
    · rw [all_zero ended] at read
      cases read
  | succ limit ih =>
    by_cases ended : reading.isAtEnd
    · rw [all_of_isAtEnd ended] at read ⊢
      cases read
      exact .inl ⟨rfl, List.forall_mem_nil _⟩
    rw [all_succ ended, Option.map_eq_some_iff] at read
    obtain ⟨others, read, rfl⟩ := read
    rcases next_cases empty settled ended with ⟨same, known⟩ | ⟨stays, stray⟩
    · rw [all_succ ended, ends_iff_of_not_isAtEnd ended, same]
      rcases ih (skipBlanks_next ended settled) read with ⟨read', others⟩ | ⟨endless, met⟩
      · exact .inl ⟨by rw [read', Option.map_some], List.forall_mem_cons.mpr ⟨known, others⟩⟩
      · obtain ⟨result, mem, stray⟩ := met
        exact .inr ⟨endless, result, List.mem_cons_of_mem _ mem, stray⟩
    · exact .inr ⟨not_ends_of_stays ended stays, _, List.mem_cons_self, stray⟩

/-- When reading ends, by what is read without the empty lexeme, and that nothing else is read
then. -/
theorem ends_iff_of_all_eq (settled : reading.skipBlanks = reading)
    (read : reading.all vocabulary.withoutEmpty limit = some results) :
    (reading.Ends vocabulary ↔ "" ∉ vocabulary.lexemes ∨ ¬ ∃ result ∈ results, Stray result) ∧
      (reading.Ends vocabulary → reading.all vocabulary limit = some results) := by
  by_cases empty : "" ∈ vocabulary.lexemes
  · rcases all_cases empty settled read with ⟨read', known⟩ | ⟨endless, met⟩
    · have ends : reading.Ends vocabulary := exists_all_eq_some_iff.mp ⟨limit, results, read'⟩
      have none : ¬ ∃ result ∈ results, Stray result := by
        rintro ⟨result, mem, stray⟩
        exact known result mem stray
      exact ⟨iff_of_true ends (.inr none), fun _ => read'⟩
    · refine ⟨iff_of_false endless ?_, fun ends => absurd ends endless⟩
      rintro (proper | none)
      · exact proper empty
      · exact none met
  · rw [Vocabulary.withoutEmpty_eq_self empty] at read
    have ends : reading.Ends vocabulary := exists_all_eq_some_iff.mp ⟨limit, results, read⟩
    exact ⟨iff_of_true ends (.inl empty), fun _ => read⟩

end Reading

/-! ### Scans -/

variable [Alphabet] in
/-- A scan reports an unknown character that is no part of a word. -/
def Strays (outcome : Except (List LexicalError) Program) : Prop :=
  ∃ errors, outcome = .error errors ∧ ∃ error ∈ errors, error.IsStray

theorem mem_errorsOf_iff {error : LexicalError} {results : List (Except LexicalError Lexeme)} :
    error ∈ errorsOf results ↔ .error error ∈ results := by
  rw [errorsOf, List.mem_filterMap]
  constructor
  · rintro ⟨result, mem, found⟩
    cases result with
    | error other =>
      cases found
      exact mem
    | ok lexeme => cases found
  · intro mem
    exact ⟨_, mem, rfl⟩

variable [Alphabet] in
theorem strays_programUnless_iff {results : List (Except LexicalError Lexeme)} {program : Program} :
    Strays (programUnless (errorsOf results) program) ↔
      ∃ result ∈ results, Reading.Stray result := by
  have reported : Strays (programUnless (errorsOf results) program) ↔
      ∃ error ∈ errorsOf results, error.IsStray := by
    unfold Strays
    cases errorsOf results with
    | nil => simp [programUnless]
    | cons error errors => simp [programUnless]
  rw [reported]
  constructor
  · rintro ⟨error, mem, stray⟩
    exact ⟨_, mem_errorsOf_iff.mp mem, error, rfl, stray⟩
  · rintro ⟨_, mem, error, rfl, stray⟩
    exact ⟨error, mem_errorsOf_iff.mpr mem, stray⟩

variable [Alphabet] in
/-- **When a scan ends.**  Without the empty lexeme it always does.  With it, reading lexeme after
lexeme comes to the end of the text exactly if the scan without it reports no unknown character that
is no part of a word; the program or the errors, and the symbol table, are then those of that scan.
Otherwise there is no result. -/
theorem scan_ends_exact (vocabulary : Vocabulary) (text : String) (table : SymbolTable) :
    ∃ outcome last, scan vocabulary.withoutEmpty text table = some (outcome, last) ∧
      ((Reading.ofText text).Ends vocabulary ↔ "" ∉ vocabulary.lexemes ∨ ¬ Strays outcome) ∧
      ((Reading.ofText text).Ends vocabulary →
        scan vocabulary text table = some (outcome, last)) ∧
      (¬ (Reading.ofText text).Ends vocabulary → scan vocabulary text table = none) := by
  have proper : "" ∉ vocabulary.withoutEmpty.lexemes := Vocabulary.empty_not_mem_withoutEmpty
  obtain ⟨results, munched⟩ := Reading.exists_munched proper [] text.toList
  have read := munched.read_eq proper
  have settled : (Reading.ofText text).skipBlanks = Reading.ofText text :=
    Reading.skipBlanks_skipBlanks _
  obtain ⟨ends, same⟩ := Reading.ends_iff_of_all_eq settled read
  refine ⟨_, _, scan_of_read read table, ?_, fun ended => scan_of_read (same ended) table, ?_⟩
  · rw [ends, strays_programUnless_iff]
  · intro endless
    have none : (Reading.ofText text).all vocabulary (Reading.ofText text).rest.length = none := by
      rw [Option.eq_none_iff_forall_ne_some]
      intro others read'
      exact endless (Reading.exists_all_eq_some_iff.mp ⟨_, others, read'⟩)
    rw [scan, none]
    rfl

/-- The empty lexeme stands before a sign that is not in the vocabulary, and is read there for
ever. -/
example : scan (.ofList ["", "+"]) "a + 1 $ b" (.ofCapacity 10) = none := by decide +kernel

end Descent
