import Mathlib
import Descent.Proofs.Grammar.Malformed
import Descent.Proofs.Grammar.Places

/-!
# Which line of a text is to blame

A text is read in passes: its lines are told apart, then nonterminals are declared, then
terminals, then the start symbol is read, then the production lines.  Each pass goes through its
lines in the order of the text and comes to an end at the first line with a flaw, so that the
error of a text is known from the flaws of its lines alone: the first pass with a flaw says which,
and its first line with one says where.  Declaring nonterminals comes to no end, as there is no
other name before.

The start section is different from the others, as whether a line is right depends on those before
it, and as there can be a flaw without a line: that there is no start symbol at all.
-/

namespace Descent

namespace Document

variable {draft : Draft} {name : Symbol} {part : Part} {lines : List (List Char)}
  {entries : List Entry} {n : Nat} {words others : List Symbol} {cause : GrammarError}

/-! ### What can be wrong with a line -/

/-- A name is declared as a nonterminal on some line. -/
def Names (lines : List (List Char)) (name : Symbol) : Prop :=
  ∃ n words, Under lines .nonterminals n words ∧ name ∈ words

/-- Line `n` is in a section, and something is wrong with its words. -/
def InSection (lines : List (List Char)) (part : Part)
    (bad : List Symbol → GrammarError → Prop) (n : Nat) (cause : GrammarError) : Prop :=
  ∃ words, Under lines part n words ∧ bad words cause

/-- Something is wrong with line `n` of the start section. -/
inductive Misstarted (lines : List (List Char)) (n : Nat) : GrammarError → Prop
  /-- The line is not one word. -/
  | startNotOneSymbol {words : List Symbol} (under : Under lines .start n words)
      (other : words.length ≠ 1) : Misstarted lines n .startNotOneSymbol
  /-- The line is one word, but there is a line of the section above it. -/
  | startRepeated {symbol : Symbol} {m : Nat} {words : List Symbol}
      (under : Under lines .start n [symbol]) (above : m < n)
      (earlier : Under lines .start m words) :
      Misstarted lines n .startRepeated

/-- The error of a text, said of its lines. -/
inductive Blamed (lines : List (List Char)) : LoadError → Prop
  /-- Some line is in no section. -/
  | misplaced {n : Nat} {cause : GrammarError} (first : First (Misplaced lines) n cause) :
      Blamed lines ⟨some n, cause⟩
  /-- Some name is declared as both kinds. -/
  | overlapping {n : Nat} {cause : GrammarError} (placed : Clear (Misplaced lines))
      (first : First (InSection lines .terminals (Overlapping (Names lines))) n cause) :
      Blamed lines ⟨some n, cause⟩
  /-- Something is wrong with the start section. -/
  | misstarted {n : Nat} {cause : GrammarError} (placed : Clear (Misplaced lines))
      (disjoint : Clear (InSection lines .terminals (Overlapping (Names lines))))
      (first : First (Misstarted lines) n cause) : Blamed lines ⟨some n, cause⟩
  /-- Some production line is none. -/
  | malformed {n : Nat} {cause : GrammarError} (placed : Clear (Misplaced lines))
      (disjoint : Clear (InSection lines .terminals (Overlapping (Names lines))))
      (started : Clear (Misstarted lines))
      (first : First (InSection lines .productions (Malformed (Names lines))) n cause) :
      Blamed lines ⟨some n, cause⟩
  /-- There is no start line. -/
  | startMissing (placed : Clear (Misplaced lines))
      (disjoint : Clear (InSection lines .terminals (Overlapping (Names lines))))
      (started : Clear (Misstarted lines))
      (formed : Clear (InSection lines .productions (Malformed (Names lines))))
      (missing : ∀ n words, ¬ Under lines .start n words) : Blamed lines ⟨none, .startMissing⟩

/-! ### Lines of a section -/

theorem inSection_iff {bad : List Symbol → GrammarError → Prop} (under : Under lines part n words) :
    InSection lines part bad n cause ↔ bad words cause := by
  constructor
  · rintro ⟨others, inside, wrong⟩
    obtain ⟨-, rfl⟩ := under.unique inside
    exact wrong
  · intro wrong
    exact ⟨words, under, wrong⟩

namespace Tells

/-- The lines of a section are its entries. -/
theorem mem_entriesOf_iff (h : Tells lines 0 entries) {entry : Entry} :
    entry ∈ entriesOf part entries ↔
      entry.part = part ∧ Under lines part entry.number entry.words := by
  rw [entriesOf, List.mem_filter, h.mem_iff, decide_eq_true_eq]
  constructor
  · rintro ⟨⟨-, under⟩, rfl⟩
    exact ⟨rfl, under⟩
  · rintro ⟨rfl, under⟩
    exact ⟨⟨Nat.zero_le _, under⟩, rfl⟩

theorem exists_mem_entriesOf (h : Tells lines 0 entries) (under : Under lines part n words) :
    ⟨n, part, words⟩ ∈ entriesOf part entries :=
  h.mem_entriesOf_iff.mpr ⟨rfl, under⟩

theorem sorted_entriesOf (h : Tells lines 0 entries) (part : Part) :
    ((entriesOf part entries).map (·.number)).Pairwise (· < ·) :=
  h.sorted.sublist (List.filter_sublist.map _)

/-- A pass through a section blames the first line with a flaw. -/
theorem blames {α : Type} {result : Except LoadError α} {flaw : Nat → GrammarError → Prop}
    (h : Tells lines 0 entries)
    (among : BlamesAmong ((entriesOf part entries).map (·.number)) result flaw)
    (inside : ∀ n cause, flaw n cause → ∃ words, Under lines part n words) :
    Blames result flaw := by
  refine among.blames (h.sorted_entriesOf part) fun n cause flawed => ?_
  obtain ⟨words, under⟩ := inside n cause flawed
  exact List.mem_map.mpr ⟨_, h.exists_mem_entriesOf under, rfl⟩

theorem names_iff (h : Tells lines 0 entries) :
    Names lines name ↔ name ∈ (wordsOf .nonterminals entries).flatten := by
  rw [List.mem_flatten, wordsOf]
  constructor
  · rintro ⟨n, words, under, mem⟩
    exact ⟨words, List.mem_map.mpr ⟨_, h.exists_mem_entriesOf under, rfl⟩, mem⟩
  · rintro ⟨words, listed, mem⟩
    obtain ⟨entry, inside, rfl⟩ := List.mem_map.mp listed
    exact ⟨entry.number, entry.words, (h.mem_entriesOf_iff.mp inside).2, mem⟩

end Tells

/-! ### Passes -/

section

variable {read : Draft → List Symbol → Except GrammarError Draft}
  {bad : List Symbol → GrammarError → Prop}

/-- **A pass comes to an end at the first line with a flaw**, where what is wrong with a line does
not depend on the lines before it. -/
theorem blames_readEach (Holds : Draft → Prop)
    (fails : ∀ draft words cause, Holds draft → (read draft words = .error cause ↔ bad words cause))
    (keeps : ∀ draft next words, Holds draft → read draft words = .ok next → Holds next)
    (holds : Holds draft) (tells : Tells lines 0 entries) :
    Blames (readEach read draft (entriesOf part entries)) (InSection lines part bad) := by
  have among : BlamesAmong ((entriesOf part entries).map (·.number))
      (readEach read draft (entriesOf part entries)) (InSection lines part bad) := by
    have under : ∀ entry ∈ entriesOf part entries, Under lines part entry.number entry.words :=
      fun entry mem => (tells.mem_entriesOf_iff.mp mem).2
    generalize entriesOf part entries = list at under
    -- What holds of the draft says why a line is not read, and goes on to hold if it is.
    induction list generalizing draft with
    | nil => exact .nil draft
    | cons entry list ih =>
      rw [List.forall_mem_cons] at under
      have here (cause : GrammarError) :
          InSection lines part bad entry.number cause ↔ read draft entry.words = .error cause :=
        (inSection_iff under.1).trans (fails draft entry.words cause holds).symm
      rw [List.map_cons, readEach]
      cases done : read draft entry.words with
      | error cause =>
        refine .here fun other => ?_
        rw [here, done, Except.error.injEq, eq_comm]
      | ok next =>
        refine .later (fun other => ?_) (ih (keeps draft next entry.words holds done) under.2)
        rw [here, done]
        intro failed
        cases failed
  refine tells.blames among ?_
  rintro n cause ⟨words, under, -⟩
  exact ⟨words, under⟩

end

/-- Declaring terminals blames the first line with a name that is declared as a nonterminal. -/
theorem blames_readEach_declareAll (tells : Tells lines 0 entries) :
    Blames
      (readEach (·.declareAll .terminal)
        (Draft.ofNames (wordsOf .nonterminals entries).flatten []) (entriesOf .terminals entries))
      (InSection lines .terminals (Overlapping (Names lines))) := by
  have names : Names lines = (· ∈ (wordsOf .nonterminals entries).flatten) :=
    funext fun name => propext tells.names_iff
  rw [names]
  refine blames_readEach (fun draft => ∃ terminals,
    draft = Draft.ofNames (wordsOf .nonterminals entries).flatten terminals) ?_ ?_ ⟨[], rfl⟩ tells
  · rintro _ words cause ⟨terminals, rfl⟩
    exact declareAll_terminal_eq_error_iff
  · rintro _ next words ⟨terminals, rfl⟩ declared
    exact ⟨_, (Draft.declareAll_terminal_eq_ok_iff.mp declared).2⟩

/-- Reading production lines blames the first that is none. -/
theorem blames_readEach_readProduction (tells : Tells lines 0 entries)
    (names : ∀ name, draft.kind? name = some .nonterminal ↔ Names lines name) :
    Blames (readEach readProduction draft (entriesOf .productions entries))
      (InSection lines .productions (Malformed (Names lines))) := by
  refine blames_readEach (fun draft => ∀ name,
    draft.kind? name = some .nonterminal ↔ Names lines name) ?_ ?_ names tells
  · intro draft words cause names
    exact readProduction_eq_error_iff names
  · intro draft next words names read
    obtain ⟨line, -, -, -, rfl⟩ := readProduction_eq_ok_iff.mp read
    rwa [Draft.kind?_extend]

theorem misstarted_iff (under : Under lines .start n words) :
    Misstarted lines n cause ↔
      words.length ≠ 1 ∧ cause = .startNotOneSymbol ∨
      words.length = 1 ∧ (∃ m < n, ∃ others, Under lines .start m others) ∧
        cause = .startRepeated := by
  constructor
  · rintro (⟨under', other⟩ | ⟨under', above, earlier⟩)
    · obtain ⟨-, rfl⟩ := under.unique under'
      exact .inl ⟨other, rfl⟩
    · obtain ⟨-, rfl⟩ := under.unique under'
      exact .inr ⟨rfl, ⟨_, above, _, earlier⟩, rfl⟩
  · rintro (⟨other, rfl⟩ | ⟨one, ⟨m, above, others, earlier⟩, rfl⟩)
    · exact .startNotOneSymbol under other
    · obtain ⟨symbol, rfl⟩ := List.length_eq_one_iff.mp one
      exact .startRepeated under above earlier

/-- The first start line is to blame unless it is one word. -/
theorem misstarted_iff_of_first (under : Under lines .start n words)
    (least : ∀ m < n, ∀ others, ¬ Under lines .start m others) :
    Misstarted lines n cause ↔ words.length ≠ 1 ∧ cause = .startNotOneSymbol := by
  rw [misstarted_iff under]
  refine or_iff_left ?_
  rintro ⟨-, ⟨m, above, others, earlier⟩, -⟩
  exact least m above others earlier

/-- Every other start line is to blame. -/
theorem misstarted_iff_of_later {m : Nat} (under : Under lines .start n words) (above : m < n)
    (earlier : Under lines .start m others) :
    Misstarted lines n cause ↔
      cause = if words.length = 1 then .startRepeated else .startNotOneSymbol := by
  have before : ∃ m < n, ∃ others, Under lines .start m others := ⟨m, above, others, earlier⟩
  rw [misstarted_iff under]
  split
  · simp_all
  · simp_all

/-- Once there is a start symbol, the next start line is to blame. -/
theorem readStart_some_cons {symbol : Symbol} {entry : Entry} :
    readStart (some symbol) (entry :: entries) = .error ⟨some entry.number,
      if entry.words.length = 1 then .startRepeated else .startNotOneSymbol⟩ := by
  obtain ⟨number, part, words⟩ := entry
  match words with
  | [] | [_] | _ :: _ :: _ => rfl

/-- Reading the start section blames the first line that is not one word or not the first. -/
theorem blames_readStart (tells : Tells lines 0 entries) :
    Blames (readStart none (entriesOf .start entries)) (Misstarted lines) := by
  have among : BlamesAmong ((entriesOf .start entries).map (·.number))
      (readStart none (entriesOf .start entries)) (Misstarted lines) := by
    have under : ∀ entry ∈ entriesOf .start entries, Under lines .start entry.number entry.words :=
      fun entry mem => (tells.mem_entriesOf_iff.mp mem).2
    have sorted := tells.sorted_entriesOf .start
    have all (m : Nat) (others : List Symbol) (inside : Under lines .start m others) :
        m ∈ (entriesOf .start entries).map (·.number) :=
      List.mem_map.mpr ⟨_, tells.exists_mem_entriesOf inside, rfl⟩
    generalize entriesOf .start entries = list at under sorted all
    cases list with
    | nil => exact .nil none
    | cons entry list =>
      rw [List.forall_mem_cons] at under
      rw [List.map_cons] at sorted all ⊢
      have least : ∀ m < entry.number, ∀ others, ¬ Under lines .start m others := by
        intro m above others earlier
        rcases List.mem_cons.mp (all m others earlier) with same | mem
        · omega
        · exact absurd above (Nat.lt_asymm (List.rel_of_pairwise_cons sorted mem))
      have first : ∀ cause, Misstarted lines entry.number cause ↔
          entry.words.length ≠ 1 ∧ cause = .startNotOneSymbol :=
        fun cause => misstarted_iff_of_first under.1 least
      obtain ⟨number, part, words⟩ := entry
      match words with
      | [symbol] =>
        refine .later (fun other => by simp [first]) ?_
        show BlamesAmong _ (readStart (some symbol) list) _
        cases list with
        | nil => exact .nil (some symbol)
        | cons second rest =>
          rw [readStart_some_cons]
          refine .here fun other => ?_
          exact misstarted_iff_of_later (under.2 second List.mem_cons_self)
            (List.rel_of_pairwise_cons sorted List.mem_cons_self) under.1
      | [] | _ :: _ :: _ => exact .here fun other => by simp [first]
  refine tells.blames among ?_
  rintro n cause (⟨under, -⟩ | ⟨under, -, -⟩)
  · exact ⟨_, under⟩
  · exact ⟨_, under⟩

/-! ### All passes -/

/-- The line to blame is one of the text. -/
theorem Blamed.lt_length {error : LoadError} (h : Blamed lines error) :
    ∀ n ∈ error.line, n < lines.length := by
  rintro n place
  cases h with
  | misplaced first =>
    cases place
    exact first.1.lt_length
  | overlapping _ first | malformed _ _ _ first =>
    cases place
    obtain ⟨words, under, -⟩ := first.1
    exact under.lt_length
  | misstarted _ _ first =>
    cases place
    obtain ⟨under, -⟩ | ⟨under, -, -⟩ := first.1 <;> exact under.lt_length
  | startMissing => cases place

/-- Where a pass that blames the first line with a flaw is followed by more, either this line is to
blame or there is no flaw. -/
theorem Blames.bind_eq_error_iff {α β : Type} {result : Except LoadError α}
    {further : α → Except LoadError β} {flaw : Nat → GrammarError → Prop} {error : LoadError}
    {rest : Prop} (blames : Blames result flaw)
    (after : ∀ value, result = .ok value → (further value = .error error ↔ rest)) :
    (result >>= further) = .error error ↔
      (∃ n cause, First flaw n cause ∧ error = ⟨some n, cause⟩) ∨ Clear flaw ∧ rest := by
  rw [Except.bind_eq_error_iff, blames error, ← blames.exists_ok_iff]
  refine or_congr_right ⟨?_, ?_⟩
  · rintro ⟨value, done, failed⟩
    exact ⟨⟨value, done⟩, (after value done).mp failed⟩
  · rintro ⟨⟨value, done⟩, holds⟩
    exact ⟨value, done, (after value done).mpr holds⟩

/-- There is no start symbol where there is no start line. -/
theorem eq_none_iff_of_readStart {found : Option Symbol}
    (read : readStart none entries = .ok found) :
    found = none ↔ entries = [] := by
  cases entries with
  | nil =>
    cases read
    exact iff_of_true rfl rfl
  | cons entry entries =>
    obtain ⟨number, part, words⟩ := entry
    match words with
    | [symbol] =>
      obtain ⟨-, rfl⟩ := readStart_some_eq_ok_iff.mp (read : readStart (some symbol) entries = _)
      exact iff_of_false nofun nofun
    | [] | _ :: _ :: _ => cases read

theorem kind?_withFoundStart (draft : Draft) (start : Option Symbol) :
    (withFoundStart draft start).kind? = draft.kind? := by
  cases start <;> rfl

/-- What follows from the lines with content if they do not make a grammar. -/
theorem read_eq_error_iff {error : LoadError} (tells : Tells lines 0 entries) :
    read entries = .error error ↔
      (∃ n cause, First (InSection lines .terminals (Overlapping (Names lines))) n cause ∧
        error = ⟨some n, cause⟩) ∨
      Clear (InSection lines .terminals (Overlapping (Names lines))) ∧
        ((∃ n cause, First (Misstarted lines) n cause ∧ error = ⟨some n, cause⟩) ∨
        Clear (Misstarted lines) ∧
          ((∃ n cause, First (InSection lines .productions (Malformed (Names lines))) n cause ∧
            error = ⟨some n, cause⟩) ∨
          Clear (InSection lines .productions (Malformed (Names lines))) ∧
            (∀ n words, ¬ Under lines .start n words) ∧ error = ⟨none, .startMissing⟩)) := by
  have named : readEach (·.declareAll .nonterminal) Draft.empty (entriesOf .nonterminals entries) =
      .ok (Draft.ofNames (wordsOf .nonterminals entries).flatten []) :=
    readEach_declareAll_eq_ok_iff.mpr (@Draft.declareAll_nonterminal [] _)
  rw [read, named]
  refine (blames_readEach_declareAll tells).bind_eq_error_iff fun second declared => ?_
  refine (blames_readStart tells).bind_eq_error_iff fun start started => ?_
  obtain ⟨-, rfl⟩ := Draft.declareAll_terminal_eq_ok_iff.mp
    (readEach_declareAll_eq_ok_iff.mp declared)
  refine (blames_readEach_readProduction tells fun name => ?_).bind_eq_error_iff
    fun last added => ?_
  · rw [kind?_withFoundStart, Draft.kind?_ofNames_eq_nonterminal_iff, tells.names_iff]
  · obtain ⟨extra, -, -, rfl⟩ := readEach_readProduction_eq_ok_iff.mp added
    have absent : (∀ n words, ¬ Under lines .start n words) ↔ start = none := by
      rw [eq_none_iff_of_readStart started, List.eq_nil_iff_forall_not_mem]
      constructor
      · intro missing entry mem
        exact missing _ _ (tells.mem_entriesOf_iff.mp mem).2
      · intro empty n words under
        exact empty _ (tells.exists_mem_entriesOf under)
    rw [absent]
    cases start with
    | none =>
      show Except.error _ = Except.error error ↔ _
      simp [eq_comm]
    | some symbol =>
      constructor
      · intro failed
        cases failed
      · rintro ⟨none, -⟩
        cases none

end Document

namespace Grammar

open Document

/-- The error of a text is the one that its lines say. -/
theorem load_eq_error_iff {text : String} {error : LoadError} :
    load text = .error error ↔ Blamed (trimmedLines text) error := by
  refine ((blames_entries text).bind_eq_error_iff fun entries told =>
    read_eq_error_iff (tells_of_entries told)).trans ?_
  constructor
  · rintro (⟨n, cause, first, rfl⟩ | ⟨placed, ⟨n, cause, first, rfl⟩ | ⟨disjoint,
      ⟨n, cause, first, rfl⟩ | ⟨started, ⟨n, cause, first, rfl⟩ | ⟨formed, missing, rfl⟩⟩⟩⟩)
    · exact .misplaced first
    · exact .overlapping placed first
    · exact .misstarted placed disjoint first
    · exact .malformed placed disjoint started first
    · exact .startMissing placed disjoint started formed missing
  · rintro (first | ⟨placed, first⟩ | ⟨placed, disjoint, first⟩ |
      ⟨placed, disjoint, started, first⟩ | ⟨placed, disjoint, started, formed, missing⟩)
    · exact .inl ⟨_, _, first, rfl⟩
    · exact .inr ⟨placed, .inl ⟨_, _, first, rfl⟩⟩
    · exact .inr ⟨placed, .inr ⟨disjoint, .inl ⟨_, _, first, rfl⟩⟩⟩
    · exact .inr ⟨placed, .inr ⟨disjoint, .inr ⟨started, .inl ⟨_, _, first, rfl⟩⟩⟩⟩
    · exact .inr ⟨placed, .inr ⟨disjoint, .inr ⟨started, .inr ⟨formed, missing, rfl⟩⟩⟩⟩

/-- **The line to blame**: the error of a text follows from its lines, and its place is the start of
the line to blame, counted from zero among all lines. -/
theorem blame_exact {text : String} (counted : (Text.lines text.toList).length < 2 ^ 32)
    (error : LoadError) :
    (load text = .error error ↔ Blamed (trimmedLines text) error) ∧
    (load text = .error error →
      (∀ n ∈ error.line, n < (trimmedLines text).length) ∧
      error.location = error.line.map fun n => ⟨n, 0⟩) := by
  refine ⟨load_eq_error_iff, fun failed => ?_⟩
  have within := (load_eq_error_iff.mp failed).lt_length
  refine ⟨within, ?_⟩
  cases place : error.line with
  | none => rw [LoadError.location, place]; rfl
  | some n =>
    have below := within n place
    rw [trimmedLines, List.length_map] at below
    have whole : min n Caret.last = n := by
      rw [Caret.last]
      omega
    rw [LoadError.location, place, Option.map_some, Option.map_some, Caret.lineStart, whole]

/-- Of several flaws the one of the earliest pass is reported, on whatever line it is. -/
theorem blame_exact_overlapping :
    let text :=
      "#PRODUCTIONS\nS a\n// B\n\n#START\nS S\n#TERMINALS\na b\nb A S\n\n#NONTERMINALS\nS A"
    let error : LoadError := ⟨some 8, .bothKinds "A"⟩
    (Text.lines text.toList).length < 2 ^ 32 ∧ load text = .error error ∧
      Blamed (trimmedLines text) error ∧ error.location = some ⟨8, 0⟩ := by
  intro text error
  have counted : (Text.lines text.toList).length < 2 ^ 32 := by
    subst text
    cbv
  have failed : load text = .error error := by
    subst text
    cbv
  obtain ⟨blamed, placed⟩ := blame_exact counted error
  exact ⟨counted, failed, blamed.mp failed, (placed failed).2⟩

end Grammar

end Descent
