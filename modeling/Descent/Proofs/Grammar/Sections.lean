import Descent.Grammar.Document
import Descent.Proofs.Grammar.Declared
import Descent.Proofs.Text.Words

/-!
# What the sections of a text declare

A line with content counts by its section and its words.  A text is read as a grammar exactly if
no name is declared as both kinds, there is one start line with one symbol, and every production
line is made of a declared nonterminal, an arrow, and alternatives with bars between them.  Which
grammar it is then follows from the words of each section.

A production line is said to be `Rule.words` of a rule rather than split at arrow and bars.  This
is the same for a rule that is `Rule.Legible`, and it says at once how the line is written.
-/

namespace Descent

open Document

/-- The words of a production line: the left-hand side, the arrow, and the alternatives with bars
between them. -/
def Rule.words (line : Rule) : List Symbol :=
  line.name :: arrow :: [bar].intercalate (line.alternatives.map (·.symbols))

/-- The words of the line tell the rule: there is an alternative, the arrow is not on the left, and
the bar is in no alternative. -/
structure Rule.Legible (line : Rule) : Prop where
  /-- The left-hand side is not taken for the arrow. -/
  left : line.name ≠ arrow
  /-- There is an alternative. -/
  alternatives : line.alternatives ≠ []
  /-- No symbol of an alternative is taken for a bar. -/
  symbols : ∀ production ∈ line.alternatives, bar ∉ production.symbols

namespace Document

variable {draft next : Draft} {entries : List Entry} {words : List Symbol} {start : Symbol}
  {grammar : Grammar}

/-- The words of the lines of a section. -/
def wordsOf (part : Part) (entries : List Entry) : List (List Symbol) :=
  (entriesOf part entries).map (·.words)

/-! ### Going through lines -/

theorem blame_eq_ok_iff {α : Type} {number : Nat} {result : Except GrammarError α} {value : α} :
    blame number result = .ok value ↔ result = .ok value := by
  cases result with
  | error cause => exact iff_of_false nofun nofun
  | ok result => simp [blame]

theorem readEach_cons_eq_ok_iff {read : Draft → List String → Except GrammarError Draft}
    {entry : Entry} :
    readEach read draft (entry :: entries) = .ok next ↔
      ∃ middle, read draft entry.words = .ok middle ∧
        readEach read middle entries = .ok next := by
  refine Except.bind_eq_ok_iff.trans ?_
  simp only [blame_eq_ok_iff]

/-- Lines of names are read as if all names were on one line. -/
theorem readEach_declareAll_eq_ok_iff {kind : Kind} :
    readEach (·.declareAll kind) draft entries = .ok next ↔
      draft.declareAll kind (entries.map (·.words)).flatten = .ok next := by
  induction entries generalizing draft with
  | nil => simp [readEach, Draft.declareAll]
  | cons entry entries ih =>
    simp only [readEach_cons_eq_ok_iff, ih, List.map_cons, List.flatten_cons,
      Draft.declareAll_append_eq_ok_iff]

/-! ### The start line -/

/-- Once there is a start symbol, there can be no further start line. -/
theorem readStart_some_eq_ok_iff {found : Option Symbol} :
    readStart (some start) entries = .ok found ↔ entries = [] ∧ found = some start := by
  cases entries with
  | nil => simp [readStart, eq_comm]
  | cons entry entries =>
    obtain ⟨number, part, words⟩ := entry
    match words with
    | [] | [_] | _ :: _ :: _ => exact iff_of_false nofun fun none => nomatch none.1

/-- A start symbol is read where there is one start line with one word. -/
theorem readStart_eq_ok_iff :
    readStart none entries = .ok (some start) ↔ entries.map (·.words) = [[start]] := by
  cases entries with
  | nil => simp [readStart]
  | cons entry entries =>
    obtain ⟨number, part, words⟩ := entry
    match words with
    | [symbol] =>
      show readStart (some symbol) entries = .ok (some start) ↔ _
      rw [readStart_some_eq_ok_iff]
      constructor
      · rintro ⟨rfl, ⟨⟩⟩
        rfl
      · intro single
        simp only [List.map_cons, List.cons.injEq, List.map_eq_nil_iff, and_true] at single
        exact ⟨single.2, congrArg some single.1.symm⟩
    | [] | _ :: _ :: _ => exact iff_of_false nofun (by simp)

/-! ### Production lines -/

/-- The alternatives of a legible line are what stands between its bars. -/
theorem pieces_of_legible {line : Rule} (legible : line.Legible) :
    Text.pieces (· == bar) ([bar].intercalate (line.alternatives.map (·.symbols))) =
      line.alternatives.map (·.symbols) := by
  rw [Text.pieces_eq_splitOnP]
  refine List.splitOn_intercalate bar (fun list mem => ?_) (by simpa using legible.alternatives)
  obtain ⟨production, inside, rfl⟩ := List.mem_map.mp mem
  exact legible.symbols production inside

/-- What stands between bars are the alternatives of a legible line, if none of it is empty. -/
theorem legible_of_pieces {left : Symbol} {body : List Symbol} {productions : List Production}
    (other : left ≠ arrow)
    (cut : Text.pieces (· == bar) body = productions.map (·.symbols)) :
    left :: arrow :: body = (Rule.mk left productions).words ∧
      (Rule.mk left productions).Legible := by
  refine ⟨?_, other, ?_, ?_⟩
  · rw [Rule.words, ← cut, Text.pieces_eq_splitOnP]
    exact congrArg (left :: arrow :: ·) (List.intercalate_splitOn bar).symm
  · rintro rfl
    exact Text.pieces_ne_nil _ _ cut
  · intro production mem inside
    have piece : production.symbols ∈ Text.pieces (· == bar) body :=
      cut ▸ List.mem_map_of_mem mem
    exact Text.not_of_mem_pieces piece inside (by simp)

/-- A line with an arrow and one word before it is a left-hand side, the arrow, and what follows
them. -/
theorem eq_cons_arrow {left : Symbol} (contains : words.contains arrow)
    (front : words.takeWhile (· != arrow) = [left]) :
    left ≠ arrow ∧ words = left :: arrow :: (words.dropWhile (· != arrow)).drop 1 := by
  have whole := List.takeWhile_append_dropWhile (p := (· != arrow)) (l := words)
  rw [front, List.singleton_append] at whole
  have inside : left ∈ words.takeWhile (· != arrow) := front ▸ List.mem_singleton_self left
  have other : left ≠ arrow :=
    bne_iff_ne.mp (List.mem_takeWhile_imp (p := fun word => word != arrow) inside)
  have stop := List.head?_dropWhile_not (· != arrow) words
  cases back : words.dropWhile (· != arrow) with
  | nil =>
    rw [back] at whole
    simp [← whole, Ne.symm other] at contains
  | cons word rest =>
    rw [back] at whole stop
    obtain rfl : word = arrow := by simpa using stop
    exact ⟨other, whole.symm⟩

/-- **What is read as a production line.** -/
theorem readProduction_eq_ok_iff :
    readProduction draft words = .ok next ↔ ∃ line : Rule, words = line.words ∧ line.Legible ∧
      draft.kind? line.name = some .nonterminal ∧ next = draft.extend [line] := by
  constructor
  · intro read
    unfold readProduction at read
    split at read
    · rename_i contains
      split at read
      · rename_i left front
        -- The alternatives are the pieces between bars, and bars between them give the words back.
        obtain ⟨other, spelled⟩ := eq_cons_arrow contains front
        generalize (words.dropWhile (· != arrow)).drop 1 = back at read spelled
        obtain ⟨piece, others, cut⟩ :=
          List.exists_cons_of_ne_nil (Text.pieces_ne_nil (· == bar) back)
        have declared : draft.kind? left = some .nonterminal :=
          Draft.kind?_of_addAlternatives (cut ▸ read)
        obtain ⟨productions, list, rfl⟩ := (Draft.addAlternatives_eq_ok_iff declared).mp read
        obtain ⟨whole, legible⟩ := legible_of_pieces other list
        exact ⟨⟨left, productions⟩, spelled.trans whole, legible, declared, rfl⟩
      · cases read
    · cases read
  · rintro ⟨line, rfl, legible, declared, rfl⟩
    have left : (line.name != arrow) = true := by simpa using legible.left
    have contains : line.words.contains arrow := by simp [Rule.words]
    have front : line.words.takeWhile (· != arrow) = [line.name] := by
      simp [Rule.words, left]
    have back : (line.words.dropWhile (· != arrow)).drop 1 =
        [bar].intercalate (line.alternatives.map (·.symbols)) := by
      simp [Rule.words, left]
    rw [readProduction, if_pos contains, front, back, pieces_of_legible legible]
    exact (Draft.addAlternatives_eq_ok_iff declared).mpr ⟨line.alternatives, rfl, rfl⟩

/-- Production lines are read if each of them is. -/
theorem readEach_readProduction_eq_ok_iff :
    readEach readProduction draft entries = .ok next ↔ ∃ lines : List Rule,
      entries.map (·.words) = lines.map (·.words) ∧
      (∀ line ∈ lines, line.Legible ∧ draft.kind? line.name = some .nonterminal) ∧
      next = draft.extend lines := by
  induction entries generalizing draft with
  | nil =>
    rw [readEach, Except.ok.injEq]
    constructor
    · rintro rfl
      exact ⟨[], rfl, by simp, (Draft.extend_of_alternatives_eq_nil (by simp)).symm⟩
    · rintro ⟨lines, none, -, rfl⟩
      obtain rfl := List.map_eq_nil_iff.mp none.symm
      exact (Draft.extend_of_alternatives_eq_nil (by simp)).symm
  | cons entry entries ih =>
    rw [readEach_cons_eq_ok_iff]
    constructor
    · rintro ⟨middle, first, others⟩
      obtain ⟨line, spelled, legible, declared, rfl⟩ := readProduction_eq_ok_iff.mp first
      obtain ⟨lines, rest, each, rfl⟩ := ih.mp others
      simp only [Draft.kind?_extend] at each
      refine ⟨line :: lines, ?_, ?_, (Draft.extend_append draft [line] lines).symm⟩
      · rw [List.map_cons, List.map_cons, spelled, rest]
      · exact List.forall_mem_cons.mpr ⟨⟨legible, declared⟩, each⟩
    · rintro ⟨lines, spelled, each, rfl⟩
      obtain ⟨line, lines, rfl, first, rest⟩ := List.map_eq_cons_iff.mp spelled.symm
      rw [List.forall_mem_cons] at each
      refine ⟨draft.extend [line], ?_, ?_⟩
      · exact readProduction_eq_ok_iff.mpr ⟨line, first.symm, each.1.1, each.1.2, rfl⟩
      · refine ih.mpr ⟨lines, rest.symm, ?_, Draft.extend_append draft [line] lines⟩
        simpa only [Draft.kind?_extend] using each.2

/-! ### Grammars -/

/-- **What is read as a grammar.** -/
theorem read_eq_ok_iff :
    let nonterminals := (wordsOf .nonterminals entries).flatten
    let terminals := (wordsOf .terminals entries).flatten
    read entries = .ok grammar ↔
      (∀ name ∈ terminals, name ∉ nonterminals) ∧
      wordsOf .start entries = [[grammar.start]] ∧
      ∃ lines : List Rule, wordsOf .productions entries = lines.map (·.words) ∧
        (∀ line ∈ lines, line.Legible ∧ line.name ∈ nonterminals) ∧
        grammar.rules = ((Draft.ofNames nonterminals terminals).extend lines).rules ∧
        grammar.terminals = terminals.eraseDups := by
  intro nonterminals terminals
  have named : Draft.empty.declareAll .nonterminal nonterminals =
      .ok (Draft.ofNames nonterminals []) := @Draft.declareAll_nonterminal [] nonterminals
  constructor
  · intro done
    obtain ⟨first, names, done⟩ := Except.bind_eq_ok_iff.mp done
    obtain ⟨second, others, done⟩ := Except.bind_eq_ok_iff.mp done
    obtain ⟨start, started, done⟩ := Except.bind_eq_ok_iff.mp done
    obtain ⟨last, added, done⟩ := Except.bind_eq_ok_iff.mp done
    obtain rfl := Except.ok.inj (named.symm.trans (readEach_declareAll_eq_ok_iff.mp names))
    obtain ⟨disjoint, rfl⟩ := Draft.declareAll_terminal_eq_ok_iff.mp
      (readEach_declareAll_eq_ok_iff.mp others)
    obtain ⟨lines, spelled, each, rfl⟩ := readEach_readProduction_eq_ok_iff.mp added
    cases start with
    | none => cases done
    | some start =>
      cases done
      refine ⟨disjoint, readStart_eq_ok_iff.mp started, lines, spelled, ?_, rfl, rfl⟩
      intro line mem
      exact ⟨(each line mem).1, Draft.kind?_ofNames_eq_nonterminal_iff.mp (each line mem).2⟩
  · rintro ⟨disjoint, started, lines, spelled, each, rules, rest⟩
    refine Except.bind_eq_ok_iff.mpr ⟨_, readEach_declareAll_eq_ok_iff.mpr named, ?_⟩
    refine Except.bind_eq_ok_iff.mpr ⟨_, readEach_declareAll_eq_ok_iff.mpr
      (Draft.declareAll_terminal_eq_ok_iff.mpr ⟨disjoint, rfl⟩), ?_⟩
    refine Except.bind_eq_ok_iff.mpr ⟨_, readStart_eq_ok_iff.mpr started, ?_⟩
    refine Except.bind_eq_ok_iff.mpr ⟨_, readEach_readProduction_eq_ok_iff.mpr
      ⟨lines, spelled, fun line mem => ?_, rfl⟩, ?_⟩
    · exact ⟨(each line mem).1, Draft.kind?_ofNames_eq_nonterminal_iff.mpr (each line mem).2⟩
    · obtain ⟨_, _, _⟩ := grammar
      dsimp only at rules rest
      rw [rules, rest]
      rfl

end Document

/-- The nonterminals of a text are the words of their section, each where it comes first. -/
theorem Grammar.nonterminals_of_read {grammar : Grammar} {entries : List Entry}
    (done : read entries = .ok grammar) :
    grammar.nonterminals = (wordsOf .nonterminals entries).flatten.eraseDups := by
  obtain ⟨-, -, lines, -, -, rules, -⟩ := read_eq_ok_iff.mp done
  rw [nonterminals, rules, Draft.map_name_rules_extend, Draft.map_name_rules_ofNames]

end Descent
