import Mathlib.Data.List.Infix
import Descent.Proofs.Grammar.Lines

/-!
# Which texts are grammars

A line belongs to the section of the last header before it, however often and in whatever order
sections come.  So a text says by its lines alone whether it is a grammar, and which one: the
names are the words of their sections, each where it comes first, and the alternatives of a
nonterminal are those of all its production lines, in their order.

`Document.Formatted` says what a text has to be like.  It looks up the last header before a line
for each line by itself, where reading keeps the section at hand as it goes along; the induction
that relates the two is over the lines, with those that were read already as a parameter.
-/

namespace Descent

namespace Document

variable {part : Part} {current : Option Part} {number : Nat} {line : List Char}
  {before lines : List (List Char)} {entries : List Entry}
  {words names : List Symbol}

/-! ### Sections of a text -/

/-- The lines that count for something, without their outer blanks. -/
def counted (lines : List (List Char)) : List (List Char) :=
  (lines.map Text.trim).filter (!isSkipped ·)

/-- The lines of a text that count for something, without their outer blanks. -/
def countedLines (text : String) : List (List Char) := counted (Text.lines text.toList)

/-- Whether a line starts with a number sign. -/
def isHeading (line : List Char) : Bool := line.head? == some '#'

/-- The last line among some lines that starts with a number sign. -/
def lastHeading? (lines : List (List Char)) : Option (List Char) :=
  (lines.filter isHeading).getLast?

/-- The lines of a section: each line that is no header, if the last header among the lines before
it is that of the section. -/
def linesUnder (part : Part) (lines : List (List Char)) : List (List Char) :=
  ((lines.inits.zip lines).filter fun (before, line) =>
    !isHeading line && lastHeading? before == some part.header.toList).map (·.2)

/-- The words of each line of a section. -/
def wordsUnder (part : Part) (text : String) : List (List Symbol) :=
  (linesUnder part (countedLines text)).map lineWords

/-- The alternatives of a production line: what stands between the bars after the left-hand side
and the arrow. -/
def alternativesOf (words : List Symbol) : List (List Symbol) :=
  (words.drop 2).splitOn bar

/-- What a text has to be like to be a grammar. -/
structure Formatted (text : String) : Prop where
  /-- What starts with a number sign is a header. -/
  headers : ∀ line ∈ countedLines text, isHeading line → ∃ part : Part, line = part.header.toList
  /-- Every other line comes after a header. -/
  covered : ∀ before line after, countedLines text = before ++ line :: after →
    ¬ isHeading line → ∃ heading ∈ before, isHeading heading
  /-- No name is declared as both kinds. -/
  disjoint : ∀ name ∈ (wordsUnder .terminals text).flatten,
    name ∉ (wordsUnder .nonterminals text).flatten
  /-- There is one start line, with one word. -/
  start : ∃ symbol, wordsUnder .start text = [[symbol]]
  /-- Every production line is made of a declared nonterminal, the arrow, and alternatives that are
  not empty, with bars between them. -/
  productions : ∀ words ∈ wordsUnder .productions text, ∃ left body,
    words = left :: arrow :: body ∧ left ≠ arrow ∧
      left ∈ (wordsUnder .nonterminals text).flatten ∧ ∀ symbols ∈ body.splitOn bar, symbols ≠ []

/-! ### Telling lines apart -/

theorem counted_cons :
    counted (line :: lines) =
      if isSkipped (Text.trim line) then counted lines
      else Text.trim line :: counted lines := by
  rw [counted, List.map_cons, List.filter_cons]
  cases isSkipped (Text.trim line) <;> rfl

theorem isHeading_iff : isHeading line ↔ line.head? = some '#' := beq_iff_eq

/-- **Whether the lines of a text can be told apart**: what starts with a number sign has to be a
header, and unless some section was begun before, the first line has to be one. -/
theorem exists_entriesFrom_iff :
    (∃ entries, entriesFrom current number lines = .ok entries) ↔
      (∀ line ∈ counted lines, isHeading line → ∃ part : Part, line = part.header.toList) ∧
      (current = none → ∀ line ∈ (counted lines).head?, isHeading line) := by
  induction lines generalizing current number with
  | nil => exact iff_of_true ⟨[], rfl⟩ ⟨fun _ mem => (nomatch mem), fun _ _ mem => (nomatch mem)⟩
  | cons line lines ih =>
    simp only [entriesFrom_cons_eq_ok_iff]
    rw [counted_cons]
    split
    · exact ih
    · rw [List.forall_mem_cons, List.head?_cons]
      by_cases heading : isHeading (Text.trim line)
      · simp only [if_pos (isHeading_iff.mp heading)]
        constructor
        · rintro ⟨entries, part, header, read⟩
          refine ⟨⟨fun _ => ⟨part, header⟩, (ih.mp ⟨entries, read⟩).1⟩, fun _ first same => ?_⟩
          exact Option.some.inj same ▸ heading
        · rintro ⟨⟨header, headers⟩, -⟩
          obtain ⟨part, header⟩ := header heading
          obtain ⟨entries, read⟩ := (@ih (some part) (number + 1)).mpr
            ⟨headers, fun none => nomatch none⟩
          exact ⟨entries, part, header, read⟩
      · simp only [if_neg (mt isHeading_iff.mpr heading)]
        constructor
        · rintro ⟨_, part, others, rfl, read, -⟩
          exact ⟨⟨fun starts => absurd starts heading, (ih.mp ⟨others, read⟩).1⟩,
            fun none => nomatch none⟩
        · rintro ⟨⟨-, headers⟩, begun⟩
          cases current with
          | none => exact absurd (begun rfl _ rfl) heading
          | some part =>
            obtain ⟨others, read⟩ := (@ih (some part) (number + 1)).mpr
              ⟨headers, fun none => nomatch none⟩
            exact ⟨_, part, others, rfl, read, rfl⟩

/-- Every line that is no header comes after one exactly if the first line is one. -/
theorem covered_iff :
    (∀ before line after, lines = before ++ line :: after → ¬ isHeading line →
      ∃ heading ∈ before, isHeading heading) ↔ ∀ line ∈ lines.head?, isHeading line := by
  cases lines with
  | nil => simp
  | cons first rest =>
    constructor
    · intro covered line same
      obtain rfl := Option.some.inj same
      by_contra other
      obtain ⟨heading, mem, -⟩ := covered [] first rest rfl other
      cases mem
    · intro begun before line after split other
      have begun : isHeading first := begun first rfl
      cases before with
      | nil =>
        obtain ⟨rfl, -⟩ := List.cons.inj split
        exact absurd begun other
      | cons heading before =>
        obtain ⟨rfl, -⟩ := List.cons.inj split
        exact ⟨first, List.mem_cons_self, begun⟩

/-! ### The lines of a section -/

theorem lastHeading?_concat :
    lastHeading? (before ++ [line]) =
      if isHeading line then some line else lastHeading? before := by
  rw [lastHeading?, List.filter_append, List.filter_singleton]
  cases isHeading line with
  | true => exact List.getLast?_concat
  | false => rw [cond_false, List.append_nil]; rfl

/-- The lines of a section among some lines, where `before` are the lines before them. -/
def linesAfter (part : Part) (before lines : List (List Char)) : List (List Char) :=
  (((lines.inits.map (before ++ ·)).zip lines).filter fun (before, line) =>
    !isHeading line && lastHeading? before == some part.header.toList).map (·.2)

theorem linesAfter_nil (part : Part) (lines : List (List Char)) :
    linesAfter part [] lines = linesUnder part lines := by
  rw [linesAfter, linesUnder]
  simp only [List.nil_append, List.map_id']

/-- A line that is no header belongs to the section of the last header before it. -/
theorem linesAfter_cons :
    linesAfter part before (line :: lines) =
      if ¬ isHeading line ∧ lastHeading? before = some part.header.toList then
        line :: linesAfter part (before ++ [line]) lines
      else linesAfter part (before ++ [line]) lines := by
  have further : (fun rest => before ++ rest) ∘ (fun rest => line :: rest) =
      fun rest => before ++ [line] ++ rest := by
    funext rest
    simp
  rw [linesAfter, List.inits_cons, List.map_cons, List.zip_cons_cons, List.filter_cons,
    List.append_nil, List.map_map, further]
  by_cases here : ¬ isHeading line ∧ lastHeading? before = some part.header.toList
  · rw [if_pos here, if_pos (by simpa using here), List.map_cons, linesAfter]
  · rw [if_neg here, if_neg (by simpa using here), linesAfter]

theorem Part.header_injective {other : Part} (same : part.header.toList = other.header.toList) :
    part = other := by
  have found := ofHeader?_eq_some_iff.mpr same
  rw [ofHeader?_eq_some_iff.mpr rfl] at found
  exact Option.some.inj found

theorem lineWords_trim (line : List Char) : lineWords (Text.trim line) = lineWords line := by
  rw [lineWords, Text.words_trim, lineWords]

/-- **The words that are read under the header of a section** are those of its lines. -/
theorem wordsOf_of_entriesFrom (read : entriesFrom current number lines = .ok entries)
    (begun : lastHeading? before = current.map (·.header.toList)) (part : Part) :
    wordsOf part entries = (linesAfter part before (counted lines)).map lineWords := by
  -- The section of a line is that of the last header among all lines before it.
  induction lines generalizing current number entries before with
  | nil =>
    cases read
    rfl
  | cons line lines ih =>
    rw [entriesFrom_cons_eq_ok_iff] at read
    rw [counted_cons]
    split at read
    · rename_i skipped
      rw [if_pos skipped]
      exact ih read begun
    · rename_i counts
      rw [if_neg counts, linesAfter_cons]
      split at read
      · rename_i heading
        obtain ⟨other, header, read⟩ := read
        have heading := isHeading_iff.mpr heading
        rw [if_neg fun here => here.1 heading]
        refine ih read ?_
        rw [lastHeading?_concat, if_pos heading, header, Option.map_some]
      · rename_i heading
        obtain ⟨other, others, rfl, read, rfl⟩ := read
        have heading := mt isHeading_iff.mp heading
        have still : lastHeading? (before ++ [Text.trim line]) =
            (some other).map (·.header.toList) := by
          rw [lastHeading?_concat, if_neg heading, begun]
        rw [wordsOf_cons, ih read still, begun, Option.map_some]
        by_cases same : other = part
        · rw [if_pos same, if_pos ⟨heading, by rw [same]⟩, List.map_cons, lineWords_trim]
        · rw [if_neg same, if_neg]
          rintro ⟨-, header⟩
          exact same (Part.header_injective (Option.some.inj header))

/-- The words that are read of a text are those of its sections. -/
theorem wordsOf_of_entries {text : String} (told : Document.entries text = .ok entries)
    (part : Part) : wordsOf part entries = wordsUnder part text := by
  have nothing : lastHeading? [] = (none : Option Part).map (·.header.toList) := rfl
  rw [wordsOf_of_entriesFrom told nothing, linesAfter_nil]
  rfl

/-! ### Production lines -/

/-- A list consists of values that are good exactly if each of its elements is one. -/
theorem exists_map_eq_iff {α β : Type} {value : α → β} {good : α → Prop} {list : List β} :
    (∃ sources : List α, list = sources.map value ∧ ∀ source ∈ sources, good source) ↔
      ∀ element ∈ list, ∃ source, element = value source ∧ good source := by
  constructor
  · rintro ⟨sources, rfl, each⟩ element mem
    obtain ⟨source, inside, rfl⟩ := List.mem_map.mp mem
    exact ⟨source, rfl, each source inside⟩
  · intro each
    induction list with
    | nil => exact ⟨[], rfl, List.forall_mem_nil _⟩
    | cons element list ih =>
      rw [List.forall_mem_cons] at each
      obtain ⟨⟨source, rfl, first⟩, each⟩ := each
      obtain ⟨sources, rfl, others⟩ := ih each
      exact ⟨source :: sources, rfl, List.forall_mem_cons.mpr ⟨first, others⟩⟩

/-- A legible line tells its alternatives. -/
theorem alternativesOf_words {line : Rule} (legible : line.Legible) :
    alternativesOf line.words = line.alternatives.map (·.symbols) :=
  (Text.pieces_eq_splitOnP (· == bar) _).symm.trans (pieces_of_legible legible)

/-- What the words of a legible line are like. -/
theorem exists_legible_iff :
    (∃ line : Rule, words = line.words ∧ line.Legible ∧ line.name ∈ names) ↔
      ∃ left body, words = left :: arrow :: body ∧ left ≠ arrow ∧ left ∈ names ∧
        ∀ symbols ∈ body.splitOn bar, symbols ≠ [] := by
  constructor
  · rintro ⟨line, rfl, legible, declared⟩
    refine ⟨line.name, _, rfl, legible.left, declared, fun symbols mem => ?_⟩
    have listed : symbols ∈ line.alternatives.map (·.symbols) := alternativesOf_words legible ▸ mem
    obtain ⟨production, -, rfl⟩ := List.mem_map.mp listed
    exact List.cons_ne_nil _ _
  · rintro ⟨left, body, rfl, other, declared, nonempty⟩
    have each : ∀ symbols ∈ body.splitOn bar, ∃ production : Production,
        symbols = production.symbols ∧ True := by
      intro symbols mem
      obtain ⟨first, rest, rfl⟩ := List.exists_cons_of_ne_nil (nonempty symbols mem)
      exact ⟨⟨first, rest⟩, rfl, trivial⟩
    obtain ⟨productions, cut, -⟩ := exists_map_eq_iff.mpr each
    obtain ⟨whole, legible⟩ :=
      legible_of_pieces other ((Text.pieces_eq_splitOnP (· == bar) body).trans cut)
    exact ⟨⟨left, productions⟩, whole, legible, declared⟩

end Document

namespace Grammar

open Document

variable {grammar : Grammar} {entries : List Entry} {text : String}

/-- The alternatives that are added to bare names are those of the lines. -/
theorem alternatives_extend_ofNames {nonterminals terminals : List Symbol} {lines : List Rule}
    (rules : grammar.rules = ((Draft.ofNames nonterminals terminals).extend lines).rules)
    (declared : ∀ line ∈ lines, line.name ∈ nonterminals) (left : Symbol) :
    grammar.alternatives left = (lines.filter (·.name == left)).flatMap (·.alternatives) := by
  have find : grammar.rules.find? (·.name == left) =
      (nonterminals.eraseDups.find? (· == left)).map fun name =>
        (Rule.mk name []).extend lines := by
    rw [rules, Draft.extend, Draft.ofNames, List.map_map, List.find?_map]
    rfl
  rw [Grammar.alternatives, find]
  cases found : nonterminals.eraseDups.find? (· == left) with
  | some name =>
    obtain rfl : name = left := by simpa using List.find?_some found
    exact List.nil_append _
  | none =>
    have absent : left ∉ nonterminals := fun mem => by
      simpa using List.find?_eq_none.mp found left (List.mem_eraseDups.mpr mem)
    have none : lines.filter (·.name == left) = [] := by
      refine List.filter_eq_nil_iff.mpr fun line mem same => absent ?_
      rw [← beq_iff_eq.mp same]
      exact declared line mem
    rw [none]
    rfl

/-- **The alternatives of a nonterminal** are those of all its production lines, in their order. -/
theorem alternatives_of_read (done : read entries = .ok grammar) (left : Symbol) :
    (grammar.alternatives left).map (·.symbols) =
      ((wordsOf .productions entries).filter (·.head? == some left)).flatMap alternativesOf := by
  obtain ⟨-, -, lines, spelled, each, rules, -⟩ := read_eq_ok_iff.mp done
  rw [alternatives_extend_ofNames rules (fun line mem => (each line mem).2), spelled,
    List.filter_map, List.map_flatMap, List.flatMap_map]
  refine List.flatMap_congr fun line mem => ?_
  exact (alternativesOf_words (each line (List.mem_filter.mp mem).1).1).symm

/-- What is loaded is formatted. -/
theorem formatted_of_load (loaded : load text = .ok grammar) : Formatted text := by
  obtain ⟨entries, told, done⟩ := Except.bind_eq_ok_iff.mp loaded
  obtain ⟨headers, begun⟩ := exists_entriesFrom_iff.mp ⟨entries, told⟩
  obtain ⟨disjoint, start, lines, spelled, each, -⟩ := read_eq_ok_iff.mp done
  simp only [wordsOf_of_entries told] at disjoint start spelled each
  refine ⟨headers, covered_iff.mpr (begun rfl), disjoint, ⟨_, start⟩, fun words mem => ?_⟩
  exact exists_legible_iff.mp (exists_map_eq_iff.mp ⟨lines, spelled, each⟩ words mem)

/-- What is formatted is loaded. -/
theorem exists_load_of_formatted (h : Formatted text) : ∃ grammar, load text = .ok grammar := by
  obtain ⟨headers, covered, disjoint, ⟨symbol, start⟩, productions⟩ := h
  obtain ⟨entries, told⟩ : ∃ entries, Document.entries text = .ok entries :=
    exists_entriesFrom_iff.mpr ⟨headers, fun _ => covered_iff.mp covered⟩
  simp only [← wordsOf_of_entries told, ← exists_legible_iff] at disjoint start productions
  obtain ⟨lines, spelled, each⟩ := exists_map_eq_iff.mpr productions
  let draft := (Draft.ofNames (wordsOf .nonterminals entries).flatten
    (wordsOf .terminals entries).flatten).extend lines
  have done : read entries = .ok ⟨draft.rules, draft.terminals, symbol⟩ :=
    read_eq_ok_iff.mpr ⟨disjoint, start, lines, spelled, each, rfl, rfl⟩
  exact ⟨_, Except.bind_eq_ok_iff.mpr ⟨entries, told, done⟩⟩

/-- **Which texts are grammars, and which grammars they are.** -/
theorem load_exact (text : String) :
    ((∃ grammar, load text = .ok grammar) ↔ Formatted text) ∧
    ∀ grammar, load text = .ok grammar →
      grammar.nonterminals = (wordsUnder .nonterminals text).flatten.eraseDups ∧
      grammar.terminals = (wordsUnder .terminals text).flatten.eraseDups ∧
      wordsUnder .start text = [[grammar.start]] ∧
      ∀ left, (grammar.alternatives left).map (·.symbols) =
        ((wordsUnder .productions text).filter (·.head? == some left)).flatMap alternativesOf := by
  refine ⟨⟨fun ⟨_, loaded⟩ => formatted_of_load loaded, exists_load_of_formatted⟩, ?_⟩
  intro grammar loaded
  obtain ⟨entries, told, done⟩ := Except.bind_eq_ok_iff.mp loaded
  have nonterminals := nonterminals_of_read done
  have alternatives := alternatives_of_read done
  obtain ⟨-, start, -, -, -, -, terminals⟩ := read_eq_ok_iff.mp done
  simp only [wordsOf_of_entries told] at nonterminals terminals start alternatives
  exact ⟨nonterminals, terminals, start, alternatives⟩

/-- Sections may be repeated and come in any order, so that a nonterminal can have production lines
far apart and above its declaration. -/
theorem load_exact_scattered :
    let text := "#PRODUCTIONS\nS -> A c\n // S -> a\n#START\n\n  S\n#PRODUCTIONS\nA -> a A | b\n" ++
      "S -> c\n#TERMINALS\na b\n#NONTERMINALS\nS\n#TERMINALS\nb c\n#NONTERMINALS\nA"
    let grammar : Grammar := ⟨[⟨"S", [⟨"A", ["c"]⟩, ⟨"c", []⟩]⟩,
      ⟨"A", [⟨"a", ["A"]⟩, ⟨"b", []⟩]⟩], ["a", "b", "c"], "S"⟩
    load text = .ok grammar ∧ Formatted text ∧ wordsUnder .start text = [["S"]] ∧
      ((wordsUnder .productions text).filter (·.head? == some "S")).flatMap alternativesOf =
        [["A", "c"], ["c"]] := by
  intro text grammar
  have loaded : load text = .ok grammar := by
    subst text
    cbv
  obtain ⟨-, -, start, alternatives⟩ := (load_exact text).2 grammar loaded
  exact ⟨loaded, (load_exact text).1.mp ⟨grammar, loaded⟩, start, (alternatives "S").symm⟩

end Grammar

end Descent
