import Descent.Proofs.Grammar.Lines

/-!
# Writing a grammar and reading it back

The text form of a grammar is read as the same grammar, provided that its symbols are words and
none of them comes to stand where it would be taken for a header, a comment, the arrow or a bar.
Not every grammar is such a grammar, since names are declared without being looked at.  Every
grammar that is read from a text is one, so writing and reading again is the identity on these.
-/

namespace Descent

open Document

/-- There is a word in some alternatives. -/
theorem intercalate_symbols_ne_nil {alternatives : List Production} (h : alternatives ≠ []) :
    [bar].intercalate (alternatives.map (·.symbols)) ≠ [] := by
  cases alternatives with
  | nil => exact absurd rfl h
  | cons production others =>
    cases others with
    | nil => exact List.cons_ne_nil _ _
    | cons second others =>
      rw [List.map_cons, List.map_cons, List.intercalate_cons_cons]
      exact List.cons_ne_nil _ _

/-- Alternatives with bars between them are written as words. -/
theorem intercalate_symbols (alternatives : List Production) :
    " ".intercalate ([bar].intercalate (alternatives.map (·.symbols))) =
      " | ".intercalate (alternatives.map (·.render)) := by
  induction alternatives with
  | nil => rfl
  | cons production others ih =>
    cases others with
    | nil =>
      rw [List.map_singleton, List.intercalate_singleton, List.map_singleton,
        String.intercalate_singleton, Production.render]
    | cons second others =>
      have first : production.symbols ≠ [] := List.cons_ne_nil _ _
      have more := intercalate_symbols_ne_nil (List.cons_ne_nil second others)
      rw [List.map_cons] at more ih ⊢
      rw [List.map_cons, List.intercalate_cons_cons, List.append_assoc, List.singleton_append,
        String.intercalate_append_of_ne_nil first (List.cons_ne_nil _ _),
        String.intercalate_cons_of_ne_nil more, ih, List.map_cons (l := second :: others),
        List.map_cons, String.intercalate_cons_cons]
      have split : " | " = " " ++ bar ++ " " := rfl
      simp only [split, Production.render, String.append_assoc]

/-- The line of a rule consists of its words. -/
theorem Rule.intercalate_words {rule : Rule} (h : rule.alternatives ≠ []) :
    " ".intercalate rule.words =
      rule.name ++ " -> " ++ " | ".intercalate (rule.alternatives.map (·.render)) := by
  rw [Rule.words, String.intercalate_cons_cons,
    String.intercalate_cons_of_ne_nil (intercalate_symbols_ne_nil h), intercalate_symbols]
  have split : " -> " = " " ++ arrow ++ " " := rfl
  rw [split]
  simp only [String.append_assoc]

namespace Grammar

variable {grammar : Grammar} {entries : List Entry}

/-- No symbol of the grammar is taken for something else when its text form is read. -/
structure Writable (grammar : Grammar) : Prop where
  /-- Names are words. -/
  declared : ∀ name ∈ grammar.nonterminals ++ grammar.terminals, Text.IsWord name.toList
  /-- The start symbol is a word on a line of its own. -/
  start : Text.IsWord grammar.start.toList ∧ StartsLine grammar.start
  /-- The symbols of productions are words, and none of them is the bar. -/
  symbols : ∀ rule ∈ grammar.rules, ∀ production ∈ rule.alternatives,
    ∀ symbol ∈ production.symbols, Text.IsWord symbol.toList ∧ symbol ≠ bar
  /-- Left-hand sides start lines, and none of them is the arrow. -/
  left : ∀ rule ∈ grammar.rules, rule.alternatives ≠ [] →
    rule.name ≠ arrow ∧ StartsLine rule.name
  /-- The first nonterminal starts a line. -/
  nonterminal : ∀ name ∈ grammar.nonterminals.head?, StartsLine name
  /-- The first terminal starts a line. -/
  terminal : ∀ name ∈ grammar.terminals.head?, StartsLine name

/-! ### Writing -/

/-- The rules that have a line in the text form. -/
def productionLines (grammar : Grammar) : List Rule :=
  grammar.rules.filter fun rule => !rule.alternatives.isEmpty

/-- The words on the lines of the text form, section by section. -/
def parts (grammar : Grammar) : List (Part × List (List Symbol)) :=
  [(.nonterminals, [grammar.nonterminals]), (.terminals, [grammar.terminals]),
    (.start, [[grammar.start]]), (.productions, grammar.productionLines.map (·.words))]

/-- The text form consists of four sections. -/
theorem textLines_eq_write (grammar : Grammar) : grammar.textLines = write grammar.parts := by
  have rules : grammar.rules.flatMap ruleLine =
      (grammar.productionLines.map (·.words)).map (" ".intercalate ·) := by
    rw [productionLines]
    induction grammar.rules with
    | nil => rfl
    | cons rule rules ih =>
      rw [List.flatMap_cons, ih, ruleLine, List.filter_cons]
      by_cases none : rule.alternatives = []
      · simp [none]
      · simp only [List.isEmpty_eq_false_iff.mpr none, Bool.not_false, if_true, List.map_cons,
          Rule.intercalate_words none, Bool.false_eq_true, if_false, List.singleton_append]
  rw [textLines, rules]
  simp [write, parts, Part.header]

theorem Writable.legible (h : grammar.Writable) :
    ∀ line ∈ grammar.productionLines, line.Legible := by
  intro line mem
  obtain ⟨among, alternatives⟩ := List.mem_filter.mp mem
  have nonempty : line.alternatives ≠ [] := by simpa using alternatives
  refine ⟨(h.left line among nonempty).1, nonempty, fun production mem inside => ?_⟩
  exact (h.symbols line among production mem bar inside).2 rfl

/-- Each line of words in the text form is empty or has content. -/
theorem Writable.isContent (h : grammar.Writable) :
    ∀ part ∈ grammar.parts, ∀ words ∈ part.2, words = [] ∨ IsContent words := by
  obtain ⟨nonterminals, terminals⟩ := List.forall_mem_append.mp h.declared
  have alone : [grammar.start] = [] ∨ IsContent [grammar.start] :=
    eq_nil_or_isContent (by simpa using h.start.1) (by simpa using h.start.2)
  have lines : ∀ line ∈ grammar.productionLines, IsContent line.words := by
    intro line mem
    obtain ⟨among, alternatives⟩ := List.mem_filter.mp mem
    have nonempty : line.alternatives ≠ [] := by simpa using alternatives
    have isWord := nonterminals line.name (List.mem_map_of_mem among)
    refine isContent_words_iff.mpr ⟨⟨isWord, (h.left line among nonempty).2⟩, ?_⟩
    exact fun production mem symbol inside => (h.symbols line among production mem symbol inside).1
  simp only [parts, List.forall_mem_cons, List.not_mem_nil, false_implies, implies_true, and_true,
    List.forall_mem_map]
  exact ⟨eq_nil_or_isContent nonterminals h.nonterminal,
    eq_nil_or_isContent terminals h.terminal, alone, fun line mem => .inr (lines line mem)⟩

/-- There is one rule of a name. -/
theorem filter_name_eq {rules : List Rule} (distinct : (rules.map (·.name)).Nodup) {rule : Rule}
    (mem : rule ∈ rules) : rules.filter (·.name == rule.name) = [rule] := by
  induction rules with
  | nil => cases mem
  | cons first rules ih =>
    rw [List.map_cons, List.nodup_cons] at distinct
    obtain ⟨new, distinct⟩ := distinct
    rcases List.mem_cons.mp mem with rfl | mem
    · have others : rules.filter (·.name == rule.name) = [] := by
        refine List.filter_eq_nil_iff.mpr fun other mem same => new ?_
        rw [← beq_iff_eq.mp same]
        exact List.mem_map_of_mem mem
      rw [List.filter_cons_of_pos (by simp), others]
    · have other : ¬ (first.name == rule.name) := fun same => new (by
        rw [beq_iff_eq.mp same]
        exact List.mem_map_of_mem mem)
      rw [List.filter_cons, if_neg other, ih distinct mem]

/-- Alternatives that are added to the bare names of nonterminals give the rules. -/
theorem extend_ofNames (distinct : grammar.nonterminals.Nodup) (terminals : List Symbol) :
    ((Draft.ofNames grammar.nonterminals terminals).extend grammar.productionLines).rules =
      grammar.rules := by
  have each : ∀ rule ∈ grammar.rules,
      (Rule.mk rule.name []).extend grammar.productionLines = rule := by
    intro rule mem
    have one : grammar.productionLines.filter (·.name == rule.name) =
        [rule].filter fun rule => !rule.alternatives.isEmpty := by
      rw [← filter_name_eq distinct mem, productionLines, List.filter_filter, List.filter_filter]
      exact List.filter_congr fun _ _ => Bool.and_comm _ _
    obtain ⟨name, alternatives⟩ := rule
    rw [Rule.extend, one]
    cases alternatives <;> simp
  rw [Draft.extend, Draft.ofNames, eraseDups_eq_self distinct, nonterminals, List.map_map,
    List.map_map]
  exact (List.map_congr_left each).trans (List.map_id _)

/-- **The text form is read back.** -/
theorem load_render_of_writable (h : grammar.Writable)
    (distinct : (grammar.nonterminals ++ grammar.terminals).Nodup) :
    load grammar.render = .ok grammar := by
  obtain ⟨entries, read, said⟩ := exists_entries_write h.isContent
  rw [← textLines_eq_write] at read
  obtain ⟨nonterminals, terminals, disjoint⟩ := List.nodup_append'.mp distinct
  have single : ∀ words : List Symbol, ([words].filter (!·.isEmpty)).flatten = words := by
    intro words
    cases words <;> simp
  have names : (wordsOf .nonterminals entries).flatten = grammar.nonterminals := by
    rw [said]
    simp [parts, single]
  have others : (wordsOf .terminals entries).flatten = grammar.terminals := by
    rw [said]
    simp [parts, single]
  have started : wordsOf .start entries = [[grammar.start]] := by
    rw [said]
    simp [parts]
  have lines : wordsOf .productions entries = grammar.productionLines.map (·.words) := by
    rw [said]
    simp [parts, Rule.words]
  refine Except.bind_eq_ok_iff.mpr ⟨entries, read, read_eq_ok_iff.mpr ?_⟩
  rw [names, others]
  refine ⟨fun name mem inside => disjoint inside mem, started, grammar.productionLines, lines,
    fun line mem => ⟨h.legible line mem, ?_⟩, ?_, ?_⟩
  · exact List.mem_map_of_mem (List.mem_filter.mp mem).1
  · exact (extend_ofNames nonterminals _).symm
  · exact (eraseDups_eq_self terminals).symm

/-! ### Reading -/

/-- What is read declares each name once and as one kind. -/
theorem nodup_of_read (done : read entries = .ok grammar) :
    (grammar.nonterminals ++ grammar.terminals).Nodup := by
  obtain ⟨disjoint, -, -, -, -, -, terminals⟩ := read_eq_ok_iff.mp done
  rw [nonterminals_of_read done, terminals, List.nodup_append']
  refine ⟨nodup_eraseDups _, nodup_eraseDups _, fun name mem inside => ?_⟩
  exact disjoint name (List.mem_eraseDups.mp inside) (List.mem_eraseDups.mp mem)

/-- **What is read can be written.** -/
theorem writable_of_read (content : ∀ entry ∈ entries, IsContent entry.words)
    (done : read entries = .ok grammar) : grammar.Writable := by
  have names := nonterminals_of_read done
  obtain ⟨-, started, lines, spelled, each, rules, terminals⟩ := read_eq_ok_iff.mp done
  have content : ∀ {part words}, words ∈ wordsOf part entries → IsContent words :=
    isContent_of_mem_wordsOf content
  have isWord : ∀ part, ∀ word ∈ (wordsOf part entries).flatten, Text.IsWord word.toList := by
    intro part word mem
    obtain ⟨words, among, inside⟩ := List.mem_flatten.mp mem
    exact (content among).isWord word inside
  have alone : IsContent [grammar.start] := content (started ▸ List.mem_singleton_self _)
  -- What stands in the rules stands on some production line.
  have source : ∀ rule ∈ grammar.rules, ∀ production ∈ rule.alternatives, ∃ line ∈ lines,
      (line.name = rule.name ∧ production ∈ line.alternatives) ∧ IsContent line.words := by
    intro rule mem production alternative
    rw [rules] at mem
    obtain ⟨line, among, found⟩ := Draft.exists_of_mem_extend_ofNames mem alternative
    exact ⟨line, among, found, content (spelled ▸ List.mem_map_of_mem among)⟩
  refine { declared := ?declared, start := ?start, symbols := ?symbols, left := ?left,
           nonterminal := ?nonterminal, terminal := ?terminal }
  case declared =>
    rw [names, terminals]
    refine List.forall_mem_append.mpr ⟨fun name mem => ?_, fun name mem => ?_⟩
    · exact isWord .nonterminals name (List.mem_eraseDups.mp mem)
    · exact isWord .terminals name (List.mem_eraseDups.mp mem)
  case start => exact ⟨alone.isWord _ List.mem_cons_self, alone.startsLine _ rfl⟩
  case symbols =>
    intro rule mem production alternative symbol inside
    obtain ⟨line, among, ⟨-, listed⟩, words⟩ := source rule mem production alternative
    refine ⟨(isContent_words_iff.mp words).2 production listed symbol inside, ?_⟩
    rintro rfl
    exact (each line among).1.symbols production listed inside
  case left =>
    intro rule mem nonempty
    obtain ⟨production, alternative⟩ := List.exists_mem_of_ne_nil _ nonempty
    obtain ⟨line, among, ⟨same, -⟩, words⟩ := source rule mem production alternative
    rw [← same]
    exact ⟨(each line among).1.left, (isContent_words_iff.mp words).1.2⟩
  case nonterminal =>
    rw [names, head?_eraseDups]
    exact startsLine_of_mem_head?_flatten fun _ => content
  case terminal =>
    rw [terminals, head?_eraseDups]
    exact startsLine_of_mem_head?_flatten fun _ => content

/-- **Writing a grammar and reading it back** gives the same grammar, if no symbol is taken for
something else.  This is so of every grammar that was read. -/
theorem load_render :
    (∀ calls grammar, (Draft.empty.applyAll calls).1.build = .ok grammar → grammar.Writable →
      load grammar.render = .ok grammar) ∧
    (∀ text grammar, load text = .ok grammar →
      grammar.Writable ∧ load grammar.render = .ok grammar) := by
  constructor
  · intro calls grammar built writable
    have empty : Draft.empty.Consistent := List.nodup_nil
    exact load_render_of_writable writable ((empty.applyAll calls).of_build built)
  · intro text grammar loaded
    obtain ⟨entries, lines, done⟩ := Except.bind_eq_ok_iff.mp loaded
    have writable := writable_of_read (isContent_of_entriesFrom lines) done
    exact ⟨writable, load_render_of_writable writable (nodup_of_read done)⟩

/-- The arrow, a number sign and two slashes may be symbols where they do not start a line. -/
theorem load_render_marks :
    let grammar : Grammar := ⟨[⟨"S", [⟨"->", ["#x"]⟩, ⟨"//", []⟩]⟩, ⟨"#x", []⟩], ["a", "//"], "S"⟩
    let text :=
      "#START\nS\n#PRODUCTIONS\nS -> -> #x\nS -> //\n#NONTERMINALS\nS #x\n#TERMINALS\na //"
    let calls : List Draft.Call := [.declareAll .nonterminal ["S", "#x"],
      .declareAll .terminal ["a", "//"], .addAlternative "S" ["->", "#x"],
      .addAlternative "S" ["//"], .setStart "S"]
    load text = .ok grammar ∧ (Draft.empty.applyAll calls).1.build = .ok grammar ∧
      load grammar.render = .ok grammar := by
  intro grammar text calls
  have loaded : load text = .ok grammar := by
    subst text
    rfl
  have built : (Draft.empty.applyAll calls).1.build = .ok grammar := by rfl
  obtain ⟨writable, -⟩ := load_render.2 text grammar loaded
  exact ⟨loaded, built, load_render.1 calls grammar built writable⟩

end Grammar

end Descent
