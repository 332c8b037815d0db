import Descent.Proofs.Command.Status
import Descent.Proofs.Lexeme.Spacing
import Descent.Proofs.Report.Quote
import Descent.Proofs.Search.Runs

/-!
# What is underlined

The places that are given to words and lexemes lead back to them: the line on which one starts is
among the lines of the text, and has it in the columns that its span says.  So where tokens are
rejected because of one of them, the report underlines this token and no other of the same
characters.

For this the words of a text must be at the same indices as the tokens of the search, which they
are by `Located.ofWords`, and the text must be the source with that number when the report is
written, although others may have been read before it.
-/

namespace Descent.Command

open Report

/-! ### Sources of a session -/

namespace Session

@[simp] theorem sources_writeChunk (session : Session) (chunk : Chunk) :
    (session.writeChunk chunk).sources = session.sources := by
  unfold writeChunk
  split <;> rfl

@[simp] theorem sources_print (session : Session) (text : String) :
    (session.print text).sources = session.sources :=
  session.sources_writeChunk _

@[simp] theorem sources_printError (session : Session) (text : String) :
    (session.printError text).sources = session.sources :=
  session.sources_writeChunk _

@[simp] theorem sources_report (session : Session) (diagnostic : Diagnostic)
    (source : Option SourceId) : (session.report diagnostic source).sources = session.sources := rfl

@[simp] theorem sources_emit (session : Session) : session.emit.sources = session.sources :=
  apply_emit (·.sources) sources_printError (fun _ => rfl) session

/-- A text that is kept can be quoted. -/
theorem text?_addSource (session : Session) (origin : Origin) (text : String) :
    (session.addSource origin text).1.sources.text? (session.addSource origin text).2 =
      some text := by
  simp [addSource, Sources.add, Sources.text?]

/-- What is reported is still there after emitting. -/
theorem mem_reported_emit_report (session : Session) (diagnostic : Diagnostic)
    (source : Option SourceId) :
    diagnostic.about source ∈ (session.report diagnostic source).emit.reported := by
  rw [(reported_emit_perm _).mem_iff, reported_report]
  exact List.mem_append_right _ (List.mem_singleton_self _)

end Session

/-! ### Diagnostics about a word -/

/-- `Points sources source diagnostic word` says that a diagnostic is about a word of a source, and
that its excerpt is the line of this word, and underlines it. -/
structure Points (sources : Sources) (source : SourceId) (diagnostic : Diagnostic)
    (word : LocatedWord) : Prop where
  /-- The diagnostic is about the source. -/
  source_eq : diagnostic.source = some source
  /-- It is about the place of the word. -/
  span_eq : diagnostic.span = some word.span
  /-- The word is at this place. -/
  underlines : Underlines sources source word.span word.word.toList
  /-- The excerpt says so. -/
  excerpt : ∃ line, sources.line? source word.span.start.line = some line ∧
    Excerpt.of? sources diagnostic = some {
      number := word.span.start.line + 1
      text := line
      pad := Text.displayWidth (Excerpt.before line word.span.start.column)
      length := max 1 (Text.displayWidth word.word.toList) }

/-- A session has kept a text and reported a rejection of it that underlines one of its words. -/
def Session.Underlined (session : Session) (text : String) (rejection : Search.Rejection)
    (word : LocatedWord) : Prop :=
  ∃ source, session.sources.text? source = some text ∧ ∃ diagnostic ∈ session.reported,
    diagnostic.text = rejection.diagnostic.text ∧ Points session.sources source diagnostic word

variable {sources : Sources} {source : SourceId} {text token : String} {common : Common}
  {grammar : Grammar} {fuel index : Nat} {rejection : Search.Rejection} {word : LocatedWord}

/-- Every word of a text that is kept can be underlined. -/
theorem underlines_of_getElem? (stored : sources.text? source = some text)
    (found : (locatedWords text)[index]? = some word) :
    Underlines sources source word.span word.word.toList := by
  obtain ⟨above, rest, whole, solid, span, -⟩ := (wordsAt_locatedWords text).exists_split found
  rw [span]
  exact underlines_stretch stored whole solid

/-- A diagnostic about the place of a word points at it. -/
theorem points_spanning (stored : sources.text? source = some text)
    (found : (locatedWords text)[index]? = some word) (diagnostic : Diagnostic) :
    Points sources source ((diagnostic.spanning word.span).about (some source)) word := by
  have underlines := underlines_of_getElem? stored found
  refine ⟨rfl, rfl, underlines, ?_⟩
  obtain ⟨-, -, line, -, -, there, -, selected⟩ := underlines.quoted
  refine ⟨line, there, ?_⟩
  have length : Excerpt.underlineLength line word.span =
      max 1 (Text.displayWidth word.word.toList) := by
    rw [Excerpt.underlineLength, if_pos underlines.singleLine, selected]
  rw [← length]
  simp [Excerpt.of?, Diagnostic.about, Diagnostic.spanning, there]

/-! ### Rejected tokens -/

/-- **The token that a rejection found is the word at the furthest index.** -/
theorem exists_word_of_rejected
    (rejected : (search common grammar ((locatedWords text).map (·.word)) fuel).2 =
      some (.ok (.rejected rejection))) (found : rejection.found = some token) :
    ∃ word, (locatedWords text)[rejection.furthest]? = some word ∧ word.word = token := by
  have stopped : ∃ (σ : Type) (observe : σ → Search.Action → Search.State → σ) (seen : σ),
      (Search.parse ⟨grammar, ((locatedWords text).map (·.word)).toArray, common.stepLimit⟩ observe
        fuel seen).2 = some (.ok (.rejected rejection)) := by
    unfold search at rejected
    dsimp only at rejected
    split at rejected
    · exact ⟨_, _, _, rejected⟩
    · exact ⟨_, _, _, rejected⟩
  obtain ⟨σ, observe, seen, stopped⟩ := stopped
  obtain ⟨last, -, -, rfl⟩ := Search.exists_error_of_parse stopped
  change ((locatedWords text).map (·.word)).toArray[last.furthest]? = some token at found
  rw [List.getElem?_toArray, List.getElem?_map] at found
  exact Option.map_eq_some_iff.mp found

/-- The report of a rejection is about the word at the furthest index. -/
theorem rejectionDiagnostic_ofWords
    (found : (locatedWords text)[rejection.furthest]? = some word) (source : SourceId) :
    rejectionDiagnostic rejection (Located.ofWords source text) =
      rejection.diagnostic.spanning word.span := by
  have span : ((locatedWords text).map (·.span))[rejection.furthest]? = some word.span := by
    rw [List.getElem?_map, found, Option.map_some]
  rw [rejectionDiagnostic, Located.spanAt, Located.ofWords]
  dsimp only
  rw [span]

/-- A rejection of a text that is kept is reported with the word underlined. -/
theorem underlined_emit_report {session : Session}
    (stored : session.sources.text? source = some text)
    (found : (locatedWords text)[rejection.furthest]? = some word) :
    (session.report (rejectionDiagnostic rejection (Located.ofWords source text))
      (some source)).emit.Underlined text rejection word := by
  rw [rejectionDiagnostic_ofWords found]
  refine ⟨source, ?_, _, session.mem_reported_emit_report _ (some source), rfl, ?_⟩
  · rwa [Session.sources_emit, Session.sources_report]
  · rw [Session.sources_emit, Session.sources_report]
    exact points_spanning stored found _

/-- A search whose verdict is known. -/
theorem search_eq {tokens : List Symbol} {result : Option Search.Answer}
    (h : (search common grammar tokens fuel).2 = result) :
    search common grammar tokens fuel = ((search common grammar tokens fuel).1, result) :=
  Prod.ext rfl h

/-- **Where a typed line is rejected**, the answer underlines the word. -/
theorem exists_respond_eq {line : ByteArray} (typed : String.fromUTF8? line = some text)
    (rejected : (search common grammar ((locatedWords text).map (·.word)) fuel).2 =
      some (.ok (.rejected rejection)))
    (found : (locatedWords text)[rejection.furthest]? = some word) (session : Session) :
    ∃ answered, Repl.respond session common grammar fuel line = some answered ∧
      answered.Underlined text rejection word := by
  have stored := session.text?_addSource .prompt text
  have nonempty : ¬ (locatedWords text).isEmpty := by
    rw [List.isEmpty_iff]
    intro none
    rw [none] at found
    cases found
  rw [Repl.respond, typed]
  dsimp only
  rw [if_neg nonempty, Repl.respondTokens]
  dsimp only [Located.ofWords]
  rw [search_eq rejected]
  refine ⟨_, rfl, underlined_emit_report ?_ found⟩
  rwa [Session.sources_printError]

/-- **Where tokens on the command line are rejected**, the run underlines the word. -/
theorem exists_runParse_eq {files : Files} {path : String} {session : Session} {json : Bool}
    (read : (Session.start common.plain).readGrammar files path = (session, some grammar))
    (rejected : (search common grammar ((locatedWords text).map (·.word)) fuel).2 =
      some (.ok (.rejected rejection)))
    (found : (locatedWords text)[rejection.furthest]? = some word) :
    ∃ ending, runParse common files fuel path (.sequence text) json = some ending ∧
      ending.session.Underlined text rejection word := by
  have stored := session.text?_addSource .argument text
  rw [runParse, read]
  dsimp only [readTokens, Located.ofWords]
  rw [search_eq rejected]
  refine ⟨_, rfl, underlined_emit_report ?_ found⟩
  cases json <;> simpa using stored

/-- **What is underlined is what was meant.**  Where lines are not too many and not too long, every
place in a text is counted.  The words are located one by one.  If the text is kept, each of them is
underlined, as it stands after the words before it; so is each lexeme and each unknown character
that is read with a vocabulary whose lexemes are words.  If the words are rejected because of one of
them, the report underlines the word at the furthest index, which is this token, whether they were
typed or given on the command line. -/
theorem underlined_exact (text : String) :
    (Caret.Countable text.toList →
      Caret.start.path? text.toList = some (text.toList.inits.map Caret.ofText)) ∧
    (locatedWords text).map (·.word) = (Text.words text.toList).map String.ofList ∧
    (∀ sources source, Sources.text? sources source = some text →
      (∀ index word, (locatedWords text)[index]? = some word →
        Underlines sources source word.span word.word.toList ∧
        ∃ above rest, text.toList = above ++ (word.word.toList ++ rest) ∧
          word.span = Span.stretch above word.word.toList ∧
          Text.words above = (Text.words text.toList).take index) ∧
      ∀ vocabulary : Vocabulary, vocabulary.Solid →
        ∃ results, vocabulary.read text = some results ∧ ∀ result ∈ results,
          (∃ kind, result =
            Reading.outcome kind (Reading.bodyOf result) (Reading.spanOf result)) ∧
          Underlines sources source (Reading.spanOf result) (Reading.bodyOf result)) ∧
    ∀ common grammar fuel rejection token,
      (search common grammar ((locatedWords text).map (·.word)) fuel).2 =
        some (.ok (.rejected rejection)) → rejection.found = some token →
      ∃ word, (locatedWords text)[rejection.furthest]? = some word ∧ word.word = token ∧
        (∀ line session, String.fromUTF8? line = some text → ∃ answered,
          Repl.respond session common grammar fuel line = some answered ∧
          answered.Underlined text rejection word) ∧
        ∀ files path session json,
          (Session.start common.plain).readGrammar files path = (session, some grammar) →
          ∃ ending, runParse common files fuel path (.sequence text) json = some ending ∧
            ending.session.Underlined text rejection word := by
  have located := wordsAt_locatedWords text
  refine ⟨fun countable => countable.path?_eq, located.map_word, ?_, ?_⟩
  · intro sources source stored
    refine ⟨fun index word found => ⟨underlines_of_getElem? stored found, ?_⟩,
      fun vocabulary solid => ?_⟩
    · obtain ⟨above, rest, whole, -, span, before⟩ := located.exists_split found
      exact ⟨above, rest, whole, span, before⟩
    · have proper := solid.empty_not_mem
      obtain ⟨results, munched⟩ := Reading.exists_munched proper [] text.toList
      refine ⟨results, munched.read_eq proper, fun result mem => ?_⟩
      obtain ⟨above, body, rest, kind, whole, word, rfl⟩ :=
        munched.exists_outcome solid result mem
      rw [Reading.spanOf_outcome, Reading.bodyOf_outcome]
      exact ⟨⟨kind, rfl⟩, underlines_stretch stored whole word⟩
  · intro common grammar fuel rejection token rejected found
    obtain ⟨word, there, same⟩ := exists_word_of_rejected rejected found
    exact ⟨word, there, same,
      fun line session typed => exists_respond_eq typed rejected there session,
      fun files path session json read => exists_runParse_eq read rejected there⟩

/-- The second word of a text stands after a carriage return and two line endings of different
kinds, and is the one that is rejected. -/
theorem underlined_exact_lines :
    let text := "a\r\r\n\n\té a"
    let grammar : Grammar := ⟨[⟨"S", [⟨"a", []⟩]⟩], ["a"], "S"⟩
    let files : Files := fun _ =>
      .ok "#START\nS\n#PRODUCTIONS\nS -> a\n#TERMINALS\na\n#NONTERMINALS\nS".toUTF8
    let rejection : Search.Rejection := ⟨some "S", 1, some "é", [], 5⟩
    let word : LocatedWord := ⟨"é", Span.between ⟨2, 1⟩ ⟨2, 2⟩⟩
    (Caret.start.path? text.toList).isSome ∧
      (∃ answered, Repl.respond (Session.start true) {} grammar 5 text.toUTF8 = some answered ∧
        answered.Underlined text rejection word) ∧
      (∃ ending, runParse {} files 5 "g" (.sequence text) false = some ending ∧
        ending.session.Underlined text rejection word) ∧
      ∃ results, (Vocabulary.ofList ["é"]).read text = some results ∧
        ∀ result ∈ results, Underlines #[⟨.argument, text⟩] 0 (Reading.spanOf result)
          (Reading.bodyOf result) := by
  intro text grammar files rejection word
  have countable : Caret.Countable text.toList := ⟨by decide, by decide⟩
  have solid : (Vocabulary.ofList ["é"]).Solid := by decide
  have words : (locatedWords text)[1]? = some word ∧
      (locatedWords text).map (·.word) = ["a", "é", "a"] := by decide +kernel
  have rejected : (search {} grammar ((locatedWords text).map (·.word)) 5).2 =
      some (.ok (.rejected rejection)) := by
    rw [words.2]
    cbv
  have typed : String.fromUTF8? text.toUTF8 = some text := by decide +kernel
  have loaded : ((Session.start false).readGrammar files "g").2 = some grammar := by
    decide +kernel
  obtain ⟨counted, -, kept, reports⟩ := underlined_exact text
  obtain ⟨found, there, -, respond, parse⟩ := reports _ _ _ _ "é" rejected rfl
  obtain rfl : word = found := Option.some.inj (words.1.symm.trans there)
  obtain ⟨results, read, underlines⟩ := (kept #[⟨.argument, text⟩] 0 rfl).2 _ solid
  refine ⟨by rw [counted countable]; rfl, respond _ _ typed,
    parse files "g" _ false (Prod.ext rfl loaded), results, read,
    fun result mem => (underlines result mem).2⟩

end Descent.Command
