import Mathlib
import Descent.Command.Run
import Descent.Proofs.Lexeme.Munch
import Descent.Proofs.Report.Writing

/-!
# Exit status and errors

A run of `parse` that reports an error ends with another status than success.  The way there is
that everything which can go wrong is reported where it goes wrong: whatever has no result has
reported an error, and whatever has one has reported nothing but warnings.  This is `Settled`, and
each part of a run keeps it.  The warnings are about no place, so they can always be shown, and
the session does not break on them.

## Errors that are emitted first

Runs of `grammar` and `lex` look for errors among the diagnostics that are left once all of them
were written.  None is left then, so they end with success whatever was reported.
`status_zero_of_missing` is such a run.
-/

namespace Descent.Command

open Report

namespace Session

variable {session : Session} {diagnostic : Diagnostic}

/-! ### Reports -/

/-- An error was reported, whether it was written already or not. -/
def Troubled (session : Session) : Prop :=
  ∃ diagnostic ∈ session.reported, diagnostic.level = .error

/-- The session did not break, and nothing was reported but warnings and notes about no place. -/
structure Calm (session : Session) : Prop where
  /-- The session did not break. -/
  whole : session.isBroken = false
  /-- No diagnostic is an error. -/
  harmless : ∀ diagnostic ∈ session.reported, diagnostic.level ≠ .error
  /-- No diagnostic is about a place. -/
  placeless : ∀ diagnostic ∈ session.reported, diagnostic.span = none

theorem Calm.not_troubled (calm : session.Calm) : ¬ session.Troubled := by
  rintro ⟨diagnostic, mem, error⟩
  exact calm.harmless diagnostic mem error

theorem calm_start (plain : Bool) : (Session.start plain).Calm := by
  refine ⟨rfl, ?_, ?_⟩ <;> exact List.forall_mem_nil _

@[simp] theorem reported_writeChunk (session : Session) (chunk : Chunk) :
    (session.writeChunk chunk).reported = session.reported := by
  unfold writeChunk
  split <;> rfl

@[simp] theorem isBroken_writeChunk (session : Session) (chunk : Chunk) :
    (session.writeChunk chunk).isBroken = session.isBroken := by
  unfold writeChunk
  split <;> rfl

theorem reported_report (session : Session) (diagnostic : Diagnostic) (source : Option SourceId) :
    (session.report diagnostic source).reported = session.reported ++ [diagnostic.about source] :=
  (List.append_assoc ..).symm

@[simp] theorem level_about (diagnostic : Diagnostic) (source : Option SourceId) :
    (diagnostic.about source).level = diagnostic.level := by
  cases source <;> rfl

@[simp] theorem span_about (diagnostic : Diagnostic) (source : Option SourceId) :
    (diagnostic.about source).span = diagnostic.span := by
  cases source <;> rfl

/-- Writing leaves a session calm. -/
theorem Calm.writeChunk (calm : session.Calm) (chunk : Chunk) :
    (session.writeChunk chunk).Calm where
  whole := by rw [isBroken_writeChunk, calm.whole]
  harmless := by rw [reported_writeChunk]; exact calm.harmless
  placeless := by rw [reported_writeChunk]; exact calm.placeless

theorem Calm.print (calm : session.Calm) (text : String) : (session.print text).Calm :=
  calm.writeChunk (.out text)

/-- Keeping a text leaves a session calm. -/
theorem Calm.addSource (calm : session.Calm) (origin : Origin) (text : String) :
    (session.addSource origin text).1.Calm :=
  ⟨calm.whole, calm.harmless, calm.placeless⟩

/-- Reporting a warning about no place leaves a session calm. -/
theorem Calm.report (calm : session.Calm) (harmless : diagnostic.level ≠ .error)
    (placeless : diagnostic.span = none) (source : Option SourceId) :
    (session.report diagnostic source).Calm where
  whole := calm.whole
  harmless := by
    rw [reported_report, List.forall_mem_append, List.forall_mem_singleton, level_about]
    exact ⟨calm.harmless, harmless⟩
  placeless := by
    rw [reported_report, List.forall_mem_append, List.forall_mem_singleton, span_about]
    exact ⟨calm.placeless, placeless⟩

theorem Calm.reportAll (calm : session.Calm) {diagnostics : List Diagnostic}
    (harmless : ∀ diagnostic ∈ diagnostics, diagnostic.level ≠ .error)
    (placeless : ∀ diagnostic ∈ diagnostics, diagnostic.span = none) (source : Option SourceId) :
    (session.reportAll diagnostics source).Calm := by
  induction diagnostics generalizing session with
  | nil => exact calm
  | cons diagnostic diagnostics ih =>
    rw [List.forall_mem_cons] at harmless placeless
    exact ih (calm.report harmless.1 placeless.1 source) harmless.2 placeless.2

/-- A report adds an error exactly if it is one. -/
theorem troubled_report_iff (source : Option SourceId) :
    (session.report diagnostic source).Troubled ↔ session.Troubled ∨ diagnostic.level = .error := by
  simp only [Troubled, reported_report, List.mem_append, List.mem_singleton, or_and_right,
    exists_or, exists_eq_left, level_about]

theorem troubled_reportAll_iff (diagnostics : List Diagnostic) (source : Option SourceId) :
    (session.reportAll diagnostics source).Troubled ↔
      session.Troubled ∨ ∃ diagnostic ∈ diagnostics, diagnostic.level = .error := by
  induction diagnostics generalizing session with
  | nil => simp [Session.reportAll]
  | cons diagnostic diagnostics ih =>
    have step : (session.reportAll (diagnostic :: diagnostics) source).Troubled ↔
        ((session.report diagnostic source).reportAll diagnostics source).Troubled := Iff.rfl
    rw [step, ih, troubled_report_iff, List.exists_mem_cons_iff, or_assoc]

theorem troubled_report (error : diagnostic.level = .error) (session : Session)
    (source : Option SourceId) : (session.report diagnostic source).Troubled :=
  (troubled_report_iff source).mpr (Or.inr error)

/-! ### Emitting -/

@[simp] theorem queue_writeChunk (session : Session) (chunk : Chunk) :
    (session.writeChunk chunk).queue = session.queue := by
  unfold writeChunk
  split <;> rfl

/-- Emitting leaves no diagnostic to be written. -/
@[simp] theorem queue_emit (session : Session) : session.emit.queue = Queue.empty :=
  apply_emit (·.queue) (fun session text => session.queue_writeChunk (.err text)) (fun _ => rfl)
    session

theorem troubled_emit_iff : session.emit.Troubled ↔ session.Troubled := by
  simp only [Troubled, session.reported_emit_perm.mem_iff]

/-- **Warnings about no place can be shown**, and the session does not break on them. -/
theorem Calm.emit (calm : session.Calm) : session.emit.Calm where
  whole := by
    have written : .overflow ∉
        session.queue.sorted.flatMap (session.layout.pieces session.sources) := by
      intro mem
      obtain ⟨diagnostic, pending, mem⟩ := List.mem_flatMap.mp mem
      have reported : diagnostic ∈ session.reported :=
        List.mem_append_right _ (session.queue.perm_sorted.mem_iff.mp pending)
      have placeless := calm.placeless diagnostic reported
      exact (overflow_mem_pieces_iff ..).mp mem (.of_span_eq_none placeless _)
    obtain ⟨text, complete⟩ := exists_write_eq_complete written
    simp only [Session.emit, Queue.emit_eq, emitEach_eq_write, complete, printError,
      isBroken_writeChunk, calm.whole]
  harmless diagnostic mem := calm.harmless diagnostic (session.reported_emit_perm.mem_iff.mp mem)
  placeless diagnostic mem := calm.placeless diagnostic (session.reported_emit_perm.mem_iff.mp mem)

/-- **Where nothing but what is left is looked at**, a run ends with success unless it breaks. -/
theorem status_finishUnlessErrors (session : Session) :
    session.finishUnlessErrors.status =
      if session.finishUnlessErrors.session.isBroken then brokenStatus else 0 := by
  simp [finishUnlessErrors, status, Queue.hasErrors]

theorem troubled_finishUnlessErrors_iff (session : Session) :
    session.finishUnlessErrors.session.Troubled ↔ session.Troubled :=
  troubled_emit_iff

/-- A run that fails after an error was reported shows it by its status. -/
theorem Troubled.finish (troubled : session.Troubled) :
    (session.finish false).status = 0 ↔ ¬ (session.finish false).session.Troubled := by
  refine iff_of_false ?_ (not_not_intro (troubled_emit_iff.mpr troubled))
  simp only [Session.finish, status]
  split <;> decide

/-- A run that succeeds with warnings alone shows it by its status. -/
theorem Calm.finish (calm : session.Calm) :
    (session.finish true).status = 0 ↔ ¬ (session.finish true).session.Troubled := by
  refine iff_of_true ?_ calm.emit.not_troubled
  simp [Session.finish, status, calm.emit.whole]

end Session

/-! ### Reading -/

/-- Where there is no result, an error was reported; and else nothing but warnings about no
place. -/
def Settled {α : Type} : Session × Option α → Prop
  | (session, none) => session.Troubled
  | (session, some _) => session.Calm

theorem Settled.troubled {α : Type} {answer : Session × Option α} {session : Session}
    (settled : Settled answer) (found : answer = (session, none)) : session.Troubled := by
  subst found
  exact settled

theorem Settled.calm {α : Type} {answer : Session × Option α} {session : Session} {result : α}
    (settled : Settled answer) (found : answer = (session, some result)) : session.Calm := by
  subst found
  exact settled

section

variable {session : Session}

theorem settled_read (calm : session.Calm) (files : Files) (path : String) :
    Settled (session.read files path) := by
  unfold Session.read
  cases files.text path with
  | ok text => exact calm.addSource (.file path) text
  | error error => exact Session.troubled_report rfl session none

theorem level_diagnostic_loadError (error : LoadError) : error.diagnostic.level = .error := by
  unfold LoadError.diagnostic Diagnostic.at?
  split <;> rfl

theorem level_diagnostic_problem_iff (problem : Problem) :
    problem.diagnostic.level = .error ↔ problem.isError := by
  simp [Problem.diagnostic]

/-- A grammar that is read leaves nothing but warnings. -/
theorem settled_readGrammar (calm : session.Calm) (files : Files) (path : String) :
    Settled (session.readGrammar files path) := by
  unfold Session.readGrammar
  split
  · rename_i found
    exact (settled_read calm files path).troubled found
  · rename_i session id text found
    have calm := (settled_read calm files path).calm found
    split
    · rename_i error _
      exact Session.troubled_report (level_diagnostic_loadError error) session _
    · refine calm.reportAll ?_ ?_ _
      · rintro _ mem
        obtain ⟨problem, listed, rfl⟩ := List.mem_map.mp mem
        have harmless := (List.mem_filter.mp listed).2
        rw [ne_eq, level_diagnostic_problem_iff]
        simpa using harmless
      · rintro _ mem
        obtain ⟨problem, -, rfl⟩ := List.mem_map.mp mem
        rfl

theorem settled_readVocabulary (calm : session.Calm) (files : Files) (path : String) :
    Settled (session.readVocabulary files path) := by
  unfold Session.readVocabulary
  split
  · rename_i found
    exact (settled_read calm files path).troubled found
  · rename_i session id text found
    have calm := (settled_read calm files path).calm found
    split
    · exact Session.troubled_report rfl session _
    · exact calm

/-- A vocabulary that is read does not hold the empty lexeme. -/
theorem empty_not_mem_of_readVocabulary {files : Files} {path : String} {next : Session}
    {vocabulary : Vocabulary}
    (read : session.readVocabulary files path = (next, some vocabulary)) :
    "" ∉ vocabulary.lexemes := by
  unfold Session.readVocabulary at read
  split at read
  · cases read
  · split at read
    · cases read
    · rename_i loaded
      cases read
      exact Vocabulary.empty_not_mem_of_load loaded

/-- A file is lexed to its end, and if it has lexical errors, they are reported. -/
theorem settled_lexFile (calm : session.Calm) (files : Files) (vocabulary source : String)
    (table : SymbolTable) : Settled (lexFile session files vocabulary source table) := by
  unfold lexFile
  split
  · rename_i found
    exact (settled_readVocabulary calm files vocabulary).troubled found
  · rename_i session words found
    have proper := empty_not_mem_of_readVocabulary found
    have calm := (settled_readVocabulary calm files vocabulary).calm found
    split
    · rename_i found
      exact (settled_read calm files source).troubled found
    · rename_i session id text found
      have calm := (settled_read calm files source).calm found
      rcases scan_cases proper text table with
        ⟨program, last, scanned⟩ | ⟨errors, last, some, scanned⟩
      · rw [scanned]
        exact calm
      · obtain ⟨error, errors, rfl⟩ := List.exists_cons_of_ne_nil some
        rw [scanned]
        exact (Session.troubled_reportAll_iff _ _).mpr
          (Or.inr ⟨error.diagnostic, List.mem_cons_self, rfl⟩)

theorem settled_readTokens (calm : session.Calm) (files : Files) (source : TokenSource) :
    Settled (readTokens session files source) := by
  cases source with
  | sequence text => exact calm.addSource .argument text
  | file vocabulary source =>
    unfold readTokens
    dsimp only
    split
    · rename_i found
      exact (settled_lexFile calm files vocabulary source _).troubled found
    · rename_i found
      exact (settled_lexFile calm files vocabulary source _).calm found

end

/-! ### The subcommands -/

variable {common : Common} {files : Files}

/-- A run that comes to a verdict shows by its status whether it is a rejection. -/
theorem status_reportVerdict {session : Session} (calm : session.Calm) (grammar : Grammar)
    (located : Located) (shown : Bool) (verdict : Search.Verdict) :
    let answer := reportVerdict session grammar located shown verdict
    (answer.1.finish answer.2).status = 0 ↔ ¬ (answer.1.finish answer.2).session.Troubled := by
  cases verdict with
  | accepted tree steps =>
    cases shown with
    | true => exact (calm.print _).finish
    | false => exact calm.finish
  | rejected rejection => exact (Session.troubled_report rfl session _).finish

/-- The search that a run of `parse` makes has no room in its tree for what it derives. -/
def Overflowed (common : Common) (files : Files) (fuel : Nat) (path : String)
    (tokens : TokenSource) : Prop :=
  ∃ session grammar last located,
    (Session.start common.plain).readGrammar files path = (session, some grammar) ∧
    readTokens session files tokens = (last, some located) ∧
    (search common grammar located.tokens fuel).2 = some .overflow

/-- **A run of `parse` shows errors by its status**, unless it breaks off. -/
theorem status_runParse {fuel : Nat} {path : String} {tokens : TokenSource} {json : Bool}
    {ending : Ending} (h : runParse common files fuel path tokens json = some ending) :
    (ending.status = 0 ↔ ¬ ending.session.Troubled) ∨
      ending.status = brokenStatus ∧ Overflowed common files fuel path tokens := by
  have read := settled_readGrammar (Session.calm_start common.plain) files path
  unfold runParse at h
  split at h
  · rename_i found
    cases h
    exact .inl (read.troubled found).finish
  · rename_i session grammar loaded
    have taken := settled_readTokens (read.calm loaded) files tokens
    split at h
    · rename_i found
      cases h
      exact .inl (taken.troubled found).finish
    · rename_i last located found
      have calm : (last.printError (search common grammar located.tokens fuel).1).Calm :=
        (taken.calm found).writeChunk _
      dsimp only at h
      split at h
      · cases h
      · rename_i broken
        cases h
        exact .inr ⟨rfl, session, grammar, last, located, loaded, found, broken⟩
      · cases h
        exact .inl (Session.troubled_report rfl _ none).finish
      · rename_i verdict _
        cases h
        refine .inl (status_reportVerdict ?_ grammar located (!json) verdict)
        cases json with
        | true => exact calm.print _
        | false => exact calm

theorem status_runGrammar {path : String} {ending : Ending}
    (h : runGrammar common files path = ending) :
    ending.status = if ending.session.isBroken then brokenStatus else 0 := by
  unfold runGrammar at h
  split at h
  · cases h
    exact Session.status_finishUnlessErrors _
  · cases h
    exact Session.status_finishUnlessErrors _

theorem exists_error_iff_not_isValid (grammar : Grammar) :
    (∃ diagnostic ∈ (grammar.problems.filter Problem.isError).map Problem.diagnostic,
      diagnostic.level = .error) ↔ ¬ grammar.isValid := by
  simp [Grammar.isValid, level_diagnostic_problem_iff]

/-- A run of `grammar` reports an error exactly if the grammar cannot be read or is not valid. -/
theorem troubled_runGrammar_iff (common : Common) (files : Files) (path : String) :
    (runGrammar common files path).session.Troubled ↔
      ∀ grammar, ((Session.start common.plain).readGrammar files path).2 = some grammar →
        ¬ grammar.isValid := by
  have read := settled_readGrammar (Session.calm_start common.plain) files path
  unfold runGrammar
  split
  · rename_i session found
    rw [found, Session.troubled_finishUnlessErrors_iff]
    refine iff_of_true (read.troubled found) ?_
    rintro grammar ⟨⟩
  · rename_i session grammar found
    have calm := ((read.calm found).print grammar.render).print (grammarCounts grammar)
    rw [found, Session.troubled_finishUnlessErrors_iff, Session.troubled_reportAll_iff,
      or_iff_right calm.not_troubled, exists_error_iff_not_isValid]
    simp only [Option.some.injEq, forall_eq']

theorem status_runLex {vocabulary source : String} {buckets : Nat} {ending : Ending}
    (h : runLex common files vocabulary buckets source = ending) :
    ending.status = if ending.session.isBroken then brokenStatus else 0 := by
  unfold runLex at h
  dsimp only at h
  split at h
  · cases h
    rfl
  · split at h
    · cases h
      exact Session.status_finishUnlessErrors _
    · cases h
      exact Session.status_finishUnlessErrors _

/-- A run of `lex` reports an error exactly if there is room for the buckets and the file has no
program. -/
theorem troubled_runLex_iff (common : Common) (files : Files) (vocabulary source : String)
    (buckets : Nat) :
    (runLex common files vocabulary buckets source).session.Troubled ↔
      ∃ table, SymbolTable.ofCapacity? buckets = some table ∧
        (lexFile (Session.start common.plain) files vocabulary source table).2 = none := by
  unfold runLex
  cases room : SymbolTable.ofCapacity? buckets with
  | none =>
    refine iff_of_false (Session.calm_start common.plain).not_troubled ?_
    rintro ⟨table, ⟨⟩, -⟩
  | some table =>
    have read := settled_lexFile (Session.calm_start common.plain) files vocabulary source table
    simp only [Option.some.injEq, exists_eq_left']
    split
    · rename_i session found
      rw [found, Session.troubled_finishUnlessErrors_iff]
      exact iff_of_true (read.troubled found) rfl
    · rename_i session _ program table found
      rw [found, Session.troubled_finishUnlessErrors_iff]
      refine iff_of_false ((read.calm found).print _).not_troubled ?_
      rintro ⟨⟩

/-- **Which errors the exit status shows.**  Where arguments ask for a subcommand that comes to an
end, the program ends with its status.  A run of `parse` ends with success exactly if no error was
reported, unless it breaks off because its tree has no room for what is derived.  A run of `grammar`
reports an error exactly if there is no valid grammar, and a run of `lex` exactly if there is no
program; both end with success whatever was reported, unless they break. -/
theorem status_exact {files : Files} {arguments : List String} {typed : ByteArray} {fuel : Nat}
    {common : Common} {subcommand : Subcommand} {ending : Ending}
    (asked : readArguments arguments = .ok (.run common subcommand))
    (ran : runSubcommand common files typed fuel subcommand = some ending) :
    execute files arguments typed fuel =
      some ⟨ending.session.chunks.toList, ending.status⟩ ∧
    (∀ grammar tokens json, subcommand = .parse grammar tokens json →
      (ending.status = 0 ↔ ¬ ending.session.Troubled) ∨
        ending.status = brokenStatus ∧ Overflowed common files fuel grammar tokens) ∧
    (∀ path, subcommand = .grammar path →
      (ending.status = if ending.session.isBroken then brokenStatus else 0) ∧
      (ending.session.Troubled ↔
        ∀ grammar, ((Session.start common.plain).readGrammar files path).2 = some grammar →
          ¬ grammar.isValid)) ∧
    ∀ vocabulary buckets source, subcommand = .lex vocabulary buckets source →
      (ending.status = if ending.session.isBroken then brokenStatus else 0) ∧
      (ending.session.Troubled ↔
        ∃ table, SymbolTable.ofCapacity? buckets = some table ∧
          (lexFile (Session.start common.plain) files vocabulary source table).2 = none) := by
  refine ⟨?_, ?_, ?_, ?_⟩
  · simp only [execute, asked, ran]
    rfl
  · rintro grammar tokens json rfl
    exact status_runParse ran
  · rintro path rfl
    have ran := Option.some.inj ran
    exact ⟨status_runGrammar ran, ran ▸ troubled_runGrammar_iff common files path⟩
  · rintro vocabulary buckets source rfl
    have ran := Option.some.inj ran
    exact ⟨status_runLex ran, ran ▸ troubled_runLex_iff common files vocabulary source buckets⟩

theorem status_exact_missing :
    let files : Files := fun _ => .error .notFound
    let subcommand : Subcommand := .parse "g" (.sequence "x") false
    ∃ ending,
      readArguments ["parse", "--grammar", "g", "--sequence", "x"] = .ok (.run {} subcommand) ∧
      runSubcommand {} files .empty 0 subcommand = some ending ∧
      ending.status = 1 ∧ ending.session.Troubled := by
  intro files subcommand
  have asked : readArguments ["parse", "--grammar", "g", "--sequence", "x"] =
      .ok (.run {} subcommand) := by cbv
  have ends : (runSubcommand {} files .empty 0 subcommand).map Ending.status = some 1 := by
    decide +kernel
  obtain ⟨ending, ran, failure⟩ := Option.map_eq_some_iff.mp ends
  refine ⟨ending, asked, ran, failure, ?_⟩
  by_contra untroubled
  rcases (status_exact asked ran).2.1 _ _ _ rfl with settled | ⟨broken, -⟩
  · rw [settled.mpr untroubled] at failure
    exact absurd failure (by decide)
  · rw [broken] at failure
    exact absurd failure (by decide)

/-- **Success after an error.**  Where a grammar cannot be found, an error is reported and written,
and the program ends with success. -/
theorem status_zero_of_missing :
    let files : Files := fun _ => .error .notFound
    ∃ ending,
      readArguments ["--plain", "grammar", "g"] = .ok (.run { plain := true } (.grammar "g")) ∧
      runSubcommand { plain := true } files .empty 0 (.grammar "g") = some ending ∧
      execute files ["--plain", "grammar", "g"] .empty 0 =
        some ⟨[.err "error: cannot read 'g': No such file or directory (os error 2)\n"], 0⟩ ∧
      ending.status = 0 ∧ ending.session.Troubled := by
  intro files
  have asked : readArguments ["--plain", "grammar", "g"] =
      .ok (.run { plain := true } (.grammar "g")) := by cbv
  refine ⟨runGrammar { plain := true } files "g", asked, rfl, ?_, by decide +kernel, ?_⟩
  · simp only [execute, asked, runSubcommand]
    decide +kernel
  · unfold Session.Troubled
    decide +kernel

end Descent.Command
