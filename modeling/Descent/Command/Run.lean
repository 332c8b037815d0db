import Descent.Command.Repl

/-!
# Running subcommands

Each subcommand is a function from what it can ask of the file system to a session, which says
what was written, and a status.  `execute` is the whole program, where all that is typed is known
beforehand.

The subcommands do not agree on how an exit status comes about.  `parse` decides it by what it
came to.  `grammar` and `lex` look for errors in the queue, and do so after it was emitted, when
it is empty.
-/

namespace Descent.Command

/-- How a run ended: what was written, and the exit status. -/
structure Ending where
  /-- The session at the end. -/
  session : Session
  /-- The exit status. -/
  status : UInt32

namespace Session

/-- Writes the diagnostics and ends with the status of a success or a failure. -/
def finish (session : Session) (success : Bool) : Ending :=
  let session := session.emit
  ⟨session, session.status success⟩

/-- Writes the diagnostics and ends with success if none of those that are left is an error. -/
def finishUnlessErrors (session : Session) : Ending :=
  let session := session.emit
  ⟨session, session.status !session.queue.hasErrors⟩

end Session

/-- The line that counts what a grammar declares. -/
def grammarCounts (grammar : Grammar) : String :=
  s!"// {grammar.nonterminals.length} nonterminals, {grammar.terminals.length} terminals, " ++
    s!"{grammar.productionCount} productions\n"

/-- Shows a grammar and its problems. -/
def runGrammar (common : Common) (files : Files) (path : String) : Ending :=
  match (Session.start common.plain).readGrammar files path with
  | (session, none) => session.finishUnlessErrors
  | (session, some grammar) =>
    let session := (session.print grammar.render).print (grammarCounts grammar)
    let errors := grammar.problems.filter Problem.isError
    (session.reportAll (errors.map Problem.diagnostic) none).finishUnlessErrors

/-- Shows the program of a file and its symbol table.  Without room for the buckets the session
breaks before anything is read. -/
def runLex (common : Common) (files : Files) (vocabulary : String) (buckets : Nat)
    (source : String) : Ending :=
  let session := Session.start common.plain
  match SymbolTable.ofCapacity? buckets with
  | none => ⟨session.broken, brokenStatus⟩
  | some table =>
    match lexFile session files vocabulary source table with
    | (session, none) => session.finishUnlessErrors
    | (session, some (_, program, table)) =>
      let text := "// program internal form\n" ++ program.render ++
        "// symbol table\n" ++ table.render
      (session.print text).finishUnlessErrors

/-- The tokens to parse, unless they cannot be read. -/
def readTokens (session : Session) (files : Files) : TokenSource → Session × Option Located
  | .sequence text =>
    let (session, source) := session.addSource .argument text
    (session, some (Located.ofWords source text))
  | .file vocabulary source =>
    match lexFile session files vocabulary source
        (SymbolTable.ofCapacity SymbolTable.defaultCapacity) with
    | (session, none) => (session, none)
    | (session, some (id, program, _)) => (session, some (Located.ofProgram id program))

/-- Parses tokens with a grammar and shows the verdict.  The session breaks if the tree has no room
for what is derived, and there is no end if the search does not end within `fuel` steps. -/
def runParse (common : Common) (files : Files) (fuel : Nat) (path : String)
    (tokens : TokenSource) (json : Bool) : Option Ending :=
  match (Session.start common.plain).readGrammar files path with
  | (session, none) => some (session.finish false)
  | (session, some grammar) =>
    match readTokens session files tokens with
    | (session, none) => some (session.finish false)
    | (session, some located) =>
      let (trace, result) := search common grammar located.tokens fuel
      let session := session.printError trace
      match result with
      | none => none
      | some .overflow => some ⟨session.broken, brokenStatus⟩
      | some (.error fault) => some ((session.report fault.diagnostic none).finish false)
      | some (.ok verdict) =>
        let session :=
          if json then session.print (verdict.toJson.render ++ "\n") else session
        let (session, accepted) := reportVerdict session grammar located (!json) verdict
        some (session.finish accepted)

/-- The grammar that typed tokens are parsed with, unless there is none, and the session in which
its warnings are written. -/
def startRepl (common : Common) (files : Files) (path : String) : Session × Option Grammar :=
  let (session, grammar) := (Session.start common.plain).readGrammar files path
  let session := session.emit
  (session, if session.queue.hasErrors || session.isBroken then none else grammar)

/-- Parses what is typed, line by line. -/
def runRepl (common : Common) (files : Files) (typed : ByteArray) (fuel : Nat) (path : String) :
    Option Ending :=
  match startRepl common files path with
  | (session, none) => some ⟨session, session.status false⟩
  | (session, some grammar) => do
    let session ← Repl.respondAll session common grammar fuel (Repl.splitLines typed)
    return ⟨session, session.status true⟩

/-- Runs a subcommand, where `typed` is all that is typed. -/
def runSubcommand (common : Common) (files : Files) (typed : ByteArray) (fuel : Nat) :
    Subcommand → Option Ending
  | .grammar path => some (runGrammar common files path)
  | .lex vocabulary buckets source => some (runLex common files vocabulary buckets source)
  | .parse grammar tokens json => runParse common files fuel grammar tokens json
  | .repl grammar => runRepl common files typed fuel grammar

/-! ### The whole program -/

/-- What the program writes, and its exit status. -/
structure Transcript where
  /-- What is written, in order. -/
  chunks : List Chunk
  /-- The exit status. -/
  status : UInt32
deriving DecidableEq, Repr

namespace Transcript

/-- What is written to standard output. -/
def stdout (transcript : Transcript) : String :=
  String.join <| transcript.chunks.filterMap fun
    | .out text => some text
    | .err _ => none

/-- What is written to standard error. -/
def stderr (transcript : Transcript) : String :=
  String.join <| transcript.chunks.filterMap fun
    | .out _ => none
    | .err text => some text

end Transcript

/-- The name and the version of the program. -/
def versionLine : String := "rdparse 0.1.0\n"

/-- A word on how to use the program. -/
def usage : String :=
  "usage: rdparse [--trace] [--step-limit N] [--plain] SUBCOMMAND\n" ++
    "  grammar FILE\n" ++
    "  lex --tokens VOCAB [--buckets N] SOURCE\n" ++
    "  parse --grammar FILE (--tokens VOCAB SOURCE | --sequence TOKENS) [--json]\n" ++
    "  repl --grammar FILE\n"

/-- The exit status for arguments that ask for nothing. -/
def usageStatus : UInt32 := 2

/-- What the program writes for arguments that ask for nothing. -/
def usageTranscript (error : UsageError) : Transcript :=
  ⟨[.err s!"error: {error.message}\n", .err usage], usageStatus⟩

/-- What the program does with its arguments, the files, and all that is typed, unless a search
does not end within `fuel` steps. -/
def execute (files : Files) (arguments : List String) (typed : ByteArray) (fuel : Nat) :
    Option Transcript :=
  match readArguments arguments with
  | .error error => some (usageTranscript error)
  | .ok .version => some ⟨[.out versionLine], 0⟩
  | .ok .help => some ⟨[.out usage], 0⟩
  | .ok (.run common subcommand) => do
    let ending ← runSubcommand common files typed fuel subcommand
    return ⟨ending.session.chunks.toList, ending.status⟩

end Descent.Command
