import Descent.Command.Files
import Descent.Grammar.Document
import Descent.Grammar.Problem
import Descent.Lexeme.Basic
import Descent.Report.Queue
import Descent.Text.Unicode
import Descent.Vocabulary

/-!
# Sessions

What a command has read, what it has to report, and what it has written.  A command goes from
session to session, so that what it does can be compared with what a reader sees.  Diagnostics
that were emitted are out of the queue and are text among other text; they are kept in
`Session.emitted`, which no command looks at, so that one can still say which they were.

A session breaks when a diagnostic cannot be shown or there is no room for a table or a tree.
Nothing is written after that, and the command ends with `brokenStatus`.
-/

namespace Descent.Command

open Report

/-- A text written to one of the two output streams. -/
inductive Chunk where
  /-- Standard output. -/
  | out (text : String)
  /-- Standard error. -/
  | err (text : String)
deriving DecidableEq, Repr

/-- What a command has read, reported and written. -/
structure Session where
  /-- How diagnostics are laid out. -/
  layout : Layout
  /-- The texts that were read. -/
  sources : Sources := #[]
  /-- The diagnostics that are not emitted yet. -/
  queue : Queue := Queue.empty
  /-- The diagnostics that were emitted, in the order in which they were written. -/
  emitted : List Diagnostic := []
  /-- What was written. -/
  chunks : Array Chunk := #[]
  /-- Whether the session broke. -/
  isBroken : Bool := false

/-- The exit status of a command whose session broke. -/
def brokenStatus : UInt32 := 101

namespace Session

/-- The session in which nothing was read. -/
def start (plain : Bool) : Session :=
  { layout := if plain then .plain else .terminal }

/-- The session when it breaks. -/
def broken (session : Session) : Session := { session with isBroken := true }

/-- Writes a chunk. -/
def writeChunk (session : Session) (chunk : Chunk) : Session :=
  if session.isBroken then session
  else { session with chunks := session.chunks.push chunk }

/-- Writes a text to standard output. -/
def print (session : Session) (text : String) : Session := session.writeChunk (.out text)

/-- Writes a text to standard error. -/
def printError (session : Session) (text : String) : Session := session.writeChunk (.err text)

/-- Registers a diagnostic about a source. -/
def report (session : Session) (diagnostic : Diagnostic) (source : Option SourceId) : Session :=
  { session with queue := session.queue.register (diagnostic.about source) }

/-- Registers diagnostics about a source. -/
def reportAll (session : Session) (diagnostics : List Diagnostic) (source : Option SourceId) :
    Session :=
  diagnostics.foldl (·.report · source) session

/-- Writes all diagnostics that are not emitted yet. -/
def emit (session : Session) : Session :=
  let emitted := session.emitted ++ session.queue.sorted
  let (written, queue) := session.queue.emit session.layout session.sources none
  let session := { session with queue, emitted }
  match written with
  | .complete text | .full text => session.printError text
  | .overflow text => (session.printError text).broken

/-- All diagnostics that were reported, emitted or not. -/
def reported (session : Session) : List Diagnostic :=
  session.emitted ++ session.queue.pending

/-- The session once its diagnostics are taken out to be written. -/
def flushed (session : Session) : Session :=
  { session with
    queue := Queue.empty
    emitted := session.emitted ++ session.queue.sorted }

/-- What neither writing nor breaking changes is changed by emitting only as diagnostics are taken
out. -/
theorem apply_emit {α : Type} (f : Session → α)
    (writing : ∀ session text, f (printError session text) = f session)
    (breaking : ∀ session, f (broken session) = f session) (session : Session) :
    f session.emit = f session.flushed := by
  simp only [emit, Queue.emit_eq]
  split
  · exact writing session.flushed _
  · exact writing session.flushed _
  · exact (breaking _).trans (writing session.flushed _)

/-- Writing reports nothing. -/
theorem reported_printError (session : Session) (text : String) :
    (session.printError text).reported = session.reported := by
  unfold printError writeChunk
  split <;> rfl

/-- Emitting neither loses nor adds a diagnostic. -/
theorem reported_emit_perm (session : Session) :
    session.emit.reported.Perm session.reported := by
  have same : session.emit.reported = session.flushed.reported :=
    apply_emit reported reported_printError (fun _ => rfl) session
  have all : session.flushed.reported = session.emitted ++ session.queue.sorted :=
    List.append_nil _
  rw [same, all]
  exact List.Perm.append_left _ session.queue.perm_sorted

/-- Keeps a text for reports to quote. -/
def addSource (session : Session) (origin : Origin) (text : String) : Session × SourceId :=
  let (sources, id) := session.sources.add ⟨origin, text⟩
  ({ session with sources }, id)

/-! ### Reading files -/

/-- The text of a file and its number among the sources, unless it cannot be read. -/
def read (session : Session) (files : Files) (path : String) :
    Session × Option (SourceId × String) :=
  match files.text path with
  | .ok text =>
    let (session, id) := session.addSource (.file path) text
    (session, some (id, text))
  | .error error =>
    let text := "cannot read '" ++ path ++ "': " ++ error.message
    (session.report (Diagnostic.ofText text) none, none)

/-- The grammar of a file, unless it cannot be read or is none.  Warnings about the grammar are
reported, errors about it are not. -/
def readGrammar (session : Session) (files : Files) (path : String) :
    Session × Option Grammar :=
  match session.read files path with
  | (session, none) => (session, none)
  | (session, some (id, text)) =>
    match Grammar.load text with
    | .error error => (session.report error.diagnostic (some id), none)
    | .ok grammar =>
      let warnings := grammar.problems.filter fun problem => !problem.isError
      (session.reportAll (warnings.map Problem.diagnostic) (some id), some grammar)

/-- The vocabulary of a file, unless it cannot be read or is none. -/
def readVocabulary (session : Session) (files : Files) (path : String) :
    Session × Option Vocabulary :=
  match session.read files path with
  | (session, none) => (session, none)
  | (session, some (id, text)) =>
    match Vocabulary.load text with
    | .error line =>
      (session.report (LexicalError.vocabularyBlank line).diagnostic (some id), none)
    | .ok vocabulary => (session, some vocabulary)

/-! ### Ending -/

/-- The exit status of a command, given whether it came out well. -/
def status (session : Session) (success : Bool) : UInt32 :=
  if session.isBroken then brokenStatus else if success then 0 else 1

end Session

end Descent.Command
