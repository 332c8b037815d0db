import Descent.Command.Run

/-!
# The program

Reads the files that the arguments name, and writes what the commands answer.  What is typed is
read and answered line by line.
-/

namespace Descent.Main

open Command

/-- The steps that a search without a limit may take. -/
def fuel : Nat := 1000000000000000000

/-- Why a file cannot be read, from what the system says. -/
def fileError : IO.Error → FileError
  | .noFileOrDirectory .. => .notFound
  | .inappropriateType .. => .isDirectory
  | error => .other (toString error)

/-- The bytes of a file, or why they cannot be read. -/
def readPath (path : String) : IO (Except FileError ByteArray) := do
  try return .ok (← IO.FS.readBinFile path)
  catch error => return .error (fileError error)

/-- The files that a subcommand may read. -/
def paths : Subcommand → List String
  | .grammar path | .repl path => [path]
  | .lex vocabulary _ source => [vocabulary, source]
  | .parse grammar (.file vocabulary source) _ => [grammar, vocabulary, source]
  | .parse grammar (.sequence _) _ => [grammar]

/-- The files at some paths. -/
def readPaths (paths : List String) : IO Files := do
  let contents ← paths.mapM fun path => do return (path, ← readPath path)
  return fun path => (contents.lookup path).getD (.error .notFound)

/-- Writes a chunk. -/
def writeChunk : Chunk → IO Unit
  | .out text => do
    let out ← IO.getStdout
    out.putStr text
    out.flush
  | .err text => do
    let err ← IO.getStderr
    err.putStr text
    err.flush

/-- Writes the chunks of a session and drops them. -/
def flush (session : Session) : IO Session := do
  session.chunks.forM writeChunk
  return { session with chunks := #[] }

/-- A line of what is typed, with its line ending. -/
def readLine : IO ByteArray := do
  let input ← IO.getStdin
  let mut line := ByteArray.empty
  repeat
    let byte ← input.read 1
    if byte.isEmpty then break
    line := line ++ byte
    if byte[0]? = some Repl.lineFeed then break
  return line

/-- Answers what is typed, line by line. -/
def runRepl (common : Common) (grammar : Grammar) (start : Session) : IO UInt32 := do
  let mut session ← flush start
  repeat
    session ← flush (Repl.ask session)
    let line ← readLine
    match Repl.splitLines line with
    | [] => break
    | text :: _ =>
      match Repl.respond session common grammar fuel text with
      | none => break
      | some next => session ← flush next
    if session.isBroken then break
  return session.status true

/-- Runs the program. -/
def run (arguments : List String) : IO UInt32 := do
  match readArguments arguments with
  | .ok (.run common (.repl path)) =>
    let files ← readPaths [path]
    match startRepl common files path with
    | (session, some grammar) => runRepl common grammar session
    | (session, none) =>
      let session ← flush session
      return session.status false
  | request =>
    let files ←
      match request with
      | .ok (.run _ subcommand) => readPaths (paths subcommand)
      | _ => readPaths []
    match execute files arguments ByteArray.empty fuel with
    | none => return Command.brokenStatus
    | some transcript =>
      transcript.chunks.forM writeChunk
      return transcript.status

end Descent.Main

/-- Runs the program with its arguments. -/
def main (arguments : List String) : IO UInt32 := Descent.Main.run arguments
