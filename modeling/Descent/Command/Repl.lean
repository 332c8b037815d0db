import Descent.Command.Parse

/-!
# Parsing what is typed

Each line that is typed holds tokens, and is answered by their tree or by a diagnostic.  What is
typed is bytes: it is cut into lines first, and a line that is no text is answered by a message of
its own and does not end the session.
-/

namespace Descent.Command.Repl

/-- What is shown before each line is read. -/
def prompt : String := ">>> "

/-- What is shown for a line that is no text. -/
def badLine : String := FileError.notText.message ++ "\n  (press control-d to exit)\n"

/-- The answer to a line of tokens.  The session breaks if the tree has no room for what is derived,
and there is no answer if the search does not end within `fuel` steps. -/
def respondTokens (session : Session) (common : Common) (grammar : Grammar) (fuel : Nat)
    (text : String) : Option Session :=
  let (session, source) := session.addSource .prompt text
  let located := Located.ofWords source text
  let (trace, result) := search common grammar located.tokens fuel
  let session := session.printError trace
  match result with
  | none => none
  | some .overflow => some session.broken
  | some (.error fault) => some (session.report fault.diagnostic none).emit
  | some (.ok verdict) =>
    let (session, accepted) := reportVerdict session grammar located true verdict
    let session := session.emit
    some (if accepted then session.print "\n" else session)

/-- The answer to a line, which is none if it holds no words. -/
def respond (session : Session) (common : Common) (grammar : Grammar) (fuel : Nat)
    (line : ByteArray) : Option Session :=
  match String.fromUTF8? line with
  | none => some (session.print badLine).emit
  | some text =>
    if (locatedWords text).isEmpty then some session
    else respondTokens session common grammar fuel text

/-- The byte that ends a line. -/
def lineFeed : UInt8 := 10

/-- The byte that may stand before it. -/
def carriageReturn : UInt8 := 13

/-- The bytes of a line without its line ending, where `line` holds them in reverse. -/
def ended (line : List UInt8) : ByteArray :=
  let line :=
    match line with
    | byte :: rest => if byte = carriageReturn then rest else line
    | [] => []
  ⟨line.reverse.toArray⟩

/-- The lines of some bytes, where `line` holds what was read of the current one in reverse. -/
def splitLinesFrom (line : List UInt8) : List UInt8 → List ByteArray
  | [] => if line.isEmpty then [] else [⟨line.reverse.toArray⟩]
  | byte :: rest =>
    if byte = lineFeed then ended line :: splitLinesFrom [] rest
    else splitLinesFrom (byte :: line) rest

/-- The lines of some bytes, without their line endings. -/
def splitLines (bytes : ByteArray) : List ByteArray := splitLinesFrom [] bytes.toList

/-- Shows the prompt. -/
def ask (session : Session) : Session := session.print prompt

/-- The answers to all lines, with the prompt before each and before their end. -/
def respondAll (session : Session) (common : Common) (grammar : Grammar) (fuel : Nat) :
    List ByteArray → Option Session
  | [] => some (ask session)
  | line :: lines => do
    let session ← respond (ask session) common grammar fuel line
    if session.isBroken then return session
    else respondAll session common grammar fuel lines

end Descent.Command.Repl
