import Descent.SymbolTable

/-!
# Command line arguments

## Main Definitions

* `Common` — the settings of all subcommands
* `Subcommand` — what to do
* `Request` — what the arguments ask for
* `readArguments` — the request of some arguments

## Design Notes

Options and other arguments come in any order.  The value of an option is behind an equals sign,
right behind its letter, or the next argument; a value that is an argument of its own cannot start
with a hyphen, unless it is one.  Two hyphens end the options.  Some settings can be given before
and after the name of the subcommand; the latter ones win.

Asking for the version ends the reading, whatever is wrong with the arguments before it other
than that one of them means nothing.
-/

namespace Descent.Command

/-- The settings of all subcommands. -/
structure Common where
  /-- Whether each step of a search is shown. -/
  trace : Bool := false
  /-- The number of steps after which a search gives up. -/
  stepLimit : Option Nat := none
  /-- Whether diagnostics are laid out plainly. -/
  plain : Bool := false
deriving DecidableEq, Repr

/-- Where the tokens to parse come from. -/
inductive TokenSource where
  /-- From a file, read with a vocabulary. -/
  | file (vocabulary source : String)
  /-- From the command line. -/
  | sequence (tokens : String)
deriving DecidableEq, Repr

/-- What to do. -/
inductive Subcommand where
  /-- Show a grammar and its problems. -/
  | grammar (path : String)
  /-- Show the lexemes of a file. -/
  | lex (vocabulary : String) (buckets : Nat) (source : String)
  /-- Parse tokens. -/
  | parse (grammar : String) (tokens : TokenSource) (json : Bool)
  /-- Parse what is typed, line by line. -/
  | repl (grammar : String)
deriving DecidableEq, Repr

/-- What the arguments ask for. -/
inductive Request where
  /-- The name and the version of the program. -/
  | version
  /-- A word on how to use it. -/
  | help
  /-- A subcommand. -/
  | run (common : Common) (subcommand : Subcommand)
deriving DecidableEq, Repr

/-- Why the arguments ask for nothing. -/
inductive UsageError where
  /-- An argument means nothing where it stands. -/
  | unexpected (argument : String)
  /-- An option has no value, or one that it does not take. -/
  | badValue (option : String)
  /-- An option is given twice. -/
  | repeated (option : String)
  /-- Something is left out. -/
  | missing (what : String)
  /-- Two things exclude each other. -/
  | conflict (what : String)
deriving DecidableEq, Repr

/-- The error in words. -/
def UsageError.message : UsageError → String
  | .unexpected argument => s!"unexpected argument '" ++ argument ++ "'"
  | .badValue option => s!"the value of {option} is missing or not what it takes"
  | .repeated option => s!"{option} is given more than once"
  | .missing what => s!"{what} is missing"
  | .conflict what => s!"{what} exclude each other"

/-! ### Options -/

/-- The options. -/
inductive OptionName where
  /-- Show each step of a search. -/
  | trace
  /-- Limit the steps of a search. -/
  | stepLimit
  /-- Lay out diagnostics plainly. -/
  | plain
  /-- Name the vocabulary. -/
  | tokens
  /-- Set the number of buckets. -/
  | buckets
  /-- Name the grammar. -/
  | grammar
  /-- Give tokens. -/
  | sequence
  /-- Print JSON. -/
  | json
  /-- Ask for the version. -/
  | version
  /-- Ask for help. -/
  | help
deriving DecidableEq, Repr

namespace OptionName

/-- The word for an option. -/
def long : OptionName → String
  | .trace => "trace"
  | .stepLimit => "step-limit"
  | .plain => "plain"
  | .tokens => "tokens"
  | .buckets => "buckets"
  | .grammar => "grammar"
  | .sequence => "sequence"
  | .json => "json"
  | .version => "version"
  | .help => "help"

/-- The letter for an option. -/
def short? : OptionName → Option Char
  | .tokens => some 't'
  | .grammar => some 'g'
  | .sequence => some 's'
  | .version => some 'V'
  | .help => some 'h'
  | _ => none

/-- Whether an option takes a value. -/
def takesValue : OptionName → Bool
  | .stepLimit | .tokens | .buckets | .grammar | .sequence => true
  | _ => false

end OptionName

/-- The options before and after the name of a subcommand. -/
def commonOptions : List OptionName := [.trace, .stepLimit, .plain, .help]

/-- The subcommands by name, and their own options. -/
def subcommandOptions : String → Option (List OptionName)
  | "grammar" => some []
  | "lex" => some [.tokens, .buckets]
  | "parse" => some [.grammar, .tokens, .sequence, .json]
  | "repl" => some [.grammar]
  | _ => none

/-! ### Reading a level

The arguments before the name of the subcommand are one level, those after it another. -/

/-- What was given on a level. -/
structure Given where
  /-- The options with their values.  One without a value has an empty one. -/
  options : List (OptionName × String) := []
  /-- The options that a value was expected for in vain. -/
  unvalued : List OptionName := []
  /-- The other arguments. -/
  others : List String := []
deriving DecidableEq, Repr

namespace Given

/-- Adds an option. -/
def addOption (given : Given) (name : OptionName) (value : String) : Given :=
  { given with options := given.options ++ [(name, value)] }

/-- Notes that an option has no value, if there is one that waits for it. -/
def endWaiting (given : Given) (waiting : Option OptionName) : Given :=
  { given with unvalued := given.unvalued ++ waiting.toList }

/-- The value of an option. -/
def value? (given : Given) (name : OptionName) : Option String :=
  given.options.lookup name

/-- Whether an option is given. -/
def has (given : Given) (name : OptionName) : Bool := (given.value? name).isSome

end Given

/-- How the reading of a level ends. -/
inductive LevelEnd where
  /-- There are no more arguments. -/
  | finished (given : Given)
  /-- A subcommand follows. -/
  | subcommand (given : Given) (name : String) (rest : List String)
  /-- The version was asked for. -/
  | version
  /-- Help was asked for. -/
  | help
deriving DecidableEq, Repr

/-- What an argument that is an option stands for. -/
inductive OptionReading where
  /-- An option with its value. -/
  | complete (name : OptionName) (value : String)
  /-- An option that waits for its value. -/
  | waiting (name : OptionName)
deriving DecidableEq, Repr

/-- Reads an option written as a word, without its two hyphens. -/
def readLong (options : List OptionName) (argument : String) (word : List Char) :
    Except UsageError OptionReading :=
  let name := String.ofList (word.takeWhile (· ≠ '='))
  match options.find? (·.long = name), word.dropWhile (· ≠ '=') with
  | none, _ => .error (.unexpected argument)
  | some option, [] =>
    .ok (if option.takesValue then .waiting option else .complete option "")
  | some option, _ :: value =>
    if option.takesValue then .ok (.complete option (String.ofList value))
    else .error (.badValue argument)

/-- Reads an option written as a letter, without its hyphen.  The letters here that take no value
end the reading of all arguments, so what follows them does not matter. -/
def readShort (options : List OptionName) (argument : String) :
    List Char → Except UsageError OptionReading
  | [] => .error (.unexpected argument)
  | letter :: value =>
    match options.find? (·.short? = some letter), value with
    | none, _ => .error (.unexpected argument)
    | some option, [] =>
      .ok (if option.takesValue then .waiting option else .complete option "")
    | some option, '=' :: value => .ok (.complete option (String.ofList value))
    | some option, value => .ok (.complete option (String.ofList value))

/-- Reads an argument that starts with a hyphen and is longer. -/
def readOption (options : List OptionName) (argument : String) :
    Except UsageError OptionReading :=
  match argument.toList with
  | '-' :: '-' :: word => readLong options argument word
  | _ :: word => readShort options argument word
  | [] => .error (.unexpected argument)

/-- Whether an argument is read as an option. -/
def looksLikeOption (argument : String) : Bool :=
  argument.startsWith "-" && argument ≠ "-"

/-- Reads the arguments of a level.  On the first one, `isFirst`, an argument that is no option
is the name of the subcommand.  `waiting` is the option that waits for its value. -/
def readLevel (options : List OptionName) (isFirst : Bool) (given : Given)
    (waiting : Option OptionName) : List String → Except UsageError LevelEnd
  | [] => .ok (.finished (given.endWaiting waiting))
  | argument :: rest =>
    if argument = "--" then
      let given := given.endWaiting waiting
      match isFirst, rest with
      | true, other :: _ => .error (.unexpected other)
      | _, _ => .ok (.finished { given with others := given.others ++ rest })
    else if looksLikeOption argument then
      let given := given.endWaiting waiting
      match readOption options argument with
      | .error error => .error error
      | .ok (.waiting name) => readLevel options isFirst given (some name) rest
      | .ok (.complete .version _) => .ok .version
      | .ok (.complete .help _) => .ok .help
      | .ok (.complete name value) =>
        readLevel options isFirst (given.addOption name value) none rest
    else
      match waiting with
      | some name => readLevel options isFirst (given.addOption name argument) none rest
      | none =>
        if isFirst then .ok (.subcommand given argument rest)
        else
          readLevel options isFirst { given with others := given.others ++ [argument] } none rest

/-! ### Checking what was given -/

/-- The largest number that is read. -/
def maxNumber : Nat := 18446744073709551615

/-- A number in decimal digits, with a plus sign or without. -/
def readNumber? (text : String) : Option Nat :=
  let digits :=
    match text.toList with
    | '+' :: digits => digits
    | digits => digits
  if digits.isEmpty || !digits.all Char.isDigit then none
  else
    let value := digits.foldl (fun value c => 10 * value + (c.toNat - '0'.toNat)) 0
    if value ≤ maxNumber then some value else none

/-- The number that an option gives. -/
def numberOf (given : Given) (name : OptionName) : Except UsageError (Option Nat) :=
  match given.value? name with
  | none => .ok none
  | some text =>
    match readNumber? text with
    | none => .error (.badValue name.long)
    | some value => .ok (some value)

/-- The first option that is given twice. -/
def firstRepeated? : List OptionName → Option OptionName
  | [] => none
  | name :: names => if name ∈ names then some name else firstRepeated? names

/-- Checks that each option is given once and has the value that it takes. -/
def checkOptions (given : Given) : Except UsageError Unit := do
  match given.unvalued with
  | name :: _ => throw (.badValue name.long)
  | [] => pure ()
  match firstRepeated? (given.options.map (·.1)) with
  | some name => throw (.repeated name.long)
  | none => pure ()

/-- The settings of a level. -/
def commonOf (given : Given) : Except UsageError Common := do
  checkOptions given
  let stepLimit ← numberOf given .stepLimit
  return { trace := given.has .trace, stepLimit, plain := given.has .plain }

/-- The settings of both levels.  The latter ones win. -/
def Common.merge (first second : Common) : Common where
  trace := first.trace || second.trace
  stepLimit := second.stepLimit.or first.stepLimit
  plain := first.plain || second.plain

/-- The value of an option that has to be given. -/
def required (given : Given) (name : OptionName) : Except UsageError String :=
  match given.value? name with
  | some value => .ok value
  | none => .error (.missing name.long)

/-- The one argument that is no option. -/
def theOther (given : Given) : Except UsageError String :=
  match given.others with
  | [] => .error (.missing "a file")
  | [path] => .ok path
  | _ :: other :: _ => .error (.unexpected other)

/-- The argument that is no option, if there is one. -/
def theOther? (given : Given) : Except UsageError (Option String) :=
  match given.others with
  | [] => .ok none
  | [path] => .ok (some path)
  | _ :: other :: _ => .error (.unexpected other)

/-- Where the tokens to parse come from.  A vocabulary is needed for a file, and is of no use
without one, but does no harm beside given tokens. -/
def tokenSource (given : Given) : Except UsageError TokenSource := do
  match ← theOther? given, given.value? .sequence, given.value? .tokens with
  | some _, some _, _ => throw (.conflict "a file and --sequence")
  | none, none, _ => throw (.missing "a file or --sequence")
  | none, some tokens, _ => return .sequence tokens
  | some _, none, none => throw (.missing "tokens")
  | some source, none, some vocabulary => return .file vocabulary source

/-- The subcommand of a name and what was given for it. -/
def subcommandOf (name : String) (given : Given) : Except UsageError Subcommand := do
  match name with
  | "grammar" => return .grammar (← theOther given)
  | "lex" =>
    let vocabulary ← required given .tokens
    let buckets ← numberOf given .buckets
    return .lex vocabulary (buckets.getD SymbolTable.defaultCapacity) (← theOther given)
  | "parse" =>
    let grammar ← required given .grammar
    return .parse grammar (← tokenSource given) (given.has .json)
  | "repl" =>
    let grammar ← required given .grammar
    match ← theOther? given with
    | some other => throw (.unexpected other)
    | none => return .repl grammar
  | _ => throw (.unexpected name)

/-- The request of the arguments after the word that asks for help.  They may name one thing to
be helped with, the word itself included. -/
def readHelp : List String → Except UsageError Request
  | [] => .ok .help
  | name :: rest =>
    if name ≠ "help" ∧ subcommandOptions name = none then .error (.unexpected name)
    else
      match rest with
      | [] => .ok .help
      | other :: _ => .error (.unexpected other)

/-- The request of the arguments after the name of a subcommand. -/
def readSubcommand (first : Given) (name : String) (rest : List String) :
    Except UsageError Request := do
  if name = "help" then return ← readHelp rest
  match subcommandOptions name with
  | none => throw (.unexpected name)
  | some options =>
    match ← readLevel (options ++ commonOptions) false {} none rest with
    | .version => return .version
    | .help => return .help
    | .subcommand _ other _ => throw (.unexpected other)
    | .finished given =>
      let outer ← commonOf first
      let inner ← commonOf given
      return .run (outer.merge inner) (← subcommandOf name given)

/-- The request of some arguments. -/
def readArguments (arguments : List String) : Except UsageError Request := do
  match ← readLevel (.version :: commonOptions) true {} none arguments with
  | .version => return .version
  | .help => return .help
  | .finished _ => throw (.missing "a subcommand")
  | .subcommand given name rest => readSubcommand given name rest

end Descent.Command
