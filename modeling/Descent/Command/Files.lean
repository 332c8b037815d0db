/-!
# Files

A command asks for the text of a file and gets it, or a reason why not.  All that it can learn of
a file system is such answers, so `Files` is a function from paths to answers.

For a command that is run without a file system, `Directory.files` makes up the answers that a
directory with some files would give.  Paths are walked step by step, as the reason depends on the
step that fails: there may be nothing, a file where a directory is needed, or a name that is too
long.  Of what is above the directory nothing is known but that it is there.
-/

namespace Descent.Command

/-- Why a file cannot be read. -/
inductive FileError where
  /-- There is no such file. -/
  | notFound
  /-- The path leads to a directory. -/
  | isDirectory
  /-- The path leads through something that is no directory. -/
  | notDirectory
  /-- A part of the path is longer than names can be. -/
  | nameTooLong
  /-- The bytes are no text. -/
  | notText
  /-- Something else. -/
  | other (message : String)
deriving DecidableEq, Repr

/-- The error in words. -/
def FileError.message : FileError → String
  | .notFound => "No such file or directory (os error 2)"
  | .isDirectory => "Is a directory (os error 21)"
  | .notDirectory => "Not a directory (os error 20)"
  | .nameTooLong => "File name too long (os error 36)"
  | .notText => "stream did not contain valid UTF-8"
  | .other message => message

/-- The bytes of each file, or why they cannot be read. -/
abbrev Files := String → Except FileError ByteArray

/-- The text of a file. -/
def Files.text (files : Files) (path : String) : Except FileError String :=
  match files path with
  | .error error => .error error
  | .ok bytes =>
    match String.fromUTF8? bytes with
    | some text => .ok text
    | none => .error .notText

/-! ### Directories as files -/

/-- A directory that holds some files.  A name with slashes is the path of a file in a directory
further down. -/
structure Directory where
  /-- Names and contents. -/
  entries : List (String × ByteArray)
  /-- The paths of directories that may hold no file. -/
  folders : List String := []
  /-- Whether there is no directory above it. -/
  isRoot : Bool := false

namespace Directory

/-- The steps of a path, without those that lead nowhere. -/
def steps (path : String) : List String :=
  (path.splitOn "/").filter fun step => step ≠ "" ∧ step ≠ "."

/-- The number of bytes that a name can have. -/
def longestName : Nat := 255

/-- The number of bytes that a path can have. -/
def longestPath : Nat := 4095

/-- Whether some steps lead to something in the directory. -/
def leads (directory : Directory) (place : List String) : Bool :=
  (directory.entries.map (·.1) ++ directory.folders).any fun name =>
    place.isPrefixOf (steps name)

/-- What a path leads to from a directory of which nothing is known but that it is there. -/
def walkUnknown : List String → Except FileError ByteArray
  | [] => .error .isDirectory
  | step :: rest =>
    if step = ".." then walkUnknown rest
    else if longestName < step.utf8ByteSize then .error .nameTooLong
    else .error .notFound

/-- What a path leads to from a place in the directory.  `place` holds the steps to it; two dots
lead one step back, at the root nowhere. -/
def walk (directory : Directory) (place : List String) : List String → Except FileError ByteArray
  | [] =>
    match directory.entries.find? (steps ·.1 = place) with
    | some (_, content) => .ok content
    | none => .error .isDirectory
  | step :: rest =>
    if directory.entries.any (steps ·.1 = place) then .error .notDirectory
    else if step = ".." then
      if place = [] ∧ !directory.isRoot then walkUnknown rest
      else directory.walk place.dropLast rest
    else if longestName < step.utf8ByteSize then .error .nameTooLong
    else if directory.leads (place ++ [step]) then directory.walk (place ++ [step]) rest
    else .error .notFound

/-- The directory that paths with a slash in front start from: the usual directories, the device
that is always empty, and the one that holds what is typed. -/
def root (typed : ByteArray) : Directory where
  entries := [("dev/null", ByteArray.empty), ("dev/stdin", typed)]
  folders := ["bin", "dev", "etc", "home", "lib", "media", "mnt", "opt", "proc", "root", "run",
    "sbin", "srv", "sys", "tmp", "usr", "var"]
  isRoot := true

/-- Whether a path asks for a directory. -/
def asksDirectory (path : String) : Bool := path.endsWith "/" || path.endsWith "/."

/-- The files that paths lead to for one who works in the directory, where `typed` is all that is
typed. -/
def files (directory : Directory) (typed : ByteArray) : Files := fun path =>
  if path = "" then .error .notFound
  else if longestPath < path.utf8ByteSize then .error .nameTooLong
  else
    let start := if path.startsWith "/" then root typed else directory
    match start.walk [] (steps path) with
    | .ok content => if asksDirectory path then .error .notDirectory else .ok content
    | .error error => .error error

end Directory

end Descent.Command
