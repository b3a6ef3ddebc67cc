/-
# SymbolAtlas.Shell.Launch — from the name of a command to the program that is run

A name with a slash is a path; any other name is sought in the directories of a search path. A file
is run by the interpreter that its first line names, which may be such a file again, so the program
that does the work in the end is one of the system.
-/
import SymbolAtlas.Failure
import SymbolAtlas.Shell.Octets
import SymbolAtlas.Workspace.Tree

namespace SymbolAtlas.Shell

/-- A program of the system, the name under which an interpreter line calls it, and the arguments
that come before those of the caller. -/
structure Loaded where
  program : Text
  caller : Option Text := none
  front : List Text := []

/-! ## Interpreters -/

/-- The greatest number of interpreters in a chain of scripts. -/
def maxInterpreters : Nat := 4

/-- The number of bytes in which an interpreter line is looked for. -/
def interpreterLineLimit : Nat := 256

/-- Whether a character separates the interpreter from its argument. -/
def isBlankInLine (c : Char) : Bool := c == ' ' || c == '\t'

/-- What an interpreter line asks for: the interpreter with at most one argument. A line without an
end may be cut off at the limit, but not inside the name of the interpreter. -/
def interpreter? (content : Content) : Option (Text × List Text) :=
  let start := Octets.ofBytes (content.bytesAt 0 (min content.size interpreterLineLimit))
  match start with
  | '#' :: '!' :: rest =>
    let ended := '\n' ∈ rest
    let line := if ended then rest.takeWhile (· != '\n') else rest.take (interpreterLineLimit - 3)
    let line := ((line.dropWhile isBlankInLine).reverse.dropWhile isBlankInLine).reverse
    let isEnd (c : Char) : Bool := isBlankInLine c || c.toNat == 0
    let path := line.takeWhile (!isEnd ·)
    let behind := line.drop path.length
    let argument := (behind.dropWhile isBlankInLine).takeWhile (·.toNat != 0)
    let cutOff := !ended && behind.isEmpty && interpreterLineLimit ≤ content.size
    if path.isEmpty || cutOff then none
    else
      let argument := if behind.head?.any isBlankInLine then argument else []
      some (Octets.toText path, if argument.isEmpty then [] else [Octets.toText argument])
  | _ => none

/-! ## Loading -/

/-- The launch error for a path that leads nowhere. -/
def launchError : LookupError → LaunchError
  | .noEntry => .noSuchFile
  | .notDirectory => .notADirectory
  | .loop => .tooManyLinks
  | .nameTooLong => .nameTooLong

/-- Loads the program at a path, through at most `chain` interpreters. -/
def load (ws : Workspace) : (chain : Nat) → Text → Except LaunchError Loaded
  | chain, path =>
    match ws.stat path with
    | .error e => .error (launchError e)
    | .ok (.program name) => .ok { program := name }
    | .ok (.file content true) =>
      match interpreter? content, chain with
      | none, _ => .error .notExecutable
      | some _, 0 => .error .tooManyLinks
      | some (interpreter, options), chain + 1 =>
        (load ws chain interpreter).map fun loaded =>
          { loaded with
            caller := loaded.caller <|> some interpreter
            front := loaded.front ++ options ++ [path] }
    | .ok _ => .error .permissionDenied

/-- The directories of a search path. -/
def searchPath (value : Option Text) : List Text :=
  (value.getD "/usr/bin:/bin".toList).splitOn ':'

/-- The path of a name in a directory; an empty directory is the working directory. -/
def pathIn (directory name : Text) : Text :=
  if directory.isEmpty then name
  else if directory.getLast? == some '/' then directory ++ name
  else directory ++ '/' :: name

/-- Whether a failure to load ends a search only if nothing better is found. -/
def isRemembered : Except LaunchError Loaded → Bool
  | .error .noSuchFile | .error .notADirectory => false
  | _ => true

/-- The first path in a search path that leads to a program or to an executable file. -/
def find? (ws : Workspace) (directories : List Text) (name : Text) : Option Text :=
  (directories.map (pathIn · name)).find? fun path =>
    (ws.stat path matches .ok (.file _ true)) || (ws.stat path matches .ok (.program _))

/-- Loads the program that a command names. The search goes on behind a failure; the first failure
other than a missing file is remembered. -/
def loadNamed (ws : Workspace) (directories : List Text) (name : Text) :
    Except LaunchError Loaded :=
  if '/' ∈ name then load ws maxInterpreters name
  else
    let attempts := directories.map fun directory => load ws maxInterpreters (pathIn directory name)
    let found := attempts.filter (· matches .ok _)
    (found ++ attempts.filter isRemembered).headD (.error .noSuchFile)

end SymbolAtlas.Shell
