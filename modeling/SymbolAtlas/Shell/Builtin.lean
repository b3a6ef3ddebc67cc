/-
# SymbolAtlas.Shell.Builtin — the commands of the shell itself

A command of the shell is found by its name before any program. An error in one of the special
commands ends the script; an error in any other one is no more than a failure of the command.
-/
import SymbolAtlas.Shell.Builtin.Jobs
import SymbolAtlas.Shell.Format

namespace SymbolAtlas.Shell

namespace Builtin

/-! ## Output and conditions -/

/-- Prints arguments by a format. -/
def printf (arguments : List Text) : Run Unit := do
  match ← takeOptions [] [] arguments with
  | (_, []) => fail "usage: printf format [arg ...]".toList
  | (_, format :: operands) =>
    let pass := Format.printf format operands
    for warning in pass.warnings do complainHere warning.toList
    put 1 pass.text
    setStatus (if pass.warnings.isEmpty then 0 else 1)
    match pass.stop with
    | .failure message => fail message.toList
    | _ => pure ()

/-- Sets the status that a condition gives. -/
def test (arguments : List Text) : Run Unit := do
  match Condition.holds (← get).workspace arguments with
  | .ok holds => setStatus (if holds then 0 else 1)
  | .error mistake => fail mistake.message

/-- Sets the status that a condition in brackets gives. -/
def bracket (arguments : List Text) : Run Unit :=
  if arguments.getLast? == some [']'] then test arguments.dropLast else fail "missing ]".toList

/-! ## The working directory -/

/-- A path from the top of the tree, where steps upwards are taken back by name. -/
def joinedPath (directory path : Text) : Text :=
  let whole := if Workspace.isAbsolute path then path else directory ++ '/' :: path
  Workspace.pathOf (Workspace.normalize (Workspace.names whole))

/-- Whether a path is sought below the directories of a search path. -/
def isSoughtElsewhere (path : Text) : Bool :=
  match Workspace.names path with
  | first :: _ =>
    !Workspace.isAbsolute path && first != Workspace.selfName && first != Workspace.parentName
  | [] => false

/-- Changes the working directory to a path. -/
def enter (path : Text) (physical : Bool) : Run Bool := do
  let state ← get
  let logical := joinedPath state.directory path
  let sought := Octets.toText (if physical then path else logical)
  match state.workspace.locate sought, state.workspace.stat sought with
  | .ok place, .ok .directory =>
    let reached := if physical then Octets.ofText (Workspace.pathOf place) else logical
    set { state with
      workspace := { state.workspace with directory := place }
      directory := reached }
    let exported (value : Text) : Option Variable := some { value := some value, exported := true }
    modify (State.withVariable · "OLDPWD".toList (exported state.directory))
    modify (State.withVariable · "PWD".toList (exported reached))
    return true
  | _, _ => return false

/-- Changes the working directory: to the home directory, back to the one before, or to a path,
which is also sought below the directories of a search path. -/
def changeDirectory (arguments : List Text) : Run Unit := do
  let (options, operands) ← takeOptions ['L', 'P'] [] arguments
  let physical := options.getLast?.any (·.1 == 'P')
  let state ← get
  let value (name : String) : Text := (state.valueOf? name.toList).getD []
  let back := operands.head? == some ['-']
  let path := if back then value "OLDPWD" else operands.headD (value "HOME")
  let path := if path.isEmpty then Workspace.selfName else path
  let above := if isSoughtElsewhere path && !(value "CDPATH").isEmpty then
      (value "CDPATH").splitOn ':' ++ [[]]
    else [[]]
  for directory in above do
    if ← enter (pathIn directory path) physical then
      if back || !directory.isEmpty then put 1 ((← get).directory ++ ['\n'])
      return ← setStatus 0
  fail ("can't cd to ".toList ++ path)

/-- Prints the working directory. -/
def printDirectory (arguments : List Text) : Run Unit := do
  let (options, _) ← takeOptions ['L', 'P'] [] arguments
  let state ← get
  let physical := options.getLast?.any (·.1 == 'P')
  let place := Octets.ofText (Workspace.pathOf state.workspace.directory)
  print ((if physical then place else state.directory) ++ ['\n'])

/-! ## Scripts within scripts -/

/-- Runs arguments as a script. -/
def eval (perform : Performer) (arguments : List Text) : Run Unit :=
  perform (.script 1 ([' '].intercalate arguments))

/-- Runs a file as a part of the script. A name without a slash is sought in the search path. -/
def source (perform : Performer) (arguments : List Text) : Run Unit := do
  match ← takeOptions [] [] arguments with
  | (_, []) => setStatus 0
  | (_, name :: _) =>
    let state ← get
    let isFile (path : Text) : Bool :=
      state.workspace.stat (Octets.toText path) matches .ok (.file ..)
    let paths := if '/' ∈ name then [name]
      else ((searchPath (state.valueOf? "PATH".toList)).map (pathIn · name)).filter isFile
    match paths with
    | [] => fail (name ++ ": not found".toList)
    | path :: _ =>
      match state.workspace.stat (Octets.toText path) with
      | .ok (.file content _) =>
        set { state with context := path, tested := false }
        let body : Run Unit := do
          try perform (.script 1 (Octets.ofBytes content.bytes))
          catch
            | .returned status => setStatus status
            | escape => throw escape
        followedBy body (modify ({ · with context := state.context, tested := state.tested }))
      | _ => fail ("cannot open ".toList ++ path ++ ": No such file".toList)

/-- Puts a program in the place of the shell. -/
def exec (perform : Performer) (arguments : List Text) : Run Unit := do
  if arguments.isEmpty then setStatus 0
  else
    let loaded := (← loadFromScript (arguments.headD [])) matches .ok _
    launch perform true arguments
    if loaded then modify ({ · with traps := [] })
    throw (.exit (← get).status)

/-! ## Leaving -/

/-- The status that an argument tells, or the one of the last command. -/
def statusOf (arguments : List Text) : Run Nat := do
  match arguments with
  | status :: _ => countOf status
  | [] => return (← get).status

/-- Ends the shell; inside of a trap without an argument, with the status before the trap. -/
def exit (arguments : List Text) : Run Unit := do
  let status ← match arguments, (← get).resumed with
    | [], some status => pure status
    | _, _ => statusOf arguments
  throw (.exit (status % 256))

/-- Leaves so many loops as an argument tells, but not more than there are. -/
def leaveLoops (escape : Nat → Escape) (arguments : List Text) : Run Unit := do
  let count ← match arguments with
    | count :: _ => countOf count
    | [] => pure 1
  if count = 0 then fail "Illegal number: 0".toList
  setStatus 0
  let loops := (← get).loops
  if loops != 0 then throw (escape (min count loops))

end Builtin

/-! ## The table of commands -/

/-- The commands of the shell by name. -/
def builtins (perform : Performer) : List (String × (List Text → Run Unit)) :=
  let nothing : List Text → Run Unit := fun _ => setStatus 0
  [(".", Builtin.source perform), (":", nothing), ("[", Builtin.bracket),
    ("break", Builtin.leaveLoops .leave), ("cd", Builtin.changeDirectory),
    ("chdir", Builtin.changeDirectory), ("continue", Builtin.leaveLoops .again),
    ("echo", fun arguments => print (Format.echo arguments)), ("eval", Builtin.eval perform),
    ("exec", Builtin.exec perform), ("exit", Builtin.exit), ("export", Builtin.exportVariables),
    ("false", fun _ => setStatus 1), ("kill", Builtin.kill perform),
    ("local", Builtin.localVariables), ("printf", Builtin.printf), ("pwd", Builtin.printDirectory),
    ("read", Builtin.readLine), ("readonly", Builtin.protectVariables),
    ("return", fun arguments => do throw (.returned (← Builtin.statusOf arguments))),
    ("set", Builtin.setOptions), ("shift", Builtin.shift), ("test", Builtin.test),
    ("trap", Builtin.trap), ("true", nothing), ("unset", Builtin.unset), ("wait", Builtin.wait)]

/-- The command that looks other commands up, and is not in the table for that reason. -/
def lookupCommand : String := "command"

/-- Whether a name is one of a special command. -/
def isSpecial (name : Text) : Bool := String.ofList name ∈ specialCommands

/-- Whether a name is one of a command of the shell. -/
def isBuiltin (name : Text) : Bool :=
  let name := String.ofList name
  name == lookupCommand || (builtins fun _ => pure ()).any (·.1 == name)

namespace Builtin

/-! ## Looking commands up -/

/-- The shortest form in which a command can be called, if there is one. -/
def found? (state : State) (name : Text) : Option Text :=
  let isOwn := String.ofList name ∈ keywords || isSpecial name || isBuiltin name ||
    (state.functions.lookup name).isSome
  if isOwn then some name
  else if '/' ∈ name then
    if state.workspace.stat (Octets.toText name) matches .ok _ then some name else none
  else
    let directories := (searchPath (state.valueOf? "PATH".toList)).map Octets.toText
    (find? state.workspace directories (Octets.toText name)).map Octets.ofText

/-- Says what a command is; a command that is to be run is found elsewhere. -/
def command (arguments : List Text) : Run Unit := do
  let (_, operands) ← takeOptions ['p', 'v'] [] arguments
  setStatus 0
  for name in operands.take 1 do
    match found? (← get) name with
    | some text => put 1 (text ++ ['\n'])
    | none => setStatus 127

end Builtin

/-- What a command of the shell does; `none` if there is no such command. -/
def builtin? (perform : Performer) (name : Text) : Option (List Text → Run Unit) :=
  let name := String.ofList name
  if name == lookupCommand then some Builtin.command else (builtins perform).lookup name

end SymbolAtlas.Shell
