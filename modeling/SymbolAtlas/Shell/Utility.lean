/-
# SymbolAtlas.Shell.Utility — the programs of the system

Each program is known by its name: the ones that take paths apart, show files, wait, or print their
arguments, and the one that starts another program under other variables. A message of a program
begins with the name that the program was called by.
-/
import SymbolAtlas.Shell.Format
import SymbolAtlas.Shell.Task

namespace SymbolAtlas.Shell

namespace Utility

/-! ## Messages -/

/-- A text between single quotes, as messages show names. -/
def inQuotes (name : Text) : Text := quoteMark :: name ++ [quoteMark]

/-- Reports a problem under the name of the program, and sets the status. -/
def report (message : Text) (status : Nat := 1) : Run Unit := do
  complain ((← get).name ++ ": ".toList ++ message)
  setStatus status

/-- Reports a wrong use of the program, and says where it is told how the program is used. -/
def misused (message : Text) : Run Unit := do
  let name := (← get).name
  report (message ++ "\nTry ".toList ++ inQuotes (name ++ " --help".toList) ++
    " for more information.".toList)

/-- Reports that the program has too few operands. -/
def missingOperand : Run Unit := misused "missing operand".toList

/-- The arguments behind the mark that ends the options, if they begin with it. -/
def behindMark (arguments : List Text) : List Text :=
  if arguments.head? == some ['-', '-'] then arguments.tail else arguments

/-! ## Parts of paths -/

/-- A text without the slashes at its end. -/
def withoutSlashes (path : Text) : Text := (path.reverse.dropWhile (· == '/')).reverse

/-- The last name of a path. -/
def baseName (path : Text) : Text :=
  let trimmed := withoutSlashes path
  if trimmed.isEmpty then path.take 1
  else (trimmed.reverse.takeWhile (· != '/')).reverse

/-- A name without a suffix, unless nothing would be left of it. -/
def withoutSuffix (suffix name : Text) : Text :=
  if suffix.isSuffixOf name && suffix.length < name.length then
    name.take (name.length - suffix.length)
  else name

/-- A path without its last name. -/
def directoryName (path : Text) : Text :=
  let trimmed := withoutSlashes path
  if trimmed.isEmpty then (if path.isEmpty then ['.'] else ['/'])
  else if '/' ∈ trimmed then
    let above := withoutSlashes (trimmed.reverse.dropWhile (· != '/')).reverse
    if above.isEmpty then ['/'] else above
  else ['.']

/-- Prints the last name of a path. -/
def basename (arguments : List Text) : Run Unit :=
  match behindMark arguments with
  | [] => missingOperand
  | [path] => print (baseName path ++ ['\n'])
  | [path, suffix] => print (withoutSuffix suffix (baseName path) ++ ['\n'])
  | _ :: _ :: extra :: _ => misused ("extra operand ".toList ++ inQuotes extra)

/-- Prints paths without their last names. -/
def dirname (arguments : List Text) : Run Unit :=
  let operands := behindMark arguments
  if operands.isEmpty then missingOperand
  else print (operands.flatMap fun path => directoryName path ++ ['\n'])

/-! ## Files -/

/-- Prints files one after the other, or the standard input. What cannot be read is reported. -/
def cat (arguments : List Text) : Run Unit := do
  let files := arguments.filter fun argument => argument == ['-'] || argument.head? != some '-'
  setStatus 0
  for name in (if files.isEmpty then [['-']] else files) do
    if name == ['-'] || name == "/dev/stdin".toList then put 1 (← takeInput)
    else match (← get).workspace.stat (Octets.toText name) with
      | .ok (.file content _) => put 1 (Octets.ofBytes content.bytes)
      | .ok .directory => report (name ++ ": Is a directory".toList)
      | .ok _ => pure ()
      | .error e => report (name ++ ": ".toList ++ e.reason.toList)

/-! ## Time -/

/-- A decimal number: a whole number and how many of its digits lie behind the point. -/
structure Decimal where
  digits : Int
  places : Nat

/-- The decimal number that a text spells. -/
def Decimal.ofText? (s : Text) : Option Decimal :=
  let (negative, size) := match s with
    | '-' :: rest => (true, rest)
    | '+' :: rest => (false, rest)
    | _ => (false, s)
  let (whole, places) := match size.splitOn '.' with
    | [whole] => (whole, [])
    | [whole, places] => (whole, places)
    | _ => (['?'], [])
  let digits := whole ++ places
  if Octets.isNumber digits then
    let n : Int := Octets.numberOf digits
    some ⟨if negative then -n else n, places.length⟩
  else none

/-- The number scaled to so many places. -/
def Decimal.scaled (d : Decimal) (places : Nat) : Int := d.digits * Int.pow 10 (places - d.places)

/-- A duration as `sleep` reads it, in microseconds. -/
def microseconds? (text : Text) : Option Nat :=
  let (size, unit) : Text × Nat := match text.getLast? with
    | some 's' => (text.dropLast, 1)
    | some 'm' => (text.dropLast, 60)
    | some 'h' => (text.dropLast, 3600)
    | some 'd' => (text.dropLast, 86400)
    | _ => (text, 1)
  (Decimal.ofText? size).bind fun d =>
    if d.digits < 0 then none else some (d.scaled 6 / Int.pow 10 (d.places - 6)).toNat
    |>.map (· * unit)

/-- Waits for the sum of durations. -/
def sleep (durations : List Text) : Run Unit :=
  if durations.isEmpty then missingOperand
  else match durations.find? fun s => (microseconds? s).isNone with
    | some wrong => misused ("invalid time interval ".toList ++ inQuotes wrong)
    | none => do
      elapse ((durations.filterMap microseconds?).foldl (· + ·) 0)
      setStatus 0

/-! ## Formats -/

/-- Prints arguments by a format. -/
def printf : List Text → Run Unit
  | [] => missingOperand
  | format :: arguments => do
    let pass := Format.printf format arguments
    put 1 pass.text
    setStatus (if pass.warnings.isEmpty then 0 else 1)
    for warning in pass.warnings do report warning.toList
    match pass.stop with
    | .failure message => report message.toList
    | _ => pure ()

/-! ## Other variables -/

/-- Runs a program under other variables; without a program the variables are printed. -/
def env (perform : Performer) : List Text → Run Unit
  | [] => do
    print ((← get).environment.flatMap fun (name, value) => name ++ '=' :: value ++ ['\n'])
  | argument :: rest => do
    let name := argument.takeWhile (· != '=')
    match argument.drop name.length with
    | _ :: value =>
      modify (State.withVariable · name (some { value := some value, exported := true }))
      env perform rest
    | [] =>
      match ← loadCommand ((← get).valueOf? "PATH".toList) argument with
      | .ok loaded => perform (.process (argument :: rest) loaded)
      | .error e =>
        report (inQuotes argument ++ ": ".toList ++ e.reason.toList)
          (if e = .noSuchFile || e = .notADirectory then 127 else 126)

end Utility

/-! ## The table of programs -/

/-- The programs of the system by name. -/
def programs (perform : Performer) : List (String × (List Text → Run Unit)) :=
  [("basename", Utility.basename), ("cat", Utility.cat), ("dirname", Utility.dirname),
    ("echo", fun arguments => print (Format.echoProgram arguments)),
    ("env", Utility.env perform), ("false", fun _ => setStatus 1), ("printf", Utility.printf),
    ("pwd", fun _ => do
      print (Octets.ofText (Workspace.pathOf (← get).workspace.directory) ++ ['\n'])),
    ("sleep", Utility.sleep), ("true", fun _ => setStatus 0)]

/-- What a program of the system does. -/
def systemProgram (perform : Performer) (name : Text) (arguments : List Text) : Run Unit :=
  match (programs perform).lookup (String.ofList name) with
  | some body => body arguments
  | none => setStatus 127

end SymbolAtlas.Shell
