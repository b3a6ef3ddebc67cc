/-
# SymbolAtlas.Shell.Task — what one step asks another one to do

The commands of the shell and the program that starts another one come before the interpreter that
runs them, so they are given a performer, which does what they ask for. Here are also the steps that
every shell takes at its end and for a signal.
-/
import SymbolAtlas.Shell.Launch
import SymbolAtlas.Shell.Signal
import SymbolAtlas.Shell.State

namespace SymbolAtlas.Shell

/-- What can be asked for: a script that begins on a line, a command, or a program in a process of
its own, with its name and arguments. -/
inductive Task
  | script (line : Nat) (text : Text)
  | command (body : Command)
  | process (words : List Text) (loaded : Loaded)

/-- Does what is asked for. -/
abbrev Performer := Task → Run Unit

/-! ## Shells -/

/-- Runs the action of a trap, which leaves the status as it is. -/
def runAction (perform : Performer) (action : Text) : Run Unit := do
  let before ← get
  set { before with resumed := some before.status, tested := false, context := [] }
  followedBy (perform (.script 1 action)) (modify fun state =>
    { state with
      resumed := before.resumed
      tested := before.tested
      context := before.context
      line := before.line })
  setStatus before.status

/-- Runs a shell to its end, and then what it has been told to run at its end. -/
def untilEnd (perform : Performer) (body : Run Unit) : Run Unit := do
  toEnd body
  let state ← get
  match state.traps.lookup 0 with
  | some action =>
    set { state with traps := state.traps.filter (·.1 != 0) }
    let run : Run Unit := do
      try runAction perform action
      catch
        | .returned _ => setStatus state.status
        | escape => throw escape
    toEnd run
  | none => pure ()

/-- Runs a step in a shell of its own, which takes over the signals that are ignored. -/
def subshell (perform : Performer) (body : Run Unit) : Run Unit :=
  isolated do
    modify fun state =>
      { state with traps := state.traps.filter (·.2.isEmpty), depth := state.depth + 1 }
    untilEnd perform body

/-- Runs a script in a shell of its own. -/
def interpretApart (perform : Performer) (line : Nat) (text : Text) : Run Unit :=
  subshell perform (perform (.script line text))

/-- The signal that no trap can catch. -/
def killSignal : Nat := 9

/-- Does what a signal to the shell asks for. -/
def raise (perform : Performer) (signal : Nat) : Run Unit := do
  match (← get).traps.lookup signal with
  | some action =>
    if signal = killSignal then throw (.killed signal)
    if !action.isEmpty then runAction perform action
  | none => if signal ∉ Signal.harmless then throw (.killed signal)

/-- Does what the signals ask for that have come, once the shell that counts as the process runs. -/
def raisePending (perform : Performer) : Run Unit := do
  let state ← get
  if state.depth = 0 && !state.pending.isEmpty then
    set { state with pending := [] }
    for signal in state.pending do raise perform signal

/-! ## Programs -/

/-- The name of the program that runs scripts. -/
def shellName : Text := "dash".toList

/-- Loads the program that a command names in one of the directories of a search path. An executable
file without an interpreter is a script. -/
def loadCommand (path : Option Text) (name : Text) : Run (Except LaunchError Loaded) := do
  let state ← get
  let directories := (searchPath path).map Octets.toText
  let path := Octets.toText name
  match loadNamed state.workspace directories path with
  | .error .notExecutable =>
    let path := if '/' ∈ path then path else (find? state.workspace directories path).getD path
    return .ok { program := shellName, front := [path] }
  | result => return result

/-- Loads the program that a command of a script names. A search path that is not set is empty. -/
def loadFromScript (name : Text) : Run (Except LaunchError Loaded) := do
  loadCommand (some (((← get).valueOf? "PATH".toList).getD [])) name

/-- The exit status that stands for a program that cannot be started. -/
def launchStatus : LaunchError → Nat
  | .noSuchFile | .notADirectory | .tooManyLinks | .nameTooLong => 127
  | _ => 126

/-- Runs a program for a script, which reports that the program cannot be started. A name that is
sought and not found counts as missing, whatever has been found in its place, unless the program is
to replace the shell. -/
def launch (perform : Performer) (replacing : Bool) (words : List Text) : Run Unit := do
  let name := words.headD []
  match ← loadFromScript name with
  | .ok loaded => perform (.process words loaded)
  | .error e =>
    let reason := match e with
      | .noSuchFile | .notADirectory => "not found"
      | other => other.reason
    complainHere (name ++ ": ".toList ++ reason.toList)
    setStatus (if '/' ∈ name || replacing then launchStatus e else 127)

/-- Runs a program and waits for it; a signal that ends it is reported. To start a program takes
longer than what a job does that has not slept, so such a job comes first. -/
def launchAndWait (perform : Performer) (words : List Text) : Run Unit := do
  deliverDue
  try launch perform false words
  catch
    | .killed signal =>
      if Signal.report signal != "" then complain (Signal.report signal).toList
      setStatus (128 + signal)
    | escape => throw escape

end SymbolAtlas.Shell
