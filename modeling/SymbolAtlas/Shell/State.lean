/-
# SymbolAtlas.Shell.State — the state of a script and the steps on it

A script has variables, functions, options and traps, and descriptors that lead to what it prints
and reads. Time passes only while a script sleeps; a job in the background ends at a time of its
own, and what it prints is put in when that time has come. A step can be left early: by `exit`, by
an error, by a signal, because time is over, or to end a round of a loop or the call of a function.
-/
import SymbolAtlas.Settings
import SymbolAtlas.Shell.Command
import SymbolAtlas.Shell.Flag
import SymbolAtlas.Shell.Octets
import SymbolAtlas.Workspace.Tree

namespace SymbolAtlas.Shell

/-! ## Parts of a state -/

/-- Where a descriptor leads. -/
inductive Channel
  | input (index : Nat)
  | buffer (index : Nat)
  | file (place : List Text)
  | nowhere
  deriving DecidableEq, Repr

/-- A variable of a script. One that has no value can still be marked for export. -/
structure Variable where
  value : Option Text := none
  exported : Bool := false
  readOnly : Bool := false
  deriving Inhabited

/-- A job in the background that has been run up to its end. -/
structure Job where
  number : Nat
  finish : Nat
  status : Nat
  /-- The signal that has ended it before its time. -/
  signal : Option Nat := none
  /-- Whether the shell that runs has started the job itself. -/
  own : Bool := true
  /-- The buffers that stay open as long as the job runs. -/
  holds : List Nat
  /-- Whether the shell has waited for anything since the job has ended. -/
  noticed : Bool := false
  /-- What it has put into each buffer, last first. -/
  printed : List (Nat × List Text)
  /-- The signals that it has sent to the shell. -/
  sent : List Nat

/-- How a command is left before its end. -/
inductive Escape
  | exit (status : Nat)
  /-- An error that ends the shell, unless a command of its own catches it. -/
  | failed (status : Nat)
  | killed (signal : Nat)
  | expired
  /-- So many loops around the command end. -/
  | leave (count : Nat)
  /-- All but the last of so many loops end, and that one goes on with its next round. -/
  | again (count : Nat)
  /-- The call of a function ends. -/
  | returned (status : Nat)

/-- The state of a script. -/
structure State where
  workspace : Workspace
  /-- The working directory as a path that can go through links. -/
  directory : Text := []
  name : Text := []
  arguments : List Text := []
  bindings : List (Text × Variable) := []
  functions : List (Text × Command) := []
  channels : List (Nat × Channel) := []
  /-- The texts that have been put into each buffer, last first. -/
  buffers : Array (List Text) := #[]
  /-- What is left of each input. -/
  inputs : Array Text := #[]
  flags : List Flag := []
  status : Nat := 0
  /-- The status of the last script whose output was put into the command that runs. -/
  outputStatus : Nat := 0
  /-- Whether the failure of the command that runs is looked at. -/
  tested : Bool := false
  /-- The line of the command that runs, and what messages name besides: the command of the shell
  that runs, or the file that is read. -/
  line : Nat := 1
  context : Text := []
  /-- The number of loops around the command that runs. -/
  loops : Nat := 0
  /-- The variables to restore when the call of a function ends; `none` outside of functions. -/
  saved : Option (List (Text × Option Variable)) := none
  /-- What is run when a signal comes; zero stands for the end of the script. -/
  traps : List (Nat × Text) := []
  /-- The number of shells around the one that runs, up to the one that counts as the process, and
  the signals that have been sent to that one. -/
  depth : Nat := 0
  pending : List Nat := []
  /-- The status to which a trap goes back when it ends. -/
  resumed : Option Nat := none
  jobs : List Job := []
  /-- The number of jobs that have been started, and the last one of the shell that runs. -/
  started : Nat := 0
  lastJob : Option Nat := none
  /-- The time that has passed and the time at which the script is stopped, in microseconds. -/
  clock : Nat := 0
  deadline : Option Nat := none
  /-- The number of commands that may still be run. -/
  budget : Nat

/-- Whether an option is set. -/
def State.has (state : State) (flag : Flag) : Bool := state.flags.contains flag

/-- A step of a script. -/
abbrev Run := ExceptT Escape (StateM State)

/-! ## Status and variables -/

/-- Sets the exit status. -/
def setStatus (status : Nat) : Run Unit := modify ({ · with status := status })

/-- Whether the last command has succeeded. -/
def succeeded : Run Bool := return (← get).status = 0

/-- The variable of a name. -/
def State.variable (state : State) (name : Text) : Variable :=
  (state.bindings.lookup name).getD {}

/-- The value of a variable; `none` if it is not set. -/
def State.valueOf? (state : State) (name : Text) : Option Text := (state.variable name).value

/-- The state with another variable of a name. -/
def State.withVariable (state : State) (name : Text) (entry : Option Variable) : State :=
  let others := state.bindings.filter (·.1 != name)
  { state with
    bindings := match entry with
      | some entry => (name, entry) :: others
      | none => others }

/-- The environment that programs see. -/
def State.environment (state : State) : List (Text × Text) :=
  state.bindings.filterMap fun (name, v) =>
    if v.exported then v.value.map fun value => (name, value) else none

/-! ## Output -/

/-- Appends bytes to the file at a place. -/
def appendTo (ws : Workspace) (place : List Text) (bytes : List UInt8) : Workspace :=
  match ws.node? place with
  | some (.file content executable) =>
    ws.insert place (.file (Content.ofBytes (content.bytes ++ bytes)) executable)
  | some _ => ws
  | none => ws.insert place (.file (Content.ofBytes bytes) false)

/-- Writes a text to a descriptor. -/
def put (descriptor : Nat) (text : Text) : Run Unit :=
  if text.isEmpty then pure ()
  else modify fun state =>
    match state.channels.lookup descriptor with
    | some (.buffer index) => { state with buffers := state.buffers.modify index (text :: ·) }
    | some (.file place) =>
      { state with workspace := appendTo state.workspace place (Octets.toBytes text) }
    | _ => state

/-- Prints a text and succeeds. -/
def print (text : Text) : Run Unit := do
  put 1 text
  setStatus 0

/-- Writes a message to the descriptor for diagnostics. -/
def complain (message : Text) : Run Unit := put 2 (message ++ ['\n'])

/-- Writes a message about the command that runs. -/
def complainHere (message : Text) : Run Unit := do
  let state ← get
  let context := if state.context.isEmpty then [] else state.context ++ ": ".toList
  complain (state.name ++ ": ".toList ++ Octets.decimal state.line ++ ": ".toList ++ context ++
    message)

/-- Reports an error that ends the shell, unless a command of its own catches it. -/
def fail {α : Type} (message : Text) : Run α := do
  complainHere message
  throw (.failed 2)

/-- Sets a variable to a value. -/
def setVariable (name value : Text) : Run Unit := do
  let state ← get
  let entry := state.variable name
  if entry.readOnly then fail (name ++ ": is read only".toList)
  set (state.withVariable name (some
    { entry with value := some value, exported := entry.exported || state.has .exportAll }))

/-- Points a descriptor to a channel. -/
def point (descriptor : Nat) (channel : Channel) : Run Unit :=
  modify fun state =>
    { state with
      channels := (descriptor, channel) :: state.channels.filter (·.1 != descriptor) }

/-- Closes a descriptor. -/
def close (descriptor : Nat) : Run Unit :=
  modify fun state => { state with channels := state.channels.filter (·.1 != descriptor) }

/-! ## Input -/

/-- Gives an input to read from. -/
def newInput (text : Text) : Run Channel := do
  let index := (← get).inputs.size
  modify fun state => { state with inputs := state.inputs.push text }
  return .input index

/-- What can still be read from a descriptor. -/
def State.inputOf (state : State) (descriptor : Nat) : Text :=
  match state.channels.lookup descriptor with
  | some (.input index) => state.inputs[index]?.getD []
  | _ => []

/-- Leaves a text to be read from a descriptor. -/
def leaveInput (descriptor : Nat) (text : Text) : Run Unit :=
  modify fun state =>
    match state.channels.lookup descriptor with
    | some (.input index) => { state with inputs := state.inputs.modify index fun _ => text }
    | _ => state

/-- Takes all that can be read from the standard input. -/
def takeInput : Run Text := do
  let text := (← get).inputOf 0
  leaveInput 0 []
  return text

/-! ## Time and jobs -/

/-- Puts what a job has printed into the buffers, and its signals among those that are pending. -/
def State.deliver (state : State) (job : Job) : State :=
  { state with
    pending := state.pending ++ job.sent
    buffers := job.printed.foldl (fun buffers (index, texts) =>
      buffers.modify index fun earlier => texts ++ earlier) state.buffers }

/-- Puts in what the jobs have printed and sent that have ended by now. -/
def deliverDue : Run Unit :=
  modify fun state =>
    let due := (state.jobs.filter fun job => job.finish ≤ state.clock && !job.noticed).mergeSort
      fun a b => a.finish ≤ b.finish
    let jobs := state.jobs.map fun job =>
      if job.finish ≤ state.clock then { job with noticed := true, printed := [], sent := [] }
      else job
    due.foldl State.deliver { state with jobs := jobs }

/-- Lets time pass; the limit may be over then. -/
def elapse (duration : Nat) : Run Unit := do
  modify fun state => { state with clock := state.clock + duration }
  deliverDue
  let state ← get
  if state.deadline.any (· ≤ state.clock) then throw .expired

/-- Lets the time pass up to the end of a job. -/
def awaitEnd (job : Job) : Run Unit := do
  let now := (← get).clock
  elapse (job.finish - now)

/-- Waits for the jobs whose output goes to a buffer. -/
def awaitBuffer (index : Nat) : Run Unit := do
  for job in (← get).jobs do
    if index ∈ job.holds then awaitEnd job

/-- Counts a command; a script that runs too many of them counts as one that never ends. -/
def countCommand : Run Unit := do
  let state ← get
  if state.budget = 0 then throw .expired
  set { state with budget := state.budget - 1 }

/-! ## Steps around steps -/

/-- Runs a step and then another one, even if the first one is left early. -/
def followedBy {α : Type} (body : Run α) (last : Run Unit) : Run α := do
  let result ← try body
    catch escape =>
      last
      throw escape
  last
  return result

/-- The state without what grows, to be restored later. -/
def State.frame (state : State) : State := { state with buffers := #[], inputs := #[] }

/-- A state restored, except for the effects on files, what is printed and read, the status and the
time. -/
def State.restore (frame after : State) : State :=
  { frame with
    workspace := { after.workspace with directory := frame.workspace.directory }
    buffers := after.buffers
    inputs := after.inputs
    status := after.status % 256
    pending := after.pending
    jobs := after.jobs.map fun job =>
      { job with own := job.own && frame.jobs.any (·.number == job.number) }
    started := after.started
    clock := after.clock
    budget := after.budget }

/-- The status with which a shell ends that is left in this way; `none` if more than the shell is
left. -/
def Escape.status? (current : Nat) : Escape → Option Nat
  | .exit status | .failed status | .returned status => some status
  | .leave _ | .again _ => some current
  | .killed _ | .expired => none

/-- Runs a step to the end of the shell that it runs in. -/
def toEnd (body : Run Unit) : Run Unit := do
  try body
  catch escape =>
    match escape.status? (← get).status with
    | some status => setStatus status
    | none => throw escape

/-- Runs a step so that only its effects on files, its output, its status and its time remain. -/
def isolated (body : Run Unit) : Run Unit := do
  let frame := (← get).frame
  followedBy (toEnd body) (modify frame.restore)

/-- Runs a step and gives what it prints. -/
def captured (body : Run Unit) : Run Text := do
  let index := (← get).buffers.size
  modify fun state => { state with buffers := state.buffers.push [] }
  isolated do
    point 1 (.buffer index)
    body
  awaitBuffer index
  let texts := (← get).buffers[index]?.getD []
  modify fun state => { state with buffers := state.buffers.shrink index }
  return texts.reverse.flatten

/-- Runs a step whose failure is looked at. -/
def tested (body : Run Unit) : Run Unit := do
  let before := (← get).tested
  modify ({ · with tested := true })
  followedBy body (modify ({ · with tested := before }))

/-- Runs a step whose failure ends the script if it is not looked at. -/
def checked (body : Run Unit) : Run Unit := do
  body
  let state ← get
  if state.has .exitOnError && !state.tested && state.status != 0 then throw (.exit state.status)

end SymbolAtlas.Shell
