/-
# SymbolAtlas.Shell.Builtin.Jobs — jobs, signals and traps

A job in the background is run at once and on its own; what it prints is kept until the time has
come at which it ends. Waiting for a job lets that time pass, unless a signal has ended the job
before.
-/
import SymbolAtlas.Shell.Builtin.Variables
import SymbolAtlas.Shell.Task

namespace SymbolAtlas.Shell.Builtin

/-! ## Jobs -/

/-- Starts a command in the background. Its standard input is empty. -/
def startJob (perform : Performer) (body : Run Unit) : Run Unit := do
  let before ← get
  let number := before.started + 1
  let emptied := before.buffers.map fun _ => []
  set { before with started := number, buffers := emptied, pending := [], tested := false }
  let signal : Option Nat ← try
      subshell perform do
        point 0 .nowhere
        body
      pure none
    catch
      | .killed signal => pure (some signal)
      | .expired =>
        if before.deadline.isNone then throw .expired
        pure none
      | escape => throw escape
  let after ← get
  let printed := after.buffers.toList.zipIdx.filterMap fun (texts, index) =>
    if texts.isEmpty then none else some (index, texts)
  let holds := before.channels.filterMap fun (_, channel) => match channel with
    | .buffer index => some index
    | _ => none
  let job : Job := {
    number := number
    finish := after.clock
    status := after.status
    signal := signal
    holds := holds
    printed := printed
    sent := after.pending }
  set { after with
    buffers := before.buffers
    clock := before.clock
    tested := before.tested
    pending := before.pending
    jobs := after.jobs ++ [job]
    lastJob := some number
    status := 0 }

/-- The exit status of a job. -/
def Job.exitStatus (job : Job) : Nat :=
  match job.signal with
  | some signal => 128 + signal
  | none => job.status

/-- The job of a process. -/
def jobOf? (state : State) (process : Nat) : Option Job :=
  state.jobs.find? fun job => job.own && processNumber + job.number = process

/-- Waits for a process, if it is a job. A signal that ends a job is reported to those who wait. -/
def waitFor (process : Nat) : Run Unit := do
  match jobOf? (← get) process with
  | none => setStatus 127
  | some job =>
    let now := (← get).clock
    awaitEnd job
    let seen := job.noticed || (job.signal.isSome && job.finish < now)
    let report := (job.signal.map Signal.report).getD ""
    if !seen && report != "" then complain report.toList
    setStatus (Job.exitStatus job)

/-- Waits for all jobs, or for those that are named. -/
def wait (arguments : List Text) : Run Unit := do
  let (_, operands) ← takeOptions [] [] arguments
  setStatus 0
  if operands.isEmpty then
    for job in (← get).jobs do
      if job.own then awaitEnd job
  for operand in operands do
    match operand with
    | '%' :: number =>
      match (← get).jobs.find? fun job => job.own && Octets.decimal job.number == number with
      | some job => waitFor (processNumber + job.number)
      | none => fail ("No such job: ".toList ++ operand)
    | _ => waitFor (← countOf operand)

/-! ## Signals -/

/-- Sends a signal to a process: to the shell, or to a job that runs. -/
def send (perform : Performer) (signal process : Nat) : Run Bool := do
  let state ← get
  if process = processNumber then
    if state.depth = 0 then raise perform signal
    else set { state with pending := state.pending ++ [signal] }
    return true
  match jobOf? state process with
  | none => return false
  | some job =>
    if job.finish < state.clock then return false
    let ended : Job := { job with signal := some signal, finish := state.clock, printed := [] }
    if signal ∉ Signal.harmless then
      set { state with
        jobs := state.jobs.map fun (other : Job) =>
          if other.number = job.number then ended else other }
    return true

/-- How `kill` is used. -/
def killUsage : Text :=
  "Usage: kill [-s sigspec | -signum | -sigspec] [pid | job]... or\nkill -l [exitstatus]".toList

/-- Lists the names of all signals, or the name of the one that a status tells of. -/
def listSignals : List Text → Run Unit
  | [] => print ("0\n".toList ++ Signal.table.flatMap fun (_, name, _) => name.toList ++ ['\n'])
  | status :: _ => do
    let number ← countOf status
    let signal := if 128 < number then number - 128 else number
    if signal = 0 || 64 < signal then
      fail ("invalid signal number or exit status: ".toList ++ status)
    print ((Signal.name signal).toList ++ ['\n'])

/-- Sends a signal to processes, or lists signals. -/
def kill (perform : Performer) (arguments : List Text) : Run Unit := do
  let named : Option Nat := match arguments with
    | ('-' :: name) :: _ => Signal.ofText? name
    | _ => none
  let (options, operands) ← match named with
    | some _ => pure ([], arguments.tail)
    | none => takeOptions ['l'] ['s'] arguments
  let listed := options.any (·.1 == 'l')
  let chosen ← match options.lookup 's' with
    | some name =>
      match Signal.ofText? name with
      | some signal => pure (some signal)
      | none => fail ("invalid signal number or name: ".toList ++ name)
    | none => pure named
  if listed then
    if chosen.isSome then fail killUsage
    listSignals operands
  else
    if operands.isEmpty then fail killUsage
    setStatus 0
    for operand in operands do
      let reached ← match operand with
        | '%' :: _ => pure false
        | '-' :: number => do
          let _ ← countOf number
          pure false
        | _ => send perform (chosen.getD 15) (← countOf operand)
      if !reached then
        complainHere "No such process\n".toList
        setStatus 1

/-! ## Traps -/

/-- Sets what is run when signals come, or lists it. An action that is a hyphen, or no action in
front of a signal, takes back what has been set. -/
def trap (arguments : List Text) : Run Unit := do
  let (_, operands) ← takeOptions [] [] arguments
  match operands with
  | [] =>
    let traps := (← get).traps.mergeSort fun a b => a.1 ≤ b.1
    print (traps.flatMap fun (signal, action) =>
      "trap -- ".toList ++ written action ++ ' ' :: (Signal.name signal).toList ++ ['\n'])
  | first :: rest =>
    let isSignal := rest.isEmpty || (Octets.isNumber first && (Signal.ofText? first).isSome)
    let (action, names) : Option Text × List Text :=
      if isSignal then (none, operands)
      else (if first == ['-'] then none else some first, rest)
    setAll action names
where
  /-- Sets an action for signals, up to the first name that is not one of a signal. -/
  setAll (action : Option Text) : List Text → Run Unit
    | [] => setStatus 0
    | name :: names =>
      match Signal.ofText? name with
      | none => do
        complain ("trap: ".toList ++ name ++ ": bad trap".toList)
        setStatus 1
      | some signal => do
        modify fun state =>
          let others := state.traps.filter (·.1 != signal)
          { state with
            traps := match action with
              | some action => (signal, action) :: others
              | none => others }
        setAll action names

end SymbolAtlas.Shell.Builtin
