/-
# SymbolAtlas.Shell.Run — what a script does to a workspace

A script runs to its end, to an `exit`, or to a signal, or it outlives its time limit. The depth of
scripts within scripts and the number of commands are bounded, so `perform` is total; a script that
goes on for too long counts as one that never ends.
-/
import SymbolAtlas.Shell.Builtin
import SymbolAtlas.Shell.Redirection
import SymbolAtlas.Shell.Utility

namespace SymbolAtlas.Shell

/-! ## Simple commands -/

/-- The commands whose arguments are not split where they look like assignments. -/
def declarations : List Text := ["export", "readonly", "local"].map String.toList

/-- Expands words to fields. `declares` says whether the arguments look like assignments to the
command, once the command is known. -/
def expandWords (interpret : Nat → Text → Run Unit) : (declares : Option Bool) → List Word →
    Run (List Text)
  | _, [] => return []
  | declares, w :: rest => do
    let fields ← match declares, w.assignment? with
      | some true, some (name, value) =>
        pure [name ++ '=' :: (← value.text interpret)]
      | _, _ => w.fields interpret
    let declares := match declares, fields with
      | none, first :: _ =>
        if first == "command".toList then none else some (declarations.contains first)
      | _, _ => declares
    return fields ++ (← expandWords interpret declares rest)

/-- The fields of a command without the words that say that no function takes its place, and whether
there are such words. -/
def withoutBare (bare : Bool) : List Text → List Text × Bool
  | [] => ([], bare)
  | word :: rest =>
    let isMark (word : Text) : Bool := word == ['-', '-'] || word == ['-', 'p']
    if word == "command".toList then
      match rest with
      | [] => ([word], bare)
      | next :: _ =>
        if next.head? == some '-' && !isMark next then (word :: rest, bare)
        else withoutBare true rest
    else if bare && isMark word then withoutBare bare rest
    else (word :: rest, bare)

/-- What a name stands for. -/
inductive Target
  | nothing
  | function (body : Command)
  /-- A command of the shell. An error in a special one ends the shell. -/
  | builtin (isSpecial : Bool) (body : List Text → Run Unit)
  | program

/-- What the name in front of fields stands for; a bare one does not stand for a function. -/
def targetOf (perform : Performer) (state : State) (bare : Bool) : List Text → Target
  | [] => .nothing
  | name :: _ =>
    match if bare then none else state.functions.lookup name, builtin? perform name with
    | some body, _ => .function body
    | none, some body => .builtin (isSpecial name && !bare) body
    | none, none => .program

/-- Calls a function. -/
def callFunction (perform : Performer) (body : Command) (arguments : List Text) : Run Unit := do
  let before ← get
  set { before with arguments := arguments, loops := 0, saved := some [] }
  let finish : Run Unit := modify fun state =>
    let state := (state.saved.getD []).foldl (fun state (name, entry) =>
      state.withVariable name entry) state
    { state with
      arguments := before.arguments
      loops := before.loops
      saved := before.saved }
  let call : Run Unit := do
    try perform (.command body)
    catch
      | .returned status => setStatus status
      | escape => throw escape
  followedBy call finish

/-- Runs a command of the shell under its name. An error in one that is not special only fails. -/
def runBuiltin (isSpecial : Bool) (fields : List Text) (body : List Text → Run Unit) :
    Run Unit := do
  let context := (← get).context
  modify ({ · with context := fields.headD [] })
  let run : Run Unit := do
    try body fields.tail
    catch
      | .failed status => if isSpecial then throw (.failed status) else setStatus status
      | escape => throw escape
  followedBy run (modify ({ · with context := context }))

/-- Sets variables for the time in which a step runs. They are exported. -/
def withVariables (assignments : List (Text × Text)) (body : Run Unit) : Run Unit := do
  if assignments.isEmpty then body
  else
    let before := (← get).bindings
    for (name, value) in assignments do
      setVariable name value
      modify fun state =>
        state.withVariable name (some { state.variable name with exported := true })
    followedBy body <| modify fun state =>
      assignments.foldl (fun state (name, _) => state.withVariable name (before.lookup name)) state

/-- Reports a command before it is run. -/
def trace (channels : List (Nat × Channel)) (assignments : List (Text × Text))
    (fields : List Text) : Run Unit := do
  let state ← get
  if state.has .trace then
    let mark := (state.valueOf? "PS4".toList).getD []
    let texts := assignments.map (fun (name, value) => name ++ '=' :: value) ++ fields
    set { state with channels := channels }
    complain (mark ++ Format.joined texts)
    modify ({ · with channels := state.channels })

/-- Runs a simple command: assignments, a function, a command of the shell, or a program. Where no
word is left behind the assignments, the status is that of the last script that ran for them. -/
def simple (perform : Performer) (assignments : List (Text × Word)) (words : List Word)
    (redirects : List Redirect) : Run Unit := do
  let interpret := interpretApart perform
  modify ({ · with outputStatus := 0 })
  let (fields, bare) := withoutBare false (← expandWords interpret none words)
  let state ← get
  let target := targetOf perform state bare fields
  let kept := fields == ["exec".toList] && target matches .builtin ..
  let failure : Run Unit := do
    if target matches .builtin true _ then throw (.failed 2)
    setStatus 2
  let body : Run Unit := do
    let values ← assignments.mapM fun (name, value) => do
      let value ← value.text interpret
      if target matches .nothing then setVariable name value
      return (name, value)
    trace state.channels values fields
    match target with
    | .nothing => modify fun state => { state with status := state.outputStatus }
    | .function body => withVariables values (callFunction perform body fields.tail)
    | .builtin true body =>
      for (name, value) in values do setVariable name value
      runBuiltin true fields body
    | .builtin false body => withVariables values (runBuiltin false fields body)
    | .program => withVariables values (launchAndWait perform fields)
  redirected interpret redirects kept body failure

/-! ## Compound commands -/

/-- Runs a round of a loop, which says whether the loop goes on unless it is left early. -/
def round (body : Run Bool) : Run Bool := do
  try body
  catch
    | .leave count => if count ≤ 1 then return false else throw (.leave (count - 1))
    | .again count => if count ≤ 1 then return true else throw (.again (count - 1))
    | escape => throw escape

/-- Runs a step inside of one more loop. -/
def inLoop (body : Run Unit) : Run Unit := do
  modify fun state => { state with loops := state.loops + 1 }
  followedBy body (modify fun state => { state with loops := state.loops - 1 })

/-- Runs a body as long as a condition is met, at most so many times. `last` is the status of the
body in the round before. -/
def rounds (condition : Run Bool) (body : Run Unit) : (limit last : Nat) → Run Unit
  | 0, _ => throw .expired
  | limit + 1, last => do
    let goesOn ← round do
      let met ← condition
      if met then body else setStatus last
      return met
    if goesOn then rounds condition body limit (← get).status

/-- Runs one command behind another one, whose output is its input. Both run at the same time. -/
def piped (perform : Performer) (first second : Run Unit) : Run Unit := do
  let start := (← get).clock
  let size := (← get).inputs.size
  let text ← captured (subshell perform first)
  let done := (← get).clock
  modify ({ · with clock := start })
  isolated do
    point 0 (← newInput text)
    subshell perform second
  modify fun state =>
    { state with clock := max done state.clock, inputs := state.inputs.shrink size }

/-- The body of the first clause with a pattern that a text is matched by. -/
def selected (interpret : Nat → Text → Run Unit) (text : Text) :
    List (List Word × Command) → Run (Option Command)
  | [] => return none
  | (patterns, body) :: rest => do
    if ← patterns.anyM fun w => return (← w.pattern interpret).matchesText text then
      return some body
    selected interpret text rest

/-- Runs a command. What is not a part of the command itself goes through `perform`. -/
def evaluate (perform : Performer) : Command → Run Unit
  | .nothing => pure ()
  | .simple line assignments words redirects => do
    countCommand
    modify ({ · with line := line })
    if !(← get).has .noRun then
      checked do
        simple perform assignments words redirects
        raisePending perform
  | .sequence first second => do
    evaluate perform first
    evaluate perform second
  | .background body => Builtin.startJob perform (evaluate perform body)
  | .both first second => do
    tested (evaluate perform first)
    if ← succeeded then evaluate perform second
  | .either first second => do
    tested (evaluate perform first)
    if !(← succeeded) then evaluate perform second
  | .negation body => do
    tested (evaluate perform body)
    setStatus (if ← succeeded then 1 else 0)
  | .pipe first second => checked do
    piped perform (evaluate perform first) (evaluate perform second)
    raisePending perform
  | .branch condition yes no => do
    tested (evaluate perform condition)
    if ← succeeded then evaluate perform yes
    else if no matches .nothing then setStatus 0
    else evaluate perform no
  | .loop condition body wanted => do
    let met : Run Bool := do
      tested (evaluate perform condition)
      return (← succeeded) == wanted
    let limit := (← get).budget + 1
    inLoop (rounds met (evaluate perform body) limit 0)
  | .each line name items body => do
    modify ({ · with line := line })
    let values ← match items with
      | some items => expandWords (interpretApart perform) (some false) items
      | none => pure (← get).arguments
    if values.isEmpty then setStatus 0
    inLoop do
      for value in values do
        countCommand
        setVariable name value
        let goesOn ← round do
          evaluate perform body
          return true
        if !goesOn then return
  | .select line subject clauses => do
    modify ({ · with line := line })
    let text ← subject.text (interpretApart perform)
    match ← selected (interpretApart perform) text clauses with
    | none | some .nothing => setStatus 0
    | some body => perform (.command body)
  | .subshell body => checked do
    subshell perform (evaluate perform body)
    raisePending perform
  | .redirected line body redirects => do
    modify ({ · with line := line })
    redirected (interpretApart perform) redirects false (evaluate perform body) (setStatus 2)
  | .define name body => do
    modify fun state =>
      { state with functions := (name, body) :: state.functions.filter (·.1 != name), status := 0 }

/-! ## Scripts -/

/-- Runs the commands of a script that begins on a line, one complete command after the other. A
script without commands succeeds. -/
def interpret (perform : Performer) (first : Nat) (script : Text) : Run Unit := do
  let all := lexemes first script
  runLines (lastLine first script) (all.length + 1) true all
where
  /-- Runs the commands that lexemes spell. Each step takes at least one lexeme. -/
  runLines (last : Nat) : (fuel : Nat) → (fresh : Bool) → List Lexeme → Run Unit
    | 0, _, _ | _, false, [] => pure ()
    | _, true, [] => setStatus 0
    | fuel + 1, fresh, lexemes => do
      match readLine last lexemes with
      | .error e =>
        modify ({ · with line := e.line })
        fail s!"Syntax error: {e.fault.message}".toList
      | .ok (.nothing, rest) => runLines last fuel fresh rest
      | .ok (body, rest) =>
        if !(← get).has .noRun then evaluate perform body
        runLines last fuel false rest

/-! ## Processes -/

/-- Runs the shell as a program: a script that is an argument, a file, or the standard input. -/
def shell (perform : Performer) (arguments : List Text) : Run Unit := do
  modify ({ · with line := 0 })
  let (asked, operands) ← Builtin.takeFlags true arguments
  let run (name : Text) (arguments : List Text) (script : Text) : Run Unit := do
    modify ({ · with name := name, arguments := arguments, line := 1, status := 0 })
    perform (.script 1 script)
  let name := (← get).name
  match asked, operands with
  | true, [] => fail "-c requires an argument".toList
  | true, script :: rest => run (rest.headD name) rest.tail script
  | false, file :: rest =>
    if (← get).has .fromInput then run name operands (← takeInput)
    else match (← get).workspace.stat (Octets.toText file) with
      | .ok (.file content _) => run file rest (Octets.ofBytes content.bytes)
      | .ok _ => setStatus 0
      | .error e => cannot "open" file (LookupError.reasonOr "No such file" e)
  | false, [] =>
    Builtin.setFlag .fromInput true
    run name [] (← takeInput)

/-- The variables that a shell begins with: those that it has been given, the directory, and some
that have values of their own. -/
def initialVariables (state : State) : List (Text × Variable) :=
  let directory := Octets.ofText (Workspace.pathOf state.workspace.directory)
  let own : List (String × Text) :=
    [("IFS", [' ', '\t', '\n']), ("PS1", "# ".toList), ("PS2", "> ".toList),
      ("PS4", "+ ".toList), ("PPID", Octets.decimal (processNumber - 1 : Nat))]
  let own := own.map fun (name, value) => (name.toList, { value := some value : Variable })
  let directories := "/usr/local/sbin:/usr/local/bin:/usr/sbin:/usr/bin:/sbin:/bin".toList
  let path := ("PATH".toList, { value := some directories : Variable })
  let given := state.bindings.filter fun (name, entry) =>
    entry.exported && isName name && (own.lookup name).isNone
  let defaults := if (given.lookup path.1).isSome then own else path :: own
  let place := ("PWD".toList, { value := some directory, exported := true : Variable })
  place :: given.filter (·.1 != place.1) ++ defaults

/-- Runs a loaded program in a process of its own, under the name that it is called by. -/
def execute (perform : Performer) (words : List Text) (loaded : Loaded) : Run Unit := do
  let before ← get
  let arguments := loaded.front.map Octets.ofText ++ words.tail
  let name := match loaded.caller with
    | some caller => Octets.ofText caller
    | none => words.headD []
  let isShell := loaded.program == shellName
  let body : Run Unit := do
    modify fun state =>
      { state with
        name := name
        directory := Octets.ofText (Workspace.pathOf state.workspace.directory)
        arguments := []
        bindings := if isShell then initialVariables state
          else state.bindings.filter (·.2.exported)
        functions := []
        flags := []
        tested := false
        context := []
        loops := 0
        saved := none
        traps := state.traps.filter (·.2.isEmpty)
        depth := 0
        pending := []
        resumed := none
        lastJob := none }
    if isShell then untilEnd perform (shell perform arguments)
    else systemProgram perform loaded.program arguments
  followedBy (isolated body) <| modify fun state =>
    { state with pending := before.pending ++ state.pending }

/-- Does what is asked for, through at most so many scripts within scripts. -/
def perform : (depth : Nat) → Performer
  | 0, _ => throw (.killed 11)
  | depth + 1, .script line text => interpret (perform depth) line text
  | depth + 1, .command body => evaluate (perform depth) body
  | depth + 1, .process words loaded => execute (perform depth) words loaded

/-- How a process ends. -/
inductive Ending
  | exited (status : Nat)
  | killed (signal : Nat)
  | expired
  deriving DecidableEq, Repr

/-- The greatest number of scripts within scripts. A script that goes deeper breaks down. -/
def maxDepth : Nat := 2000

/-- The number of commands after which a process counts as one that never ends. -/
def maxCommands : Nat := 300000

/-- The time that a program takes to start, in microseconds. -/
def startTime : Nat := 1000

/-- What a process leaves behind: its ending, what it has printed, its diagnostics, and the
workspace. -/
structure Trace where
  ending : Ending
  output : List UInt8
  errors : List UInt8
  workspace : Workspace

/-- Runs a loaded program as a process of its own. Its output ends when no job keeps it open. -/
def runProcess (ws : Workspace) (env : Environment) (deadline : Option Nat) (command : List Text)
    (loaded : Loaded) : Trace :=
  let bindings := env.foldr (fun (name, value) others =>
    (Octets.ofText name, { value := some (Octets.ofText value), exported := true : Variable }) ::
      others.filter (·.1 != Octets.ofText name)) []
  let start : State := {
    workspace := ws
    bindings := bindings
    channels := [(0, .nowhere), (1, .buffer 0), (2, .buffer 1)]
    buffers := #[[], []]
    deadline := deadline
    budget := maxCommands }
  let process : Run Unit := do
    elapse startTime
    execute (perform maxDepth) (command.map Octets.ofText) loaded
    awaitBuffer 0
    awaitBuffer 1
  let (result, state) := process.run.run start
  let printed (index : Nat) : List UInt8 :=
    Octets.toBytes (state.buffers[index]?.getD []).reverse.flatten
  let ending := match result with
    | .error (.killed signal) => .killed signal
    | .error .expired => .expired
    | _ => .exited (state.status % 256)
  ⟨ending, printed 0, printed 1, state.workspace⟩

end SymbolAtlas.Shell
