/-
# SymbolAtlas.Workspace.Host — a workspace as a host

Questions about files are answered by looking them up in the tree; programs are scripts for the
shell. A program is started before its time limit is looked at, so a missing program is reported
whatever the limit is.
-/
import SymbolAtlas.Host
import SymbolAtlas.Shell.Run

namespace SymbolAtlas

/-! ## Time limits -/

namespace TimeLimit

/-- The longest time that the clock can count, in milliseconds: 2⁶³ - 1 nanoseconds. -/
def clockLimit : Int := (Int.pow 2 63 - 1) / 1000000

/-- The longest time that can be waited for at once, in milliseconds. -/
def waitLimit : Int := Int.pow 2 31 - 1

/-- The error of a limit of so many milliseconds, if the system cannot wait for that long. -/
def error? (milliseconds : Int) : Option LimitError :=
  if clockLimit < milliseconds then some .beyondClock
  else if waitLimit < milliseconds then some .beyondWait
  else none

/-- A finite number times a whole one, rounded down. -/
def multiple (factor : Nat) (seconds : Float) : Int :=
  let (mantissa, exponent) := seconds.frExp
  let product : Int := (mantissa.scaleB 53).toInt64.toInt * factor
  let exponent := exponent - 53
  let scale := Int.pow 2 exponent.natAbs
  if exponent < 0 then product / scale else product * scale

/-- The time in microseconds at which a program is stopped. -/
def deadline : TimeLimit → Except LimitError Nat
  | .whole seconds =>
    if seconds.natAbs ≥ Nat.pow 2 1024 - Nat.pow 2 970 then .error .beyondNumbers
    else match error? (1000 * seconds) with
      | some e => .error e
      | none => .ok (1000000 * seconds).toNat
  | .fractional seconds =>
    if seconds.isNaN then .error .notANumber
    else if seconds.isInf then if seconds < 0 then .ok 0 else .error .infinite
    else match error? (-multiple 1000 (-seconds)) with
      | some e => .error e
      | none => .ok (multiple 1000000 seconds).toNat

end TimeLimit

namespace Workspace

/-! ## Programs -/

/-- The result of a process that has ended, or the failure of one that outlives its limit. -/
def resultOf (command : List Text) (limit : TimeLimit) (trace : Shell.Trace) :
    Attempt ProcessResult :=
  let ended (status : Int) : ProcessResult :=
    ⟨capturedLines (some trace.output), status, capturedLines (some trace.errors)⟩
  match trace.ending with
  | .exited status => .ok (ended status)
  | .killed signal => .ok (ended (-signal))
  | .expired => .error (timedOut command limit)

/-- Runs a command in an environment. -/
def runCommand (ws : Workspace) (env : Environment) (limit : Option TimeLimit)
    (command : List Text) : Attempt ProcessResult × Workspace :=
  match command with
  | [] => (.error .noItem, ws)
  | name :: _ =>
    if command.any (Char.ofNat 0 ∈ ·) then (.error (.file .nullCharacter), ws)
    else match Shell.loadNamed ws (Shell.searchPath (env.lookup "PATH".toList)) name with
      | .error e => (.error (.missingTool (.launch name e)), ws)
      | .ok loaded =>
        match limit.mapM TimeLimit.deadline with
        | .error e => (.error (.limit e), ws)
        | .ok deadline =>
          let trace := Shell.runProcess ws env deadline command loaded
          (resultOf command (limit.getD (.whole 0)) trace, trace.workspace)

/-! ## Files -/

/-- What lies at a resolved path. -/
def inspect (ws : Workspace) (path : Text) : Except FileError FileState :=
  match ws.stat path with
  | .error .nameTooLong => .error (.nameTooLong path)
  | .error _ => .ok .absent
  | .ok (.file content _) => .ok (.regular content)
  | .ok _ => .ok .other

/-- A workspace as a host whose programs see the given environment. -/
def host (env : Environment) : Host Workspace where
  isFile path := fun ws => (ws.stat path matches .ok (.file ..) | .ok (.program _), ws)
  isDirectory path := fun ws => (ws.stat path matches .ok .directory, ws)
  isPresent path := fun ws => (ws.stat path matches .ok _, ws)
  resolve path := fun ws => (ws.resolve path, ws)
  inspect path := fun ws => (ws.inspect path, ws)
  run limit command := fun ws => ws.runCommand env limit command

end Workspace

end SymbolAtlas
