/-
# SymbolAtlas.Invoker — finding the dumper and running it

The path of the dumper is settled once for each invoker: the path given, else the one in the
settings, else the one inside the installation that the locator reports. A path that was discovered
is kept, even if there is no file at it yet; a path that was given must look like that of a dumper.
Every run checks that the dumper is a file, so a run never uses a dumper that has disappeared.
-/
import SymbolAtlas.Host

namespace SymbolAtlas

/-! ## The locator -/

namespace Installation

/-- What precedes the path of an installation in the output of the locator. -/
def marker : Text := "installationPath:".toList

/-- The path of the installation reported last, if it is not empty. -/
def reported? (lines : List Text) : Option Text :=
  let marked := lines.filter (Text.occursIn marker)
  (marked.getLast?.map fun line => Text.trim (Text.removeAll marker line)).filter
    fun path => !path.isEmpty

/-- Runs the locator and checks that the installation it reports exists. -/
def find {σ : Type} (host : Host σ) (limit : Option TimeLimit) (locator : Text) : Step σ Text := do
  if !(← Step.ask (host.isFile locator)) then throw (.missingTool (.locator locator))
  let result ← ExceptT.mk (host.run limit [locator])
  match reported? result.lines with
  | none => throw (.missingTool .unreported)
  | some path =>
    if ← Step.ask (host.isDirectory path) then return path
    throw (.missingTool (.installation path))

end Installation

/-! ## The dumper -/

/-- What can be asked of the dumper about a binary. -/
inductive Dump
  | exports
  | imports
  | dependents
  | disassembly
  deriving DecidableEq, Repr

/-- The option of the dumper that asks for a dump. -/
def Dump.option : Dump → Text
  | .exports => "/EXPORTS".toList
  | .imports => "/IMPORTS".toList
  | .dependents => "/DEPENDENTS".toList
  | .disassembly => "/DISASM".toList

/-- The settings of an invoker and the path of its dumper; empty as long as it is not settled. -/
structure Invoker where
  settings : Settings
  exePath : Text

/-- An invoker with the given path, or with the path in the settings if that one is empty. -/
def Invoker.new (settings : Settings) (exePath : Text := []) : Invoker :=
  ⟨settings, if exePath.isEmpty then settings.dumpbinPath else exePath⟩

/-- A step that may use an invoker and settle its path. -/
abbrev Session (σ : Type) := ExceptT Failure (StateM (Invoker × σ))

namespace Session

variable {σ α : Type}

/-- A step on the host alone. -/
def onHost (step : Step σ α) : Session σ α :=
  ExceptT.mk fun (invoker, world) =>
    let (result, world) := step.run.run world
    (result, (invoker, world))

/-- The invoker as it is. -/
def invoker : Session σ Invoker := return (← get).1

/-- Settles the path of the dumper. -/
def settle (exePath : Text) : Session σ Unit :=
  modify fun (invoker, world) => ({ invoker with exePath := exePath }, world)

/-- The session with an invoker as a step on the host. -/
def start (session : Session σ α) (invoker : Invoker) : Step σ α :=
  ExceptT.mk fun world =>
    let (result, (_, world)) := session.run.run (invoker, world)
    (result, world)

end Session

namespace Invoker

variable {σ : Type}

/-- The time limit of every program that the invoker runs. -/
def limit (i : Invoker) : TimeLimit := .fractional i.settings.timeout

/-- What the path of a dumper must contain, in any case. -/
def mark : Text := "dumpbin".toList

/-- Settles the path of the dumper if it is not settled, or checks its name if it is; in both cases
checks that it is a file. -/
def ensureExePath (host : Host σ) : Session σ Text := do
  let invoker ← Session.invoker
  if invoker.exePath.isEmpty then
    let installation ← Session.onHost
      (Installation.find host (some invoker.limit) invoker.settings.vswherePath)
    Session.settle (invoker.settings.dumpbinUnder installation)
  else if !Text.occursIn mark invoker.exePath.lower then
    throw (.missingTool (.misnamed invoker.exePath))
  let exePath := (← Session.invoker).exePath
  if ← Session.onHost (Step.ask (host.isFile exePath)) then return exePath
  throw (.missingTool (.dumper exePath))

/-- Runs the dumper with the arguments and gives the lines that it prints. -/
def run (host : Host σ) (arguments : List Text) : Session σ (List Text) := do
  if arguments.isEmpty then throw .noArguments
  let command := (← ensureExePath host) :: arguments
  let limit := (← Session.invoker).limit
  let result ← Session.onHost (ExceptT.mk (host.run (some limit) command))
  if result.exitStatus = 0 then return result.lines
  throw (.execution ⟨command, result.exitStatus, result.lines ++ result.errorLines⟩)

/-- Dumps a part of a binary. -/
def dump (host : Host σ) (part : Dump) (path : Text) : Session σ (List Text) :=
  run host [part.option, path]

end Invoker

end SymbolAtlas
