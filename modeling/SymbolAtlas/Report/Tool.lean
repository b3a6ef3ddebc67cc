/-
# SymbolAtlas.Report.Tool — the six reports on a binary, by name

A tool makes one report on the binary at a path. All but the description need a dumper. A tool that
is called without an invoker takes its settings from the environment, once the binary is known to be
usable.
-/
import SymbolAtlas.Binary.Description
import SymbolAtlas.Report.CallGraph
import SymbolAtlas.Report.Listings

namespace SymbolAtlas

/-- The reports that can be asked for. -/
inductive Tool
  | describeBinary
  | listDependents
  | listImports
  | listExports
  | extractCallGraph
  | functionSizes
  deriving DecidableEq, Repr

namespace Tool

variable {σ : Type}

/-- All tools, in the order in which they are offered. -/
def all : List Tool :=
  [describeBinary, listDependents, listImports, listExports, extractCallGraph, functionSizes]

/-- The name that a tool is called by. -/
def name : Tool → String
  | describeBinary => "describe_binary"
  | listDependents => "list_dependents"
  | listImports => "list_imports"
  | listExports => "list_exports"
  | extractCallGraph => "extract_call_graph"
  | functionSizes => "function_sizes"

/-- The tool with a name. -/
def ofName? (name : String) : Option Tool := all.find? fun tool => tool.name == name

/-- The description of a binary. -/
def describe (binary : Target) : Attempt Description :=
  return ⟨binary.file, ← Image.read binary.content⟩

/-- The report of a tool on a binary. -/
def report (host : Host σ) (binary : Target) : Tool → Session σ Json
  | describeBinary => return (← Session.onHost (Step.ofAttempt (describe binary))).toJson
  | listDependents => return (← DependentReport.ofBinary host binary.file).toJson
  | listImports => return (← ImportReport.ofBinary host binary.file).toJson
  | listExports => return (← ExportReport.ofBinary host binary.file).toJson
  | extractCallGraph => return CallGraph.toJson (← Analysis.ofCalls host binary.file)
  | functionSizes => return FunctionSizes.toJson (← Analysis.ofCalls host binary.file)

/-- Calls a tool on the binary at a path, with the invoker of the session. -/
def call (host : Host σ) (path : Text) (tool : Tool) : Session σ Json := do
  report host (← Session.onHost (target host path)) tool

/-- Runs a session with a new invoker whose settings come from the environment. -/
def inEnvironment {α : Type} (env : Environment) (session : Session σ α) : Step σ α := do
  let settings ← Step.ofAttempt (Settings.ofEnvironment env)
  session.start (Invoker.new settings)

/-- Calls a tool on the binary at a path, with settings from the environment. -/
def callFresh (host : Host σ) (env : Environment) (path : Text) (tool : Tool) : Step σ Json := do
  let binary ← target host path
  match tool with
  | describeBinary => return (← Step.ofAttempt (describe binary)).toJson
  | _ => inEnvironment env (report host binary tool)

end Tool

end SymbolAtlas
