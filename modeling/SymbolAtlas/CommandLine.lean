/-
# SymbolAtlas.CommandLine — the program as it is called

The program takes the path of one binary. With `--json` it prints the analysis of the binary as a
document; without it, it hands the binary over to the assistant. The path is looked at before the
settings are read.
-/
import SymbolAtlas.Agent

namespace SymbolAtlas.CommandLine

/-- How a run of the program ends. -/
inductive Ending
  /-- With an exit status. -/
  | exit (status : Nat)
  /-- With a failure that nothing handles. -/
  | failed (failure : Failure)
  /-- With a request to the assistant, whose answer is printed. -/
  | consult (agent : Agent) (request : String)

/-- What a run prints, and how it ends. -/
structure Outcome where
  stdout : String
  ending : Ending

/-- The argument that asks for a document. -/
def jsonFlag : Text := "--json".toList

/-- What the program prints when it is called in any other way. -/
def usage : String := "Usage: python main.py [--json] <path_to_binary>\n"

variable {σ : Type}

/-- The document for a binary, laid out over several lines. -/
def document (host : Host σ) (env : Environment) (path : Text) : Step σ String := do
  let binary ← target host path
  let analysis ← Tool.inEnvironment env (Analysis.ofBinary host {} binary.file)
  return analysis.toJson.pretty ++ "\n"

/-- Runs the program on the binary at a path. -/
def runOn (host : Host σ) (env : Environment) (json : Bool) (path : Text) : Step σ Outcome := do
  let settings ← Step.ofAttempt (Settings.ofEnvironment env)
  if json then return ⟨← document host env path, .exit 0⟩
  let agent ← Step.ofAttempt (Agent.ofSettings settings)
  return ⟨s!"--- Starting Analysis for {path.str} ---\n\n", .consult agent (Agent.request path)⟩

/-- Runs the program with its arguments. -/
def run (host : Host σ) (env : Environment) (arguments : List Text) : StateM σ Outcome := do
  match arguments.filter (· != jsonFlag) with
  | [path] =>
    if !(← host.isPresent path) then
      return ⟨s!"Error: File '{path.str}' not found.\n", .exit 1⟩
    match ← (runOn host env (arguments.contains jsonFlag) path).run with
    | .ok outcome => return outcome
    | .error failure => return ⟨"", .failed failure⟩
  | _ => return ⟨usage, .exit 1⟩

end SymbolAtlas.CommandLine
