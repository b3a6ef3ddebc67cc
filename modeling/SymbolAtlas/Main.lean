/-
# SymbolAtlas.Main — the program

The program works on a snapshot: the settings in its environment, the files of the working
directory, and the files that its arguments and settings name. It prints what `CommandLine.run`
says, reports a failure on the other channel, and ends with the exit status. No request goes out to
an assistant.
-/
import SymbolAtlas.CommandLine
import SymbolAtlas.Workspace.Host

namespace SymbolAtlas.CommandLine

/-- The variables of the environment that the program looks at. -/
def variableNames : List String :=
  ["DUMPBIN_PATH", "VSWHERE_PATH", "ProgramFiles(x86)", "DUMPBIN_TIMEOUT", "MSVC_TOOLSET_VERSION",
    "MSVC_HOST_ARCH", "LOG_LEVEL", "LOG_JSON", "DEBUG", "GOOGLE_API_KEY", "AGENT_MODEL_ID"]

/-- The variables that are set. -/
def environment : IO Environment :=
  variableNames.filterMapM fun name => do
    return (← IO.getEnv name).map fun value => (name.toList, value.toList)

/-- Whether a file begins like a script. -/
def isScript (content : Content) : Bool := content.bytesAt 0 2 == [0x23, 0x21]

/-- The workspace with the file at a path, if it can be read. -/
def withFile (ws : Workspace) (path : String) : IO Workspace := do
  try
    let content : Content := { block := ← IO.FS.readBinFile path }
    return ws.write path.toList (.file content (isScript content))
  catch _ => return ws

/-- The files of the working directory, and those named by the arguments and settings. -/
def snapshot (env : Environment) (arguments : List String) : IO Workspace := do
  let directory ← IO.currentDir
  let nearby ← directory.readDir
  let named := ["DUMPBIN_PATH", "VSWHERE_PATH"].map fun name => (env.getD name []).str
  (nearby.toList.map (·.fileName) ++ arguments ++ named).foldlM withFile
    (Workspace.empty directory.toString.toList)

/-- Runs the program and gives its exit status. -/
def start (arguments : List String) : IO UInt32 := do
  let env ← environment
  let ws ← snapshot env arguments
  let (outcome, _) := (run (Workspace.host env) env (arguments.map String.toList)).run ws
  IO.print outcome.stdout
  match outcome.ending with
  | .exit status => return status.toUInt32
  | .failed failure =>
    IO.eprintln failure.message
    return 1
  | .consult _ _ =>
    IO.eprintln "The assistant cannot be reached."
    return 1

end SymbolAtlas.CommandLine

def main (arguments : List String) : IO UInt32 := SymbolAtlas.CommandLine.start arguments
