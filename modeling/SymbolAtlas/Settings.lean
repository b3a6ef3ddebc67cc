/-
# SymbolAtlas.Settings — settings from the environment

Every setting has a default. A variable that is set to the empty text counts as set, except for the
path of the locator and the time limit.
-/
import SymbolAtlas.Failure
import SymbolAtlas.Number.Seconds
import SymbolAtlas.Number.Shortest
import SymbolAtlas.WindowsPath

namespace SymbolAtlas

/-- The variables of an environment with their values. -/
abbrev Environment := List (Text × Text)

/-- The value of a variable, or a default. -/
def Environment.getD (env : Environment) (name : String) (default : Text) : Text :=
  (env.lookup name.toList).getD default

/-- How the dumper is found and run, how much is logged, and which model writes reports. -/
structure Settings where
  dumpbinPath : Text := []
  vswherePath : Text := []
  toolsetVersion : Text := "14.13.26128".toList
  hostArch : Text := "Hostx64/x64".toList
  timeout : Float := 300.0
  logLevel : Text := "INFO".toList
  logJson : Bool := false
  debug : Bool := false
  googleApiKey : Text := []
  modelId : Text := "gemini-2.5-flash".toList

namespace Settings

/-- Where the locator lies if nothing else is said. -/
def defaultVswherePath (env : Environment) : Text :=
  WindowsPath.join (env.getD "ProgramFiles(x86)" "C:\\Program Files (x86)".toList)
    ["Microsoft Visual Studio".toList, "Installer".toList, "vswhere.exe".toList]

/-- The time limit that a variable spells; the default if it is empty. -/
def timeoutOf (text : Text) : Attempt Float :=
  if text.isEmpty then .ok 300.0
  else match Seconds.read? text with
    | some seconds => .ok seconds
    | none => .error (.notNumeric text)

/-- The settings that an environment gives. -/
def ofEnvironment (env : Environment) : Attempt Settings := do
  let defaults : Settings := {}
  let vswhere := env.getD "VSWHERE_PATH" []
  let timeout ← timeoutOf (env.getD "DUMPBIN_TIMEOUT" [])
  return {
    dumpbinPath := env.getD "DUMPBIN_PATH" []
    vswherePath := if vswhere.isEmpty then defaultVswherePath env else vswhere
    toolsetVersion := env.getD "MSVC_TOOLSET_VERSION" defaults.toolsetVersion
    hostArch := env.getD "MSVC_HOST_ARCH" defaults.hostArch
    timeout := timeout
    logLevel := env.getD "LOG_LEVEL" defaults.logLevel
    logJson := env.getD "LOG_JSON" ['0'] == ['1']
    debug := env.getD "DEBUG" ['0'] == ['1']
    googleApiKey := env.getD "GOOGLE_API_KEY" []
    modelId := env.getD "AGENT_MODEL_ID" defaults.modelId }

/-- Where the dumper lies inside an installation. -/
def dumpbinUnder (s : Settings) (installation : Text) : Text :=
  WindowsPath.join installation
    (["VC".toList, "Tools".toList, "MSVC".toList, s.toolsetVersion, "bin".toList] ++
      s.hostArch.splitOn '/' ++ ["dumpbin.exe".toList])

/-- Durations are positional from 0.0001 up to sixteen digits before the point. -/
def durationLayout : Shortest.Layout :=
  { leastPoint := -3, greatestPoint := 16, exponentWidth := 2 }

/-- A duration in seconds as messages show it. -/
def durationText (seconds : Float) : Text := Shortest.write durationLayout seconds

end Settings

end SymbolAtlas
