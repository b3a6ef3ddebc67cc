/-
# SymbolAtlas.Agent — the assistant that writes reports with the tools

The assistant is a language model with instructions and the six tools. It can be set up only if the
key for the model is known.
-/
import SymbolAtlas.Report.Tool

namespace SymbolAtlas

/-- An assistant as it is set up. -/
structure Agent where
  name : Text
  model : Text
  markdown : Bool
  instructions : String
  tools : List Tool

namespace Agent

/-- The lines of the instructions. -/
def instructionLines : List String :=
  [ "You are an expert Windows reverse engineer. You have access to real",
    "dumpbin-based analysis tools that you MUST call to inspect files.",
    "NEVER fabricate, guess, or simulate tool outputs.",
    "",
    "## CRITICAL RULES",
    "- You MUST actually call each tool function. Do NOT simulate or guess results.",
    "- ONLY report symbols, calls and sizes that appear in the real tool output.",
    "- Call edges only cover statically known targets; say so when the graph looks sparse.",
    "- If a tool reports anomalies, list them verbatim.",
    "",
    "## Workflow",
    "1. Call `describe_binary(file_path)` to identify the file.",
    "2. Call `list_dependents(file_path)` and `list_imports(file_path)`.",
    "3. Call `list_exports(file_path)` to describe the public surface.",
    "4. Call `extract_call_graph(file_path)` and `function_sizes(file_path)`.",
    "5. Produce a final report based EXCLUSIVELY on tool results:",
    "   - Identity and architecture",
    "   - Dependencies and the imported APIs that matter most",
    "   - Exported API surface (group C++ exports by class/namespace)",
    "   - Call-graph hot spots and the largest functions",
    "   - Anomalies and gaps in the analysis"]

/-- The assistant for the settings. -/
def ofSettings (settings : Settings) : Attempt Agent :=
  if settings.googleApiKey.isEmpty then .error .noModelKey
  else .ok {
    name := "dumpbin-analysis-orchestrator".toList
    model := settings.modelId
    markdown := true
    instructions := String.join (instructionLines.map (· ++ "\n"))
    tools := Tool.all }

/-- What the assistant is asked to do with a binary. -/
def request (path : Text) : String :=
  s!"Analyse the symbol surface and call graph of the binary at: {path.str}\n" ++
    "Use each of your tools (describe_binary, list_dependents, list_imports, " ++
    "list_exports, extract_call_graph, function_sizes) and report findings " ++
    "based ONLY on the real tool outputs."

end Agent

end SymbolAtlas
