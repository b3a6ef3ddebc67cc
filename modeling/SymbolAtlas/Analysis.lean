/-
# SymbolAtlas.Analysis — all that the dumps of one or more binaries say

An analysis gathers the files, exports, imports, call edges and dependencies in tables, the
functions of the disassemblies in listing order, and the anomalies of the export names. Analyses of
several binaries are made apart and merged afterwards: the tables drop duplicates, the lists are
appended.
-/
import SymbolAtlas.Listing.Disassembly
import SymbolAtlas.Listing.Exports
import SymbolAtlas.Listing.Imports
import SymbolAtlas.Table.Kinds

namespace SymbolAtlas

/-- The tables and lists of one or more binaries. -/
structure Analysis where
  files : FilePathTable := .empty
  exports : ExportTable := .empty
  imports : ImportTable := .empty
  calls : CallTable := .empty
  regions : List Region := []
  dependents : FileHintTable := .empty
  anomalies : List Anomaly := []

/-- The dumps of a binary: the lines of each listing. A listing of exports or imports that was not
made is empty. -/
structure Dumps where
  exports : List Text := []
  imports : List Text := []
  disassembly : Option (List Text) := none
  dependents : Option (List Text) := none

namespace Analysis

/-- Analyses the dumps of a file. The imports are read before the disassembly, because imported
symbols can be called. -/
def ofDumps (file : FilePath) (dumps : Dumps) : Attempt Analysis := do
  let exports := Exports.read dumps.exports file
  let exported ← exports.entries
  let imported ← Imports.read dumps.imports file
  let imports := Table.empty.addRange imported
  let dependents ← match dumps.dependents with
    | some lines => Dependents.direct lines
    | none => .ok []
  let disassembly ← match dumps.disassembly with
    | some lines => (Disassembly.read lines file (ImportTable.symbolTexts imports) []).map some
    | none => .ok none
  return {
    files := (Table.empty.add file).2
    exports := Table.empty.addRange exported
    imports := imports
    calls := Table.empty.addRange ((disassembly.map (·.calls)).getD [])
    regions := (disassembly.map (·.regions)).getD []
    dependents := Table.empty.addRange dependents
    anomalies := exports.anomalies }

/-! ## Merging -/

/-- The analysis with everything that `other` has added to it. -/
def merge (a other : Analysis) : Analysis where
  files := a.files.addRange other.files.entries
  exports := a.exports.addRange other.exports.entries
  imports := a.imports.addRange other.imports.entries
  calls := a.calls.addRange other.calls.entries
  regions := a.regions ++ other.regions
  dependents := a.dependents.addRange other.dependents.entries
  anomalies := a.anomalies ++ other.anomalies

/-- The analyses merged in order. -/
def mergeAll (analyses : List Analysis) : Analysis := analyses.foldl merge {}

/-! ## Reports -/

/-- The word for a number of anomalies. -/
def anomalyWord (count : Nat) : String := if count = 1 then "anomaly" else "anomalies"

/-- The counts of an analysis in one sentence. -/
def summary (a : Analysis) : String :=
  s!"{a.exports.size} exports, {a.imports.size} imports from " ++
    s!"{(ImportTable.providers a.imports).length} provider(s), " ++
    s!"{a.regions.length} functions, {a.calls.size} call edges, {a.anomalies.length} " ++
    anomalyWord a.anomalies.length ++ "."

/-- An analysis as a report shows it, with the given list of anomalies. -/
def report (a : Analysis) (anomalies : List Anomaly) : Json :=
  .obj [("files", a.files.toJson), ("exports", a.exports.toJson), ("imports", a.imports.toJson),
    ("calls", a.calls.toJson), ("functions", .arr (a.regions.map Region.toJson)),
    ("dependents", .arr (a.dependents.entries.map fun hint => .text hint.name)),
    ("anomalies", .arr (anomalies.map fun anomaly => .str anomaly.message)),
    ("summary", .str a.summary)]

/-- An analysis as a report shows it. -/
def toJson (a : Analysis) : Json := a.report a.anomalies

end Analysis

end SymbolAtlas
