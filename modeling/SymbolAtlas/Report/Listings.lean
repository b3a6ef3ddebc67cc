/-
# SymbolAtlas.Report.Listings — the exports, imports and dependencies of one binary

Each report dumps one part of the binary. Exports and imports pass through their tables, so a symbol
that the dump shows twice is reported once; the imports are grouped by the file that provides them.
-/
import SymbolAtlas.Analysis
import SymbolAtlas.Invoker

namespace SymbolAtlas

variable {σ : Type}

/-! ## Exports -/

/-- The exports of a binary. -/
structure ExportReport where
  file : FilePath
  table : ExportTable
  anomalies : List Anomaly

namespace ExportReport

/-- Reads a dump of exports. -/
def ofLines (file : FilePath) (lines : List Text) : Attempt ExportReport := do
  let reading := Exports.read lines file
  return ⟨file, Table.empty.addRange (← reading.entries), reading.anomalies⟩

/-- Dumps the exports of a binary. -/
def ofBinary (host : Host σ) (file : FilePath) : Session σ ExportReport := do
  let lines ← Invoker.dump host .exports file.fullName
  ExceptT.mk (pure (ofLines file lines))

/-- The number of exports that have a prototype. -/
def prototypeCount (r : ExportReport) : Nat :=
  r.table.entries.countP fun entry => (nonEmpty entry.prototype).isSome

def summary (r : ExportReport) : String :=
  s!"{r.table.size} exported function(s), {r.prototypeCount} with a C++ prototype, " ++
    s!"{r.anomalies.length} name " ++ Analysis.anomalyWord r.anomalies.length ++ "."

def toJson (r : ExportReport) : Json :=
  .obj [("file", r.file.toJson), ("exports", r.table.toJson),
    ("anomalies", .arr (r.anomalies.map fun anomaly => .str anomaly.message)),
    ("summary", .str r.summary)]

end ExportReport

/-! ## Imports -/

/-- The imports of a binary: its table, and the symbols of each providing file. -/
structure ImportReport where
  file : FilePath
  table : ImportTable
  groups : List (Text × List Text)

namespace ImportReport

/-- The symbols imported from each providing file. -/
def groupsOf (table : ImportTable) : Attempt (List (Text × List Text)) :=
  (ImportTable.providers table).filterMapM fun value =>
    match value with
    | .hint hint => do
      let entries ← ImportTable.forProvider table (some value)
      return some (hint.name, entries.map (·.symbol))
    | _ => return none

/-- Reads a dump of imports. -/
def ofLines (file : FilePath) (lines : List Text) : Attempt ImportReport := do
  let table := Table.empty.addRange (← Imports.read lines file)
  return ⟨file, table, ← groupsOf table⟩

/-- Dumps the imports of a binary. -/
def ofBinary (host : Host σ) (file : FilePath) : Session σ ImportReport := do
  let lines ← Invoker.dump host .imports file.fullName
  ExceptT.mk (pure (ofLines file lines))

def summary (r : ImportReport) : String :=
  s!"{r.table.size} imported function(s) from {r.groups.length} provider(s)."

def toJson (r : ImportReport) : Json :=
  .obj [("file", r.file.toJson),
    ("imports", .obj (r.groups.map fun (name, symbols) => (Text.str name, .texts symbols))),
    ("summary", .str r.summary)]

end ImportReport

/-! ## Dependencies -/

/-- The files that a binary loads at start and on first use. -/
structure DependentReport where
  file : FilePath
  direct : List FileHint
  delayed : List FileHint

namespace DependentReport

/-- Reads a dump of dependencies. -/
def ofLines (file : FilePath) (lines : List Text) : Attempt DependentReport := do
  return ⟨file, ← Dependents.direct lines, ← Dependents.delayed lines⟩

/-- Dumps the dependencies of a binary. -/
def ofBinary (host : Host σ) (file : FilePath) : Session σ DependentReport := do
  let lines ← Invoker.dump host .dependents file.fullName
  ExceptT.mk (pure (ofLines file lines))

def summary (r : DependentReport) : String :=
  s!"{r.direct.length} dependent(s), {r.delayed.length} delay-load dependent(s)."

def toJson (r : DependentReport) : Json :=
  .obj [("file", r.file.toJson), ("dependents", .texts (r.direct.map (·.name))),
    ("delay_load_dependents", .texts (r.delayed.map (·.name))), ("summary", .str r.summary)]

end DependentReport

end SymbolAtlas
