/-
# SymbolAtlas.Report.CallGraph — who calls whom, and how large the functions are

The fan-in of a symbol is the number of call edges to it. Edges are stored once for each pair of
caller and callee, so it counts callers. Both rankings put the greatest first and keep the order of
first appearance among equals.
-/
import SymbolAtlas.Report.Pipeline

namespace SymbolAtlas

/-- Puts an item before all items that do not weigh more than it. -/
def insertByWeight {α : Type} (weight : α → Int) (item : α) : List α → List α
  | [] => [item]
  | other :: rest =>
    if weight other ≤ weight item then item :: other :: rest
    else other :: insertByWeight weight item rest

/-- The items by descending weight; items of one weight keep their order. -/
def rankByWeight {α : Type} (weight : α → Int) (items : List α) : List α :=
  items.foldr (insertByWeight weight) []

namespace CallGraph

/-- Counts one more occurrence of a text. -/
def count (text : Text) : List (Text × Nat) → List (Text × Nat)
  | [] => [(text, 1)]
  | (known, n) :: rest =>
    if known = text then (known, n + 1) :: rest else (known, n) :: count text rest

/-- The fan-in of each callee, in order of first appearance. -/
def fanIn (calls : CallTable) : List (Text × Nat) :=
  calls.entries.foldl (fun counts call => count call.callee counts) []

/-- The greatest number of callees that are ranked. -/
def rankLimit : Nat := 20

/-- The callees with the greatest fan-in. -/
def mostCalled (calls : CallTable) : List (Text × Nat) :=
  (rankByWeight (fun entry => (entry.2 : Int)) (fanIn calls)).take rankLimit

/-- Whether a symbol is imported. -/
def isImported (a : Analysis) (symbol : Text) : Bool :=
  (ImportTable.symbolTexts a.imports).contains symbol

def summary (a : Analysis) : String :=
  let imported := a.calls.entries.countP fun call => isImported a call.callee
  s!"{a.calls.size} call edge(s) between {a.regions.length} function(s); " ++
    s!"{imported} target imported APIs."

/-- The call edges of a binary as a report shows them. -/
def toJson (a : Analysis) : Json :=
  .obj [("calls", a.calls.toJson),
    ("most_called", .arr ((mostCalled a.calls).map fun (symbol, callers) =>
      .obj [("callee", .text symbol), ("callers", .int callers),
        ("imported", .bool (isImported a symbol))])),
    ("anomalies", .arr (a.anomalies.map fun anomaly => .str anomaly.message)),
    ("summary", .str (summary a))]

end CallGraph

namespace FunctionSizes

/-- The functions by descending size of their code. -/
def ranked (a : Analysis) : List Region := rankByWeight (·.codeByteCount) a.regions

def summary (a : Analysis) : String :=
  let code := a.regions.foldl (fun sum region => sum + region.codeByteCount) 0
  let filler := a.regions.foldl (fun sum region => sum + region.fillerByteCount) 0
  s!"{a.regions.length} function(s), {code} code byte(s), {filler} filler byte(s)."

/-- The sizes of the functions of a binary as a report shows them. -/
def toJson (a : Analysis) : Json :=
  .obj [("functions", .arr ((ranked a).map Region.toJson)), ("summary", .str (summary a))]

end FunctionSizes

end SymbolAtlas
