/-
# SymbolAtlas.Listing.Exports — the export section

Each line of the body has an ordinal, a hint, an address and a name text. A line that lacks a
column, or whose columns are not numbers, or whose name text names nothing, ends the reading with an
error at that line. Brackets that do not match are soft: the anomaly is noted and the reading goes
on.
-/
import SymbolAtlas.Entity
import SymbolAtlas.Listing.ExportName
import SymbolAtlas.Listing.Section
import SymbolAtlas.Listing.Token

namespace SymbolAtlas

/-- Brackets that do not match in the name text of a line. -/
structure Anomaly where
  lineIndex : Nat
  fault : Bracket.Fault
  deriving DecidableEq, Repr

/-- The wording of an anomaly. -/
def Anomaly.message (a : Anomaly) : String := s!"line {a.lineIndex}: {a.fault.message}"

namespace Exports

/-- An error of the export section. -/
def fail {α : Type} (defect : Defect) (lineIndex : Option Int) (line : Text) : Attempt α :=
  .error (.parse ⟨"exports".toList, defect, lineIndex, some line⟩)

/-- The name text of an export line: what follows its three number columns. -/
def nameText (line : Text) (lineIndex : Option Int) : Attempt Text :=
  let trimmed := line.trim
  match trimmed.words with
  | ordinal :: hint :: address :: _ :: _ =>
    if Token.isDecimal ordinal && Token.isHex hint && Token.isHex address then
      let rest := Text.afterFirst ordinal trimmed
      let rest := Text.afterFirst hint rest
      .ok (Text.afterFirst address rest).trim
    else fail .unrecognizedExport lineIndex line
  | _ => fail .unrecognizedExport lineIndex line

/-- Reads one line that is not blank: the export, and the anomaly of its name text if it has one. -/
def readLine (provider : FilePath) (index : Nat) (line : Text) :
    Attempt (ExportEntry × Option Anomaly) := do
  let text ← nameText line (some index)
  match ExportName.ofText? text with
  | none => fail .namelessExport (some index) line
  | some name =>
    let entry := ⟨provider, name.prototype, name.symbol, name.shortName⟩
    return (entry, name.anomaly.map fun fault => ⟨index, fault⟩)

/-- What a reading of several lines gives: the anomalies up to its end, and the exports unless a
line ended it with an error. -/
structure Reading where
  anomalies : List Anomaly
  entries : Attempt (List ExportEntry)

/-- Reads the lines of a body from top to bottom; blank lines are passed over. -/
def readBody (provider : FilePath) : List (Nat × Text) → Reading
  | [] => ⟨[], .ok []⟩
  | (index, line) :: rest =>
    if line.isBlankText then readBody provider rest
    else match readLine provider index line with
      | .error failure => ⟨[], .error failure⟩
      | .ok (entry, anomaly) =>
        let reading := readBody provider rest
        ⟨anomaly.toList ++ reading.anomalies, reading.entries.map (entry :: ·)⟩

/-- Reads the export section of a listing. A listing without one exports nothing. -/
def read (lines : List Text) (provider : FilePath) : Reading :=
  match Listing.exportsSection.find lines with
  | .error failure => ⟨[], .error failure⟩
  | .ok bounds => readBody provider (bounds.body lines)

/-- Reads the export section and adds its anomalies to a log, if there is one. The log grows by the
anomalies of the lines before an error too. -/
def readLogged (lines : List Text) (provider : FilePath) (log : Option (List Anomaly)) :
    Option (List Anomaly) × Attempt (List ExportEntry) :=
  let reading := read lines provider
  (log.map (· ++ reading.anomalies), reading.entries)

end Exports

end SymbolAtlas
