/-
# SymbolAtlas.Listing.Section — finding the body of a section in a listing

A section begins with one or more header lines and runs to a line that is, up to blanks at its ends,
one of its terminators, or to the end of the listing. The listing is read once from top to bottom:
lines before the last header line needed can only be header lines, and lines behind it can only end
the section. A section that is required must have all its header lines.
-/
import SymbolAtlas.Failure
import SymbolAtlas.Text.LowerCase

namespace SymbolAtlas

/-- How to recognise a section. -/
structure SectionSpec where
  name : Text
  isHeader : Text → Bool
  terminators : List Text := ["Summary".toList]
  headerLines : Int := 1
  required : Bool := false

/-- Where the body of a section lies: from line `start` up to but not including line `stop`. A
section that is absent has no start. -/
structure SectionBounds where
  name : Text
  start : Option Nat
  stop : Nat
  deriving DecidableEq, Repr

/-- The first and the last bound of the body; an absent section has the empty range at 0. -/
def SectionBounds.range (b : SectionBounds) : Nat × Nat :=
  match b.start with
  | some start => (start, b.stop)
  | none => (0, 0)

/-- The lines of the body, each with its index. -/
def SectionBounds.body (b : SectionBounds) (lines : List Text) : List (Nat × Text) :=
  let (start, stop) := b.range
  (((lines.take stop).drop start).zipIdx start).map fun (line, index) => (index, line)

namespace SectionSpec

/-- How far the reading of a listing has come. -/
inductive Phase
  | seeking (seen : Nat)
  | body (start : Nat)
  | closed (start stop : Nat)
  deriving DecidableEq, Repr

/-- Reads the line with the given index. -/
def step (spec : SectionSpec) (index : Nat) (line : Text) : Phase → Phase
  | .seeking seen =>
    if spec.isHeader line then
      if spec.headerLines ≤ seen + 1 then .body (index + 1) else .seeking (seen + 1)
    else .seeking seen
  | .body start => if line.trim ∈ spec.terminators then .closed start index else .body start
  | .closed start stop => .closed start stop

/-- Reads the lines from the given index on. -/
def scan (spec : SectionSpec) (index : Nat) (phase : Phase) : List Text → Phase
  | [] => phase
  | line :: rest => scan spec (index + 1) (spec.step index line phase) rest

/-- The bounds of the section in a listing. -/
def find (spec : SectionSpec) (lines : List Text) : Attempt SectionBounds :=
  match spec.scan 0 (.seeking 0) lines with
  | .closed start stop => .ok ⟨spec.name, some start, stop⟩
  | .body start => .ok ⟨spec.name, some start, lines.length⟩
  | .seeking seen =>
    if spec.required then
      .error (.parse ⟨spec.name, .incompleteHeader seen spec.headerLines, some lines.length, none⟩)
    else .ok ⟨spec.name, none, lines.length⟩

end SectionSpec

/-! ## The sections of a dump -/

namespace Listing

/-- Whether the trimmed line is the given text. -/
def isLine (text : Text) (line : Text) : Bool := line.trim == text

/-- The column titles of the export section, in any case, order and company. -/
def isExportHeader (line : Text) : Bool :=
  let titles := line.words.map Text.lower
  ["ordinal".toList, "hint".toList, "rva".toList, "name".toList].all fun title => title ∈ titles

/-- The two lines above a disassembly, in any case. -/
def isDisassemblyHeader (line : Text) : Bool :=
  let lowered := line.trimStart.lower
  "dump of file".toList.isPrefixOf lowered || "file type:".toList.isPrefixOf lowered

/-- The line that ends most sections. -/
def summaryLine : Text := "Summary".toList

def importsHeader : Text := "Section contains the following imports:".toList

def delayImportsHeader : Text := "Section contains the following delay load imports:".toList

def dependentsHeader : Text := "Image has the following dependencies:".toList

def delayDependentsHeader : Text := "Image has the following delay load dependencies:".toList

/-- The exported functions. -/
def exportsSection : SectionSpec := { name := "exports".toList, isHeader := isExportHeader }

/-- The imported functions; those loaded on first use are a section of their own. -/
def importsSection : SectionSpec where
  name := "imports".toList
  isHeader := isLine importsHeader
  terminators := [summaryLine, delayImportsHeader]

/-- The files loaded at start. -/
def dependentsSection : SectionSpec where
  name := "dependents".toList
  isHeader := isLine dependentsHeader
  terminators := [summaryLine, delayDependentsHeader]

/-- The files loaded on first use. -/
def delayDependentsSection : SectionSpec :=
  { name := "delay_dependents".toList, isHeader := isLine delayDependentsHeader }

/-- The disassembly: it needs both header lines and runs to the end of the listing. -/
def disassemblySection : SectionSpec where
  name := "disassembly".toList
  isHeader := isDisassemblyHeader
  terminators := []
  headerLines := 2
  required := true

end Listing

end SymbolAtlas
