/-
# SymbolAtlas.Listing.Region — the functions of a disassembly

A line that ends in a colon, and whose first word is not an address, is a label: it names a function
and opens its region. A region runs to the next label or blank line, or to the end of the listing.
Lines before the first label, and between a blank line and the next label, belong to no region.
-/
import SymbolAtlas.Json
import SymbolAtlas.Listing.Token
import SymbolAtlas.Sequence

namespace SymbolAtlas

/-- A function of a disassembly: its label line, the line after its last one, and the extent of its
code. Addresses are absent as long as no line shows one. -/
structure Region where
  name : Text
  lineStart : Int
  lineEnd : Int := -1
  firstAddress : Option Int := none
  lastAddress : Option Int := none
  opcodeByteCount : Int := 0
  codeByteCount : Int := 0
  fillerByteCount : Int := 0
  deriving DecidableEq, Repr

namespace Region

/-- The number of lines below the label. -/
def lineCount (r : Region) : Int := max 0 (r.lineEnd - r.lineStart - 1)

/-- The address where the code begins. -/
def codeAddressStart (r : Region) : Option Int := r.firstAddress

/-- A region as a report shows it. -/
def toJson (r : Region) : Json :=
  .obj [("name", .text r.name), ("line_start", .int r.lineStart), ("line_end", .int r.lineEnd),
    ("line_count", .int r.lineCount),
    ("code_address_start", .text? (r.codeAddressStart.map Hexadecimal.writeMarked)),
    ("code_byte_count", .int r.codeByteCount), ("filler_byte_count", .int r.fillerByteCount),
    ("opcode_byte_count", .int r.opcodeByteCount)]

/-! ## Labels -/

/-- The name that a line gives as a label, if it is one. -/
def labelName (line : Text) : Attempt (Option Text) :=
  let stripped := line.trimEnd
  if stripped.getLast? = some ':' then do
    let word ← Token.firstWord stripped
    if Token.isAddress word then return none
    let name := Text.trim stripped.dropLast
    return if name.isEmpty then none else some name
  else .ok none

/-! ## Partition of a listing -/

/-- The regions that are complete, and the one that is still open. -/
structure Partition where
  complete : List Region := []
  opened : Option Region := none

/-- Closes the open region before the line with the given index. -/
def Partition.close (p : Partition) (index : Int) : Partition where
  complete := p.complete ++ (p.opened.map fun r => { r with lineEnd := index }).toList
  opened := none

/-- Reads the line with the given index. -/
def Partition.step (p : Partition) (index : Int) (line : Text) : Attempt Partition := do
  match ← labelName line with
  | some name => return { p.close index with opened := some { name := name, lineStart := index } }
  | none => return if line.isBlankText then p.close index else p

/-- The regions of the lines from `start` up to but not including `stop`. -/
def scan (lines : List Text) (start stop : Int) : Attempt (List Region) := do
  let partition ← foldRange lines Partition.step (stop - start).toNat start {}
  return (partition.close stop).complete

end Region

end SymbolAtlas
