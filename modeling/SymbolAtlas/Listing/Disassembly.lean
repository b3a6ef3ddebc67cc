/-
# SymbolAtlas.Listing.Disassembly — the code of a function and the symbols that it refers to

A line of code has an address, a column of opcode bytes and an instruction; each part may be
missing. Reading the lines of a region from top to bottom measures its code and collects the symbols
that its operands stand for. No check is made that the instruction is a call, so a reference to the
data of a function counts too.

Padding is counted from the end: a byte `CC` that is the first of its line, or that follows a byte
already counted as padding, makes the run of padding longer; every other byte ends it.
-/
import SymbolAtlas.Entity
import SymbolAtlas.Listing.Region
import SymbolAtlas.Listing.Resolver
import SymbolAtlas.Listing.Section

namespace SymbolAtlas

/-! ## Reading one region -/

/-- The reading of a region: what it has shown so far, the run of padding that it ends in, and the
symbols referred to. -/
structure RegionReader where
  region : Region
  fillerRun : Nat := 0
  callees : List Text := []

namespace RegionReader

/-- The part of a line that the next word belongs to. -/
inductive Place
  /-- The first word, which may be an address. -/
  | first
  /-- The column of opcode bytes, after so many of them. -/
  | bytes (seen : Nat)
  /-- The instruction. -/
  | instruction
  deriving DecidableEq, Repr

/-- Reads an address. -/
def address (r : RegionReader) (value : Int) : RegionReader :=
  { r with region := { r.region with
      firstAddress := some (r.region.firstAddress.getD value)
      lastAddress := some value } }

/-- Reads an opcode byte that has `seen` others before it on its line. -/
def opcodeByte (r : RegionReader) (token : Text) (seen : Nat) : RegionReader :=
  { r with
    region := { r.region with
      opcodeByteCount := r.region.opcodeByteCount + 1
      lastAddress := r.region.lastAddress.map (· + 1) }
    fillerRun := if Token.isFiller token && (seen == 0 || r.fillerRun > 0) then r.fillerRun + 1
      else 0 }

/-- The symbol that a part of an operand stands for. Numbers stand for nothing. -/
def calleeOf (resolver : Resolver) (part : Text) : Attempt (Option Text) :=
  match part with
  | [] => .error .noCharacter
  | c :: _ => .ok (if Text.isDecimalDigit c then none else resolver.resolve? part)

/-- Reads a word of an instruction. -/
def operand (resolver : Resolver) (r : RegionReader) (token : Text) : Attempt RegionReader := do
  let callees ← (Token.operands token).mapM (calleeOf resolver)
  return { r with callees := r.callees ++ callees.filterMap id }

/-- Reads a word that is no address: an opcode byte, or else the begin of the instruction. -/
def byteOrInstruction (resolver : Resolver) (r : RegionReader) (seen : Nat) (token : Text) :
    Attempt (RegionReader × Place) := do
  if Token.isOpcodeByte token then return (r.opcodeByte token seen, .bytes (seen + 1))
  return (← operand resolver r token, .instruction)

/-- Reads the next word of a line. -/
def word (resolver : Resolver) (state : RegionReader × Place) (token : Text) :
    Attempt (RegionReader × Place) :=
  let (r, place) := state
  match place with
  | .instruction => do return (← operand resolver r token, .instruction)
  | .bytes seen => byteOrInstruction resolver r seen token
  | .first =>
    if Token.isAddress token then do
      return (r.address (← Token.addressValue token), .bytes 0)
    else byteOrInstruction resolver r 0 token

/-- Reads a line. -/
def feed (resolver : Resolver) (r : RegionReader) (line : Text) : Attempt RegionReader := do
  return (← line.words.foldlM (word resolver) (r, .first)).1

/-- Completes the region: the run of padding at its end is not code. -/
def finish (r : RegionReader) : RegionReader :=
  let codeBytes := match r.region.firstAddress, r.region.lastAddress with
    | some first, some last => last - r.fillerRun - first
    | _, _ => r.region.codeByteCount
  { r with region := { r.region with
      fillerByteCount := r.fillerRun
      codeByteCount := codeBytes } }

/-- The call edges from the region to the symbols referred to. -/
def calls (r : RegionReader) (file : FilePath) : List CallEntry :=
  r.callees.map fun callee => ⟨file, r.region.name, callee⟩

/-- Reads the lines of a region below its label. -/
def run (resolver : Resolver) (lines : List Text) (region : Region) : Attempt RegionReader := do
  let start := region.lineStart + 1
  let reader ← foldRange lines (fun reader _ line => feed resolver reader line)
    (region.lineEnd - start).toNat start { region := region }
  return reader.finish

end RegionReader

/-! ## Reading a disassembly -/

/-- A disassembly: its place in the listing, its functions, and its call edges in order. -/
structure Disassembly where
  bounds : SectionBounds
  regions : List Region
  calls : List CallEntry

namespace Disassembly

/-- The names of the functions. -/
def functionNames (d : Disassembly) : List Text := d.regions.map (·.name)

/-- Reads the disassembly of `file`. The labels are found first, because any of them may be called
from any region. -/
def read (lines : List Text) (file : FilePath) (imported : List Text)
    (aliases : List (Text × Text)) : Attempt Disassembly := do
  let bounds ← Listing.disassemblySection.find lines
  let regions ← Region.scan lines bounds.range.1 bounds.range.2
  let resolver ← Resolver.build (regions.map (·.name)) imported aliases
  let readers ← regions.mapM (RegionReader.run resolver lines)
  return { bounds := bounds, regions := readers.map (·.region),
           calls := readers.flatMap (·.calls file) }

end Disassembly

end SymbolAtlas
