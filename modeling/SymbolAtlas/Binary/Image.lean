/-
# SymbolAtlas.Binary.Image — the headers of a portable executable

An image begins with the mark `MZ`, and at offset 60 says where its signature lies. Behind the
signature come the file header, the optional header and the table of sections. A file that is too
short for a header is no image, unless only the last fields of the optional header are missing. The
table of sections ends early at an empty entry, at the end of the file, or at an entry with three or
more oddities.

A section that is both writable and executable is suspicious, except for the section `PAGE` of a
driver. Whether an image is a driver is told by its import directory, which can be found only when
all sections are known, so an image with such a section and an import directory is a failure.
-/
import SymbolAtlas.Binary.Content
import SymbolAtlas.Failure
import SymbolAtlas.Text.Utf8

namespace SymbolAtlas

/-- The header fields of an image. -/
structure Image where
  machine : Nat
  bits : Nat
  isDll : Bool
  entryPoint : Nat
  sectionNames : List Text
  deriving DecidableEq, Repr

namespace Image

/-- An entry of the table of sections. -/
structure SectionHeader where
  name : List UInt8
  virtualSize : Nat
  virtualAddress : Nat
  rawSize : Nat
  rawPointer : Nat
  flags : Nat
  deriving DecidableEq, Repr

/-- The alignments that the optional header gives. -/
structure Alignment where
  sections : Nat
  file : Nat

/-- The size of an entry of the table of sections. -/
def entrySize : Nat := 40

/-- The greatest number of sections that are read. -/
def maxSections : Nat := 2048

/-- Sizes and addresses beyond this bound are odd. -/
def oddBound : Nat := 0x10000000

/-- Reads the entry at an offset. -/
def SectionHeader.at (c : Content) (offset : Nat) : SectionHeader where
  name := c.bytesAt offset 8
  virtualSize := c.numberAt (offset + 8) 4
  virtualAddress := c.numberAt (offset + 12) 4
  rawSize := c.numberAt (offset + 16) 4
  rawPointer := c.numberAt (offset + 20) 4
  flags := c.numberAt (offset + 36) 4

/-- `n` rounded down to a multiple of `unit`; `n` itself if the unit is zero. -/
def roundDown (n unit : Nat) : Nat := if unit == 0 then n else n - n % unit

/-- The number of oddities of an entry in a file of the given size. -/
def SectionHeader.oddities (s : SectionHeader) (alignment : Alignment) (fileSize : Nat) : Nat :=
  let unit := if alignment.sections < 0x1000 then alignment.file else alignment.sections
  let found : List Bool := [
    s.rawSize + s.rawPointer > fileSize,
    roundDown s.rawPointer 512 > fileSize,
    s.virtualSize > oddBound,
    roundDown s.virtualAddress unit > oddBound,
    alignment.file != 0 && s.rawPointer % alignment.file != 0]
  found.count true

/-- The name of a section without the zeros at its end. -/
def SectionHeader.trimmedName (s : SectionHeader) : List UInt8 :=
  (s.name.reverse.dropWhile (· == 0)).reverse

/-- The name of a section as a text. -/
def SectionHeader.nameText (s : SectionHeader) : Text := Text.Utf8.decode s.trimmedName

/-- The name of the section of pages that a driver can give back. -/
def pageName : List UInt8 := [0x50, 0x41, 0x47, 0x45]

/-- Whether a section is writable and executable, and would be so without suspicion in a driver. -/
def SectionHeader.asksForDriver (s : SectionHeader) : Bool :=
  s.flags / 0x80000000 % 2 == 1 && s.flags / 0x20000000 % 2 == 1 && s.trimmedName == pageName

/-- Reads up to `count` entries of the table from an offset on; `none` if one of them is cut off by
the end of the file. `known` says whether an earlier entry has been read. -/
def readSections (c : Content) (alignment : Alignment) (importing : Bool) :
    (count offset : Nat) → (known : Bool) → Attempt (Option (List SectionHeader))
  | 0, _, _ => .ok (some [])
  | count + 1, offset, known =>
    let left := c.size - offset
    if left == 0 then .ok (some [])
    else if left < entrySize then .ok none
    else if (c.bytesAt offset entrySize).all (· == 0) then .ok (some [])
    else
      let header := SectionHeader.at c offset
      if header.oddities alignment c.size ≥ 3 then .ok (some [])
      else if importing && header.asksForDriver then
        .error (.image (if known then .extentUnknown else .headerUnknown))
      else
        (readSections c alignment importing count (offset + entrySize) true).map
          (·.map (header :: ·))

/-- Puts an entry behind those whose address is not greater. -/
def insertByAddress (s : SectionHeader) : List SectionHeader → List SectionHeader
  | [] => [s]
  | t :: rest =>
    if s.virtualAddress ≤ t.virtualAddress then s :: t :: rest else t :: insertByAddress s rest

/-- Whether a file begins with the mark of an image. -/
def hasMark (c : Content) : Bool := 2 ≤ c.size && c.bytesAt 0 2 == [0x4D, 0x5A]

/-- Whether an optional header with the given magic number is whole, or lacks only fields that count
as zero: 69 of 96 bytes must be there, and 73 of 112 with the magic number of 64-bit images. -/
def hasOptionalHeader (magic left : Nat) : Bool :=
  69 ≤ left && (magic != 0x20B || 73 ≤ left)

/-- Whether the optional header at an offset names an import directory, the second in its list of
directories. -/
def hasImports (c : Content) (optionalHeader magic : Nat) : Bool :=
  let directories := optionalHeader + if magic == 0x20B then 112 else 96
  2 ≤ c.numberAt (directories - 4) 4 % 0x80000000 && c.numberAt (directories + 8) 4 != 0

/-- Reads the headers of an image; `none` if the file is no image. -/
def read (c : Content) : Attempt (Option Image) := do
  if !hasMark c || c.size < 64 then return none
  let signature := c.numberAt 60 4
  let fileHeader := signature + 4
  let optionalHeader := signature + 24
  if c.size < fileHeader || c.numberAt signature 4 != 0x4550 || c.size < optionalHeader then
    return none
  let magic := c.numberAt optionalHeader 2
  if !hasOptionalHeader magic (c.size - optionalHeader) then return none
  let alignment : Alignment :=
    ⟨c.numberAt (optionalHeader + 32) 4, c.numberAt (optionalHeader + 36) 4⟩
  let table := optionalHeader + c.numberAt (fileHeader + 16) 2
  let count := min (c.numberAt (fileHeader + 2) 2) maxSections
  let importing := hasImports c optionalHeader magic
  let sections ← readSections c alignment importing count table false
  return sections.map fun sections =>
    { machine := c.numberAt fileHeader 2
      bits := if magic == 0x20B then 64 else 32
      isDll := c.numberAt (fileHeader + 18) 2 / 0x2000 % 2 == 1
      entryPoint := c.numberAt (optionalHeader + 16) 4
      sectionNames := (sections.foldr insertByAddress []).map SectionHeader.nameText }

end Image

end SymbolAtlas
