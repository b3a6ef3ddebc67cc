/-
# SymbolAtlas.Binary.Description — what is said of a binary without dumping it

A file is described by its path, its identity and, if it is an image, by its headers. A file that is
no image has no machine, no width and no sections.
-/
import SymbolAtlas.Binary.Image
import SymbolAtlas.Entity
import SymbolAtlas.Failure
import SymbolAtlas.Number.Hexadecimal

namespace SymbolAtlas

/-- The name of a machine; machines without a name are shown by their number. -/
def Image.machineName (machine : Nat) : Text :=
  if machine == 0x14C then "x86".toList
  else if machine == 0x8664 then "x86_64".toList
  else if machine == 0x1C0 then "ARM".toList
  else if machine == 0xAA64 then "ARM64".toList
  else Hexadecimal.writeMarked machine

/-- A file with what its headers say, if it is an image. -/
structure Description where
  file : FilePath
  image : Option Image

namespace Description

/-- The name of the machine; empty if the file is no image. -/
def arch (d : Description) : Text :=
  match d.image with
  | some image => Image.machineName image.machine
  | none => []

/-- The width of addresses in bits; zero if the file is no image. -/
def bits (d : Description) : Nat := (d.image.map (·.bits)).getD 0

/-- Whether the file is a library. -/
def isDll (d : Description) : Bool := (d.image.map (·.isDll)).getD false

/-- The description in one sentence. -/
def summary (d : Description) : String :=
  let arch := if d.arch.isEmpty then "unknown" else Text.str d.arch
  let kind := if d.isDll then "DLL" else "image"
  let bits := if d.bits == 0 then "" else s!" ({d.bits}-bit)"
  s!"{arch} {kind}{bits}, {d.file.identity.byteSize} bytes, " ++
    s!"SHA-1 {Text.str d.file.identity.checksum}."

/-- A description as a report shows it. -/
def toJson (d : Description) : Json :=
  .obj [("path", .text d.file.fullName), ("identity", d.file.identity.toJson),
    ("arch", .text d.arch), ("bits", .int d.bits), ("is_dll", .bool d.isDll),
    ("entry_point", .text (Hexadecimal.writeMarked ((d.image.map (·.entryPoint)).getD 0))),
    ("section_names", .texts ((d.image.map (·.sectionNames)).getD [])),
    ("summary", .str d.summary)]

end Description

end SymbolAtlas
