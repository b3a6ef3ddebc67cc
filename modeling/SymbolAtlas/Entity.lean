/-
# SymbolAtlas.Entity — files and symbols, and when two of them are the same

A binary is identified by its content, not by where it lies: two copies of a file under different
directories share one identity, so their exports and calls are the same ones. File names are
compared without regard to case and keep their spelling for display. Each kind of entity has a key,
and two entities are the same if their keys are equal.
-/
import SymbolAtlas.Json
import SymbolAtlas.WindowsPath

namespace SymbolAtlas

/-! ## Files -/

/-- The identity of a binary: the checksum of its content and its size. -/
structure FileIdentity where
  checksum : Text
  byteSize : Int
  deriving DecidableEq, Repr, Inhabited

/-- A file name without a directory, such as a library named in an import section. -/
structure FileHint where
  name : Text
  deriving DecidableEq, Repr, Inhabited

/-- A path together with the identity of the content found there. -/
structure FilePath where
  fullName : Text
  identity : FileIdentity
  deriving DecidableEq, Repr, Inhabited

/-- What two spellings of one file name have in common. -/
def FileHint.key (h : FileHint) : Text := h.name.lower

/-- The last name of the path. -/
def FilePath.hint (p : FilePath) : FileHint := ⟨WindowsPath.baseName p.fullName⟩

/-! ## Symbols -/

/-- A function that `provider` exports. The symbol is the decorated name where there is one; the
prototype is the declaration in brackets, if the listing shows it. -/
structure ExportEntry where
  provider : FilePath
  prototype : Option Text
  symbol : Text
  shortName : Text
  deriving DecidableEq, Repr, Inhabited

/-- A function that `calledFrom` imports from the file named by `provider`. -/
structure ImportEntry where
  calledFrom : FilePath
  provider : FileHint
  symbol : Text
  shortName : Text
  deriving DecidableEq, Repr, Inhabited

/-- A call edge seen in the disassembly of `calledFrom`. -/
structure CallEntry where
  calledFrom : FilePath
  caller : Text
  callee : Text
  deriving DecidableEq, Repr, Inhabited

/-- Two exports are the same if the provider's content and the symbol are. -/
def ExportEntry.key (e : ExportEntry) : FileIdentity × Text := (e.provider.identity, e.symbol)

/-- Two imports are the same if the importing path with its content, the provider's name in any case
and the symbol are. -/
def ImportEntry.key (e : ImportEntry) : FilePath × Text × Text :=
  (e.calledFrom, e.provider.key, e.symbol)

/-- Two call edges are the same if the file's content, caller and callee are. -/
def CallEntry.key (e : CallEntry) : FileIdentity × Text × Text :=
  (e.calledFrom.identity, e.caller, e.callee)

/-! ## Display -/

def FileIdentity.label (i : FileIdentity) : Text := i.checksum

def FileHint.label (h : FileHint) : Text := h.name

def FilePath.label (p : FilePath) : Text := p.fullName ++ '(' :: p.identity.label ++ [')']

def ExportEntry.label (e : ExportEntry) : Text :=
  e.symbol ++ '(' :: e.provider.hint.label ++ [')']

def ImportEntry.label (e : ImportEntry) : Text := e.symbol

def CallEntry.label (e : CallEntry) : Text := e.callee ++ '(' :: e.caller ++ [')']

def FileIdentity.toJson (i : FileIdentity) : Json :=
  .obj [("checksum", .text i.checksum), ("byte_size", .int i.byteSize)]

def FileHint.toJson (h : FileHint) : Json := .obj [("name", .text h.name)]

def FilePath.toJson (p : FilePath) : Json :=
  .obj [("path", .text p.fullName), ("identity", p.identity.toJson)]

def ExportEntry.toJson (e : ExportEntry) : Json :=
  .obj [("provider", .text e.provider.fullName), ("symbol", .text e.symbol),
    ("short_name", .text e.shortName), ("prototype", .text? e.prototype)]

def ImportEntry.toJson (e : ImportEntry) : Json :=
  .obj [("called_from", .text e.calledFrom.fullName), ("provider", .text e.provider.name),
    ("symbol", .text e.symbol), ("short_name", .text e.shortName)]

def CallEntry.toJson (e : CallEntry) : Json :=
  .obj [("file", .text e.calledFrom.fullName), ("caller", .text e.caller),
    ("callee", .text e.callee)]

end SymbolAtlas
