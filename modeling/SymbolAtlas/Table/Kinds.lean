/-
# SymbolAtlas.Table.Kinds — the five tables of an analysis and their queries

Exports, imports, calls, files and file names each have a table. A query by file accepts a path for
an identity, and finds everything recorded for that content whatever its path; a query by file name
accepts a path or a plain name.
-/
import SymbolAtlas.Table.Basic

namespace SymbolAtlas

/-! ## Columns -/

instance : Entity ExportEntry where
  Key := FileIdentity × Text
  keyEq := inferInstance
  key := ExportEntry.key
  columns := [
    ⟨"symbol".toList, fun e => some (.text e.symbol)⟩,
    ⟨"short_name".toList, fun e => some (.text e.shortName)⟩,
    ⟨"provider".toList, fun e => some (.identity e.provider.identity)⟩,
    ⟨"prototype".toList, fun e => (e.prototype.filter fun p => !p.isEmpty).map .text⟩]
  label := ExportEntry.label
  toJson := ExportEntry.toJson

instance : Entity ImportEntry where
  Key := FilePath × Text × Text
  keyEq := inferInstance
  key := ImportEntry.key
  columns := [
    ⟨"symbol".toList, fun e => some (.text e.symbol)⟩,
    ⟨"short_name".toList, fun e => some (.text e.shortName)⟩,
    ⟨"caller".toList, fun e => some (.identity e.calledFrom.identity)⟩,
    ⟨"provider".toList, fun e => some (.hint e.provider)⟩]
  label := ImportEntry.label
  toJson := ImportEntry.toJson

instance : Entity CallEntry where
  Key := FileIdentity × Text × Text
  keyEq := inferInstance
  key := CallEntry.key
  columns := [
    ⟨"file".toList, fun e => some (.identity e.calledFrom.identity)⟩,
    ⟨"caller".toList, fun e => some (.text e.caller)⟩,
    ⟨"callee".toList, fun e => some (.text e.callee)⟩]
  label := CallEntry.label
  toJson := CallEntry.toJson

instance : Entity FilePath where
  Key := FilePath
  keyEq := inferInstance
  key := id
  columns := [
    ⟨"hint".toList, fun p => some (.hint p.hint)⟩,
    ⟨"full_name".toList, fun p => some (.text p.fullName)⟩,
    ⟨"checksum".toList, fun p => some (.text p.identity.checksum)⟩]
  label := FilePath.label
  toJson := FilePath.toJson

instance : Entity FileHint where
  Key := Text
  keyEq := inferInstance
  key := FileHint.key
  columns := []
  label := FileHint.label
  toJson := FileHint.toJson

abbrev ExportTable := Table ExportEntry
abbrev ImportTable := Table ImportEntry
abbrev CallTable := Table CallEntry
abbrev FilePathTable := Table FilePath
abbrev FileHintTable := Table FileHint

/-! ## Listings -/

/-- The text of a value that is one. -/
def Value.text? : Value → Option Text
  | .text s => some s
  | _ => none

/-- The distinct symbols of the exports. -/
def ExportTable.symbols (t : ExportTable) : List Value := t.valuesOf "symbol".toList

/-- The distinct short names of the exports. -/
def ExportTable.shortFunctionNames (t : ExportTable) : List Value :=
  t.valuesOf "short_name".toList

/-- The distinct identities of the exporting files. -/
def ExportTable.providers (t : ExportTable) : List Value := t.valuesOf "provider".toList

/-- The distinct symbols of the imports. -/
def ImportTable.symbols (t : ImportTable) : List Value := t.valuesOf "symbol".toList

/-- The distinct symbols of the imports, as texts. -/
def ImportTable.symbolTexts (t : ImportTable) : List Text := t.symbols.filterMap Value.text?

/-- The distinct short names of the imports. -/
def ImportTable.shortFunctionNames (t : ImportTable) : List Value :=
  t.valuesOf "short_name".toList

/-- The distinct identities of the importing files. -/
def ImportTable.callers (t : ImportTable) : List Value := t.valuesOf "caller".toList

/-- The distinct names of the providing files, each in the spelling seen first. -/
def ImportTable.providers (t : ImportTable) : List Value := t.valuesOf "provider".toList

/-- The distinct callers of the call edges. -/
def CallTable.callers (t : CallTable) : List Value := t.valuesOf "caller".toList

/-- The distinct callees of the call edges. -/
def CallTable.callees (t : CallTable) : List Value := t.valuesOf "callee".toList

/-! ## Queries -/

/-- A path stands for the identity of its content. -/
def Value.asIdentity : Value → Value
  | .path p => .identity p.identity
  | value => value

/-- A path stands for its last name. -/
def Value.pathAsHint : Value → Value
  | .path p => .hint p.hint
  | value => value

/-- A text stands for the file name that it spells. -/
def Value.textAsHint : Value → Value
  | .text name => .hint ⟨name⟩
  | value => value

namespace ExportTable

/-- The exports with the symbol. -/
def forSymbol (t : ExportTable) (symbol : Option Value) : Attempt (List ExportEntry) :=
  t.lookup "symbol".toList symbol

/-- The exports with the short name. -/
def forShortName (t : ExportTable) (name : Option Value) : Attempt (List ExportEntry) :=
  t.lookup "short_name".toList name

/-- The exports of every file with the identity, or with the identity of the path. -/
def forProvider (t : ExportTable) (file : Option Value) : Attempt (List ExportEntry) :=
  t.lookup "provider".toList (file.map Value.asIdentity)

/-- The exports with the prototype. -/
def forPrototype (t : ExportTable) (prototype : Option Value) : Attempt (List ExportEntry) :=
  t.lookup "prototype".toList prototype

end ExportTable

namespace ImportTable

/-- The imports of the symbol. -/
def forSymbol (t : ImportTable) (symbol : Option Value) : Attempt (List ImportEntry) :=
  t.lookup "symbol".toList symbol

/-- The imports with the short name. -/
def forShortName (t : ImportTable) (name : Option Value) : Attempt (List ImportEntry) :=
  t.lookup "short_name".toList name

/-- The imports of every file with the identity, or with the identity of the path. -/
def forCaller (t : ImportTable) (file : Option Value) : Attempt (List ImportEntry) :=
  t.lookup "caller".toList (file.map Value.asIdentity)

/-- The imports from the file name, or from the last name of the path, in any case. -/
def forProvider (t : ImportTable) (file : Option Value) : Attempt (List ImportEntry) :=
  t.lookup "provider".toList (file.map Value.pathAsHint)

end ImportTable

namespace CallTable

/-- The call edges of every file with the identity, or with the identity of the path. -/
def forFile (t : CallTable) (file : Option Value) : Attempt (List CallEntry) :=
  t.lookup "file".toList (file.map Value.asIdentity)

/-- The call edges from the symbol. -/
def forCaller (t : CallTable) (symbol : Option Value) : Attempt (List CallEntry) :=
  t.lookup "caller".toList symbol

/-- The call edges to the symbol. -/
def forCallee (t : CallTable) (symbol : Option Value) : Attempt (List CallEntry) :=
  t.lookup "callee".toList symbol

end CallTable

namespace FilePathTable

/-- The paths whose content has the checksum. -/
def forChecksum (t : FilePathTable) (checksum : Option Value) : Attempt (List FilePath) :=
  t.lookup "checksum".toList checksum

/-- The paths whose last name is the file name, in any case. -/
def forHint (t : FilePathTable) (hint : Option Value) : Attempt (List FilePath) :=
  t.lookup "hint".toList (hint.map Value.textAsHint)

/-- The path as it is spelled, with each content that was seen there. -/
def forName (t : FilePathTable) (fullName : Option Value) : Attempt (List FilePath) :=
  t.lookup "full_name".toList fullName

end FilePathTable

/-- The stored file name that agrees with `name` up to case. -/
def FileHintTable.find (t : FileHintTable) (name : Text) : Attempt (Option FileHint) :=
  match t.rowOfKey? (name.lower : Text) with
  | some rowId => (itemAt t.entries rowId).map some
  | none => .ok none

end SymbolAtlas
