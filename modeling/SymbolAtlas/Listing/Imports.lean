/-
# SymbolAtlas.Listing.Imports — the import section and the lists of dependencies

In the import section a line of one word names a file, and the lines of a number and a name below it
are the functions imported from that file. Lines of more words describe the file; they must begin
with a number and are passed over. A list of dependencies names one file in each line.
-/
import SymbolAtlas.Entity
import SymbolAtlas.Listing.Section
import SymbolAtlas.Listing.Token

namespace SymbolAtlas

namespace Imports

/-- An error of the import section. -/
def fail {α : Type} (defect : Defect) (lineIndex : Nat) (line : Text) : Attempt α :=
  .error (.parse ⟨"imports".toList, defect, some lineIndex, some line⟩)

/-- What one line of the body is. -/
inductive Line
  | blank
  | provider (name : Text)
  | symbol (name : Text)
  | detail
  | malformed
  deriving DecidableEq, Repr

/-- Recognises a line by its words. The symbol is what follows the number in the line. -/
def Line.ofText (line : Text) : Line :=
  match line.words with
  | [] => .blank
  | [name] => .provider name
  | number :: rest =>
    if !Token.isHex number then .malformed
    else if rest.length > 1 then .detail
    else .symbol (Text.trim (Text.afterFirst number line))

/-- Reads the lines of a body from top to bottom, below the file name given. -/
def readBody (caller : FilePath) (provider : Option FileHint) :
    List (Nat × Text) → Attempt (List ImportEntry)
  | [] => .ok []
  | (index, line) :: rest =>
    match Line.ofText line with
    | .blank => readBody caller provider rest
    | .detail => readBody caller provider rest
    | .provider name => readBody caller (some ⟨name⟩) rest
    | .malformed => fail .importWithoutNumber index line
    | .symbol name =>
      match provider with
      | none => fail .importWithoutProvider index line
      | some hint => (readBody caller provider rest).map (⟨caller, hint, name, name⟩ :: ·)

/-- The functions that a listing shows as imported by `caller`. -/
def read (lines : List Text) (caller : FilePath) : Attempt (List ImportEntry) := do
  let bounds ← Listing.importsSection.find lines
  readBody caller none (bounds.body lines)

end Imports

namespace Dependents

/-- The files named in a section, one for each line that is not blank. -/
def readSection (spec : SectionSpec) (lines : List Text) : Attempt (List FileHint) := do
  let bounds ← spec.find lines
  return ((bounds.body lines).map fun (_, line) => line.trim).filterMap fun name =>
    if name.isEmpty then none else some ⟨name⟩

/-- The files that are loaded at start. -/
def direct (lines : List Text) : Attempt (List FileHint) :=
  readSection Listing.dependentsSection lines

/-- The files that are loaded on first use. -/
def delayed (lines : List Text) : Attempt (List FileHint) :=
  readSection Listing.delayDependentsSection lines

end Dependents

end SymbolAtlas
