/-
# SymbolAtlas.Report.Pipeline — dumping a binary and analysing the dumps

Each part of the binary that is asked for is dumped once, before anything is read; a part that is
not asked for is neither dumped nor read. The imports are always dumped, because they name targets
of calls.
-/
import SymbolAtlas.Analysis
import SymbolAtlas.Invoker

namespace SymbolAtlas

/-- The parts of a binary to be dumped beside its imports. -/
structure Parts where
  disassemble : Bool := true
  exports : Bool := true
  dependents : Bool := true
  deriving DecidableEq, Repr

namespace Analysis

variable {σ : Type}

/-- Dumps a part if it is asked for. -/
def dumpIf (host : Host σ) (wanted : Bool) (part : Dump) (path : Text) :
    Session σ (Option (List Text)) := do
  if wanted then return some (← Invoker.dump host part path)
  return none

/-- Dumps and analyses a binary. -/
def ofBinary (host : Host σ) (parts : Parts) (file : FilePath) : Session σ Analysis := do
  let exports ← dumpIf host parts.exports .exports file.fullName
  let imports ← Invoker.dump host .imports file.fullName
  let disassembly ← dumpIf host parts.disassemble .disassembly file.fullName
  let dependents ← dumpIf host parts.dependents .dependents file.fullName
  liftExcept (ofDumps file {
    exports := exports.getD []
    imports := imports
    disassembly := disassembly
    dependents := dependents })
where
  /-- A result of the analysis as a step of the session. -/
  liftExcept (attempt : Attempt Analysis) : Session σ Analysis := ExceptT.mk (pure attempt)

/-- Finds the binary at a path, dumps and analyses it. -/
def ofPath (host : Host σ) (parts : Parts) (path : Text) : Session σ Analysis := do
  ofBinary host parts (← Session.onHost (target host path)).file

/-- Dumps and analyses the calls of a binary only. -/
def ofCalls (host : Host σ) (file : FilePath) : Session σ Analysis :=
  ofBinary host { exports := false, dependents := false } file

end Analysis

end SymbolAtlas
