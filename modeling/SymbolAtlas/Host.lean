/-
# SymbolAtlas.Host — what the library asks of the system that it runs on

A host answers questions about its files and runs programs. Its state is left open, and every answer
may change it: so a file may disappear, and a program may answer differently, between one question
and the next. Whatever is said of all hosts holds of such systems too.
-/
import SymbolAtlas.Binary.Sha1
import SymbolAtlas.Failure
import SymbolAtlas.Settings
import SymbolAtlas.Text.Lines
import SymbolAtlas.Text.Utf8

namespace SymbolAtlas

/-! ## Programs -/

/-- How long a program may run, in seconds: a whole number, or any other. -/
inductive TimeLimit
  | whole (seconds : Int)
  | fractional (seconds : Float)

/-- The limit as messages show it. -/
def TimeLimit.text : TimeLimit → String
  | .whole seconds => toString seconds
  | .fractional seconds => (Settings.durationText seconds).str

/-- What a program has printed, and the status that it ended with: the number of the signal,
negated, if a signal ended it. Diagnostics are kept apart from the output. -/
structure ProcessResult where
  lines : List Text
  exitStatus : Int
  errorLines : List Text
  deriving DecidableEq, Repr

/-- The lines that the captured bytes of a program spell. -/
def capturedLines (bytes : Option (List UInt8)) : List Text :=
  Text.lines (Text.Utf8.decode (bytes.getD []))

/-- A program that was stopped because it outlived its time limit. -/
def timedOut (command : List Text) (limit : TimeLimit) : Failure :=
  .execution ⟨command, -1, [s!"timed out after {limit.text} seconds".toList]⟩

/-! ## Hosts -/

/-- What lies at an absolute path. -/
inductive FileState
  | absent
  | regular (content : Content)
  | other

/-- A system with state `σ`. -/
structure Host (σ : Type) where
  /-- Whether the path leads to a regular file. -/
  isFile : Text → StateM σ Bool
  /-- Whether the path leads to a directory. -/
  isDirectory : Text → StateM σ Bool
  /-- Whether the path leads to anything. -/
  isPresent : Text → StateM σ Bool
  /-- The absolute path without links that a path stands for. -/
  resolve : Text → StateM σ (Except FileError Text)
  /-- What lies at a resolved path. -/
  inspect : Text → StateM σ (Except FileError FileState)
  /-- Runs a command to its end. -/
  run : Option TimeLimit → List Text → StateM σ (Attempt ProcessResult)

/-- A step on a host that may fail; a failing step keeps its effects. -/
abbrev Step (σ : Type) := ExceptT Failure (StateM σ)

/-- A question to the host as a step that does not fail. -/
def Step.ask {σ α : Type} (question : StateM σ α) : Step σ α := ExceptT.lift question

/-- A question to the host about a file, which may fail. -/
def Step.askFile {σ α : Type} (question : StateM σ (Except FileError α)) : Step σ α :=
  ExceptT.mk do return (← question).mapError Failure.file

/-- A result of a computation without effects as a step. -/
def Step.ofAttempt {σ α : Type} (attempt : Attempt α) : Step σ α := ExceptT.mk (pure attempt)

/-! ## Binaries -/

/-- A binary to be examined: its resolved path with its identity, and its content. -/
structure Target where
  file : FilePath
  content : Content

/-- The resolved path of a regular file within the size limit, with its content. -/
def validFile {σ : Type} (host : Host σ) (path : Text) : Step σ (Text × Content) := do
  let resolved ← Step.askFile (host.resolve path)
  match ← Step.askFile (host.inspect resolved) with
  | .absent => throw (.file (.missing resolved))
  | .other => throw (.file (.notRegular resolved))
  | .regular content =>
    if content.size > sizeLimit then throw (.file (.tooLarge content.size))
    return (resolved, content)

/-- The binary at a path. -/
def target {σ : Type} (host : Host σ) (path : Text) : Step σ Target := do
  let (resolved, content) ← validFile host path
  return ⟨⟨resolved, content.identity⟩, content⟩

end SymbolAtlas
