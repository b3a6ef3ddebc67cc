/-
# SymbolAtlas.Failure — the ways in which a step can fail, and their wording

Failures are causes: each constructor holds what a reader of the failure may want to look at. The
wording is given once, by `message`.
-/
import SymbolAtlas.Number.Tenths
import SymbolAtlas.Text.Quoted

namespace SymbolAtlas

/-- A text as a string. -/
def Text.str (s : Text) : String := String.ofList s

/-- A text between quotes, as messages show it. -/
def Text.quoted (s : Text) : String := String.ofList (Text.Quoted.encode s)

/-! ## Listings that do not follow their grammar -/

/-- What is wrong with a listing. -/
inductive Defect
  /-- An export line lacks a column, or a column is not a number. -/
  | unrecognizedExport
  /-- The name text of an export holds neither a decorated name nor a prototype. -/
  | namelessExport
  /-- An import line of several columns does not begin with a number. -/
  | importWithoutNumber
  /-- A function is imported before any file name. -/
  | importWithoutProvider
  /-- A required section has fewer header lines than it needs. -/
  | incompleteHeader (seen : Nat) (needed : Int)
  /-- A defect in words. -/
  | described (text : Text)
  deriving DecidableEq, Repr

/-- The wording of a defect. -/
def Defect.message : Defect → String
  | .unrecognizedExport => "Unrecognized text in dumpbin EXPORTS output"
  | .namelessExport => "Export name has neither prototype nor decorated name"
  | .importWithoutNumber => "Expects imported function to start with hexadecimal value"
  | .importWithoutProvider => "Imported function listed before any file name"
  | .incompleteHeader seen needed =>
    s!"Unable to parse through lines of header from output ({seen} of {needed} header lines seen)"
  | .described text => text.str

/-- A defect with its place: the section, the index of the line and the line as it was read. -/
structure ParseError where
  sectionName : Text
  defect : Defect
  lineIndex : Option Int := none
  line : Option Text := none
  deriving DecidableEq, Repr

/-- The wording of a parse error. The line is shown below it without its margins. -/
def ParseError.message (e : ParseError) : String :=
  let place := match e.lineIndex with
    | some index => s!" at line {index}"
    | none => ""
  let shown := match e.line with
    | some line => "\n    " ++ line.trim.str
    | none => ""
  s!"[{e.sectionName.str}] {e.defect.message}{place}{shown}"

/-! ## Tools that cannot be run, or fail -/

/-- Why the system does not start a program. -/
inductive LaunchError
  | noSuchFile
  | notADirectory
  | permissionDenied
  | notExecutable
  | tooManyLinks
  | nameTooLong
  deriving DecidableEq, Repr

/-- The number of a launch error. -/
def LaunchError.number : LaunchError → Nat
  | .noSuchFile => 2
  | .notADirectory => 20
  | .permissionDenied => 13
  | .notExecutable => 8
  | .tooManyLinks => 40
  | .nameTooLong => 36

/-- The wording of a launch error. -/
def LaunchError.reason : LaunchError → String
  | .noSuchFile => "No such file or directory"
  | .notADirectory => "Not a directory"
  | .permissionDenied => "Permission denied"
  | .notExecutable => "Exec format error"
  | .tooManyLinks => "Too many levels of symbolic links"
  | .nameTooLong => "File name too long"

/-- A launch error with its number. -/
def LaunchError.describe (e : LaunchError) : String := s!"[Errno {e.number}] {e.reason}"

/-- Why a tool is not available. -/
inductive MissingTool
  /-- The locator of installations is not a file. -/
  | locator (path : Text)
  /-- The locator names no installation. -/
  | unreported
  /-- The installation that the locator names is not a directory. -/
  | installation (path : Text)
  /-- The path of the dumper does not look like one. -/
  | misnamed (path : Text)
  /-- The dumper is not a file. -/
  | dumper (path : Text)
  /-- A program cannot be started. -/
  | launch (program : Text) (error : LaunchError)
  deriving DecidableEq, Repr

/-- The wording of a missing tool. -/
def MissingTool.message : MissingTool → String
  | .locator path => "Cannot launch vswhere.exe: " ++ path.str
  | .unreported => "Output from vswhere.exe does not mention installation path."
  | .installation path =>
    "Installation path reported by vswhere.exe does not exist: " ++ path.str
  | .misnamed path => "Invalid path for dumpbin.exe: " ++ path.str
  | .dumper path => "Cannot invoke dumpbin.exe: " ++ path.str
  | .launch program error =>
    s!"Cannot launch {program.str}: {error.describe}: {program.quoted}"

/-- A tool that ended with an exit status other than zero, or ran out of time. -/
structure ExecutionError where
  command : List Text
  exitStatus : Int
  output : List Text
  deriving DecidableEq, Repr

/-- The last ten lines of the output. -/
def ExecutionError.tail (e : ExecutionError) : List Text := e.output.drop (e.output.length - 10)

/-- The wording of an execution error, with the tail of the output below it. -/
def ExecutionError.message (e : ExecutionError) : String :=
  let tail := String.intercalate "\n" (e.tail.map Text.str)
  let command := String.intercalate " " (e.command.map Text.str)
  s!"{command} exited with status {e.exitStatus}" ++ if tail.isEmpty then "" else ":\n" ++ tail

/-! ## Files that cannot be used -/

/-- The greatest size of a file that is examined: 512 MB. -/
def sizeLimit : Nat := 512 * 1024 * 1024

/-- Why a file is not examined. -/
inductive FileError
  | missing (path : Text)
  | notRegular (path : Text)
  | tooLarge (size : Nat)
  | symlinkLoop (path : Text)
  | nameTooLong (path : Text)
  | nullCharacter
  deriving DecidableEq, Repr

/-- The wording of a file error. -/
def FileError.message : FileError → String
  | .missing path => "File not found: " ++ path.str
  | .notRegular path => "Not a regular file: " ++ path.str
  | .tooLarge size =>
    let megabyte := 1024 * 1024
    s!"File too large ({(Tenths.write size megabyte).str} MB). " ++
      s!"Limit is {sizeLimit / megabyte} MB."
  | .symlinkLoop path => "Symlink loop from " ++ path.quoted
  | .nameTooLong path => "[Errno 36] File name too long: " ++ path.quoted
  | .nullCharacter => "embedded null byte"

/-- Why the import directory of an image cannot be found. -/
inductive ImageError
  /-- No section is known yet, and the extent of the headers is not known. -/
  | headerUnknown
  /-- The extent of a section that is known is not settled yet. -/
  | extentUnknown
  deriving DecidableEq, Repr

/-- The wording of an image error. -/
def ImageError.message : ImageError → String
  | .headerUnknown => "'PE' object has no attribute 'header'"
  | .extentUnknown =>
    "'SectionStructure' object has no attribute 'next_section_virtual_address'"

/-! ## All failures -/

/-- Why a time limit cannot be used. -/
inductive LimitError
  | notANumber
  | infinite
  | beyondNumbers
  | beyondClock
  | beyondWait
  deriving DecidableEq, Repr

/-- The wording of an unusable time limit. -/
def LimitError.message : LimitError → String
  | .notANumber => "cannot convert float NaN to integer"
  | .infinite => "cannot convert float infinity to integer"
  | .beyondNumbers => "int too large to convert to float"
  | .beyondClock => "timestamp too large to convert to C _PyTime_t"
  | .beyondWait => "timeout is too large"

/-- Any failure of a step. -/
inductive Failure
  | parse (error : ParseError)
  | missingTool (cause : MissingTool)
  | execution (error : ExecutionError)
  | file (error : FileError)
  | limit (error : LimitError)
  | image (error : ImageError)
  /-- A list has no item at the index. -/
  | noItem
  /-- An index is wider than 64 bits. -/
  | indexTooWide
  /-- A text has no character at the index. -/
  | noCharacter
  /-- A text spells no number in base sixteen. -/
  | notHexadecimal (text : Text)
  /-- A text spells no number. -/
  | notNumeric (text : Text)
  /-- A table has no column of the name. -/
  | unknownColumn (name : Text)
  /-- A tool was to be run without arguments. -/
  | noArguments
  /-- The key for the language model is not set. -/
  | noModelKey
  deriving DecidableEq, Repr

/-- The number of characters of an unreadable number that its message shows. -/
def shownNumberLength : Nat := 200

/-- The wording of a failure. -/
def Failure.message : Failure → String
  | .parse error => error.message
  | .missingTool cause => cause.message
  | .execution error => error.message
  | .file error => error.message
  | .limit error => error.message
  | .image error => error.message
  | .noItem => "list index out of range"
  | .indexTooWide => "cannot fit 'int' into an index-sized integer"
  | .noCharacter => "string index out of range"
  | .notHexadecimal text =>
    let shown := (Text.Quoted.encode text).take shownNumberLength
    "invalid literal for int() with base 16: " ++ Text.str shown
  | .notNumeric text => "could not convert string to float: " ++ text.quoted
  | .unknownColumn name => name.quoted
  | .noArguments => "Arguments list should not be empty."
  | .noModelKey => "GOOGLE_API_KEY environment variable not set."

/-- A computation that may fail. -/
abbrev Attempt := Except Failure

end SymbolAtlas
