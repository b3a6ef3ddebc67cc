/-
# SymbolAtlas.Shell.Format — what `echo` and `printf` print

Both replace escapes. `printf` also replaces conversions by its arguments and starts over as long as
arguments are left; an argument that is no number is reported, and the part of it that is one is
used.
-/
import SymbolAtlas.Shell.Arithmetic

namespace SymbolAtlas.Shell.Format

/-! ## Escapes -/

/-- The escapes of one letter with their codes. -/
def letters : List (Char × Nat) :=
  [('a', 7), ('b', 8), ('e', 27), ('f', 12), ('n', 10), ('r', 13), ('t', 9), ('v', 11),
    ('\\', 0x5C)]

/-- Whether a character is an octal digit. -/
def isOctal (c : Char) : Bool := '0' ≤ c && c ≤ '7'

/-- The byte that at most three octal digits spell, and the text behind them. -/
def octal (s : Text) : Char × Text :=
  let digits := (s.take 3).takeWhile isOctal
  (Char.ofNat (digits.foldl (fun n c => 8 * n + (c.toNat - 48)) 0 % 256), s.drop digits.length)

/-- Reads what follows a backslash: a character and the rest of the text. Where `zeroLed` is set,
octal digits may follow a zero. A backslash that begins no escape stands for itself. -/
def escape (zeroLed : Bool) : Text → Char × Text
  | [] => ('\\', [])
  | c :: rest =>
    match letters.lookup c with
    | some code => (Char.ofNat code, rest)
    | none =>
      if !isOctal c then ('\\', c :: rest)
      else if zeroLed && c == '0' then octal rest
      else octal (c :: rest)

/-- Replaces the escapes of a text, and says whether `\c` has ended the output. Each step takes at
least one character, so `fuel` need not exceed the length of the text by more than one. -/
def unescape : (fuel : Nat) → Text → Text × Bool
  | 0, _ | _, [] => ([], false)
  | _ + 1, '\\' :: 'c' :: _ => ([], true)
  | fuel + 1, '\\' :: rest =>
    let (c, after) := escape true rest
    let (more, ended) := unescape fuel after
    (c :: more, ended)
  | fuel + 1, c :: rest =>
    let (more, ended) := unescape fuel rest
    (c :: more, ended)

/-- Replaces all escapes of a text. -/
def unescapeAll (s : Text) : Text × Bool := unescape (s.length + 1) s

/-! ## Output of arguments -/

/-- The arguments with a blank between each two of them. -/
def joined (arguments : List Text) : Text := [' '].intercalate arguments

/-- What the shell's own `echo` prints. -/
def echo (arguments : List Text) : Text :=
  let (arguments, lineEnd) : List Text × Text := match arguments with
    | ['-', 'n'] :: rest => (rest, [])
    | _ => (arguments, ['\n'])
  let (text, ended) := unescapeAll (joined arguments)
  if ended then text else text ++ lineEnd

/-- Whether an argument of the program `echo` is a group of its options. -/
def isEchoOption : Text → Bool
  | '-' :: letters => !letters.isEmpty && letters.all (· ∈ ['n', 'e', 'E'])
  | _ => false

/-- What the program `echo` prints: escapes stand for themselves unless `-e` asks for them. -/
def echoProgram (arguments : List Text) : Text :=
  let options := (arguments.takeWhile isEchoOption).flatten
  let text := joined (arguments.dropWhile isEchoOption)
  let escaped := (options.filter (· ∈ ['e', 'E'])).getLast? = some 'e'
  let (text, ended) := if escaped then unescapeAll text else (text, false)
  if ended || 'n' ∈ options then text else text ++ ['\n']

/-! ## Conversions -/

/-- A conversion of a format. -/
structure Conversion where
  flags : Text
  width : Nat
  precision : Option Nat
  letter : Char

/-- Puts a sign or mark and digits into a width. -/
def Conversion.place (conversion : Conversion) (mark digits : Text) (zeros : Bool) : Text :=
  let missing := conversion.width - (mark.length + digits.length)
  if '-' ∈ conversion.flags then mark ++ digits ++ List.replicate missing ' '
  else if zeros && '0' ∈ conversion.flags then mark ++ List.replicate missing '0' ++ digits
  else List.replicate missing ' ' ++ mark ++ digits

/-- The sign of a number. -/
def Conversion.sign (conversion : Conversion) (negative : Bool) : Text :=
  if negative then ['-']
  else if '+' ∈ conversion.flags then ['+']
  else if ' ' ∈ conversion.flags then [' ']
  else []

/-- A whole number. Numbers without a sign are those of 64 bits. -/
def Conversion.wholeNumber (conversion : Conversion) (n : Int) : Text :=
  let signed := conversion.letter == 'd' || conversion.letter == 'i'
  let size := if signed then n.natAbs else (n % Int.pow 2 64).toNat
  let base := match conversion.letter with
    | 'o' => 8
    | 'x' | 'X' => 16
    | _ => 10
  let digits := Nat.toDigits base size
  let digits := if conversion.letter == 'X' then digits.map Char.toUpper else digits
  let digits := List.replicate (conversion.precision.getD 1 - digits.length) '0' ++ digits
  let marked := '#' ∈ conversion.flags && size != 0
  let mark :=
    if signed then conversion.sign (n < 0)
    else if marked && base == 16 then ['0', conversion.letter]
    else if marked && base == 8 then ['0']
    else []
  conversion.place mark digits conversion.precision.isNone

/-- A text, of which only so many bytes are used as the precision allows. -/
def Conversion.text (conversion : Conversion) (s : Text) : Text :=
  conversion.place [] (s.take (conversion.precision.getD s.length)) false

/-! ## Arguments -/

/-- A value that an argument spells, with what is wrong with the argument. -/
structure Reading where
  value : Int
  warning : Option String := none

/-- A reading of the front of an argument, of which the rest is not used. -/
def Reading.ofFront (argument : Text) (value : Int) (read : Bool) (rest : Text) : Reading :=
  { value := value
    warning :=
      if argument.isEmpty then none
      else if !read then some s!"{String.ofList argument}: expected numeric value"
      else if rest.isEmpty then none
      else some s!"{String.ofList argument}: not completely converted" }

/-- The sign of a number, and what follows it. Blanks may precede it. -/
def splitSign (s : Text) : Bool × Text :=
  match s.dropWhile fun c => Octets.isSpace c || c == '\r' with
  | '-' :: rest => (true, rest)
  | '+' :: rest => (false, rest)
  | rest => (false, rest)

/-- The whole number that an argument spells; behind a quote it is the code of a character. -/
def readWhole (signed : Bool) (argument : Text) : Reading :=
  match argument with
  | '"' :: rest => ⟨((rest.head?.map Char.toNat).getD 0 : Nat), none⟩
  | c :: rest =>
    if c == quoteMark then ⟨((rest.head?.map Char.toNat).getD 0 : Nat), none⟩
    else
      let (negative, digits) := splitSign argument
      let (n, after) := Arithmetic.leadingNumber digits
      let (low, high) : Int × Int :=
        if signed then (-Int.pow 2 63, Int.pow 2 63 - 1)
        else (-(Int.pow 2 64 - 1), Int.pow 2 64 - 1)
      let n : Int := if negative then -(n : Int) else n
      if n < low || high < n then
        ⟨if signed && negative then low else high,
          some s!"{String.ofList argument}: Numerical result out of range"⟩
      else .ofFront argument n (digits.head?.any Char.isDigit) after
  | [] => ⟨0, none⟩

/-! ## Formats -/

/-- How a pass over a format ends. -/
inductive Stop
  | formatEnd
  /-- `\c` in an argument ends the output. -/
  | outputEnd
  | failure (message : String)
  deriving DecidableEq, Repr

/-- What a pass over a format prints and reports, and the arguments that it leaves. -/
structure Pass where
  text : Text
  warnings : List String := []
  left : List Text
  stop : Stop := .formatEnd

/-- Something printed before a pass. -/
def Pass.after (pass : Pass) (text : Text) (warnings : List String := []) : Pass :=
  { pass with text := text ++ pass.text, warnings := warnings ++ pass.warnings }

/-- A width or a precision: digits, or an argument in the place of a star. -/
def readCount (s : Text) (arguments : List Text) : Int × Text × List Text :=
  match s with
  | '*' :: rest => ((readWhole true (arguments.headD [])).value, rest, arguments.tail)
  | _ =>
    let digits := s.takeWhile Char.isDigit
    (Octets.numberOf digits, s.drop digits.length, arguments)

/-- The letters of conversions. -/
def conversionLetters : Text := "diouxXcsb".toList

/-- Prints one argument by a conversion: the text, what is wrong with the argument, and whether the
output ends. -/
def Conversion.print (conversion : Conversion) (argument : Option Text) :
    Text × List String × Bool :=
  let given := argument.getD []
  match conversion.letter with
  | 's' => (conversion.text given, [], false)
  | 'b' =>
    let (text, ended) := unescapeAll given
    (conversion.text text, [], ended)
  | 'c' => (conversion.place [] [given.headD (Char.ofNat 0)] false, [], false)
  | letter =>
    let reading := readWhole (letter == 'd' || letter == 'i') given
    (conversion.wholeNumber reading.value, reading.warning.toList, false)

/-- Prints a format once. Each step takes at least one character, so `fuel` need not exceed the
length of the format by more than one. -/
def printOnce : (fuel : Nat) → Text → List Text → Pass
  | 0, _, arguments | _, [], arguments => { text := [], left := arguments }
  | fuel + 1, '\\' :: rest, arguments =>
    let (c, after) := escape false rest
    (printOnce fuel after arguments).after [c]
  | fuel + 1, '%' :: '%' :: rest, arguments => (printOnce fuel rest arguments).after ['%']
  | fuel + 1, '%' :: rest, arguments =>
    let flags := rest.takeWhile (· ∈ ['#', '-', '+', ' ', '0'])
    let (width, behind, arguments) := readCount (rest.drop flags.length) arguments
    let (precision, behind, arguments) : Option Int × Text × List Text := match behind with
      | '.' :: after =>
        let (precision, behind, arguments) := readCount after arguments
        (some precision, behind, arguments)
      | _ => (none, behind, arguments)
    match behind with
    | [] => { text := [], left := [], stop := .failure "missing format character" }
    | letter :: after =>
      if letter ∈ conversionLetters then
        let conversion : Conversion := {
          flags := if width < 0 then '-' :: flags else flags
          width := width.natAbs
          precision := (precision.filter (0 ≤ ·)).map Int.toNat
          letter := letter }
        let (text, warnings, ended) := conversion.print arguments.head?
        if ended then { text := text, warnings := warnings, left := [], stop := .outputEnd }
        else (printOnce fuel after arguments.tail).after text warnings
      else
        let directive := '%' :: rest.take (rest.length - after.length)
        { text := [], left := [],
          stop := .failure (String.ofList directive ++ ": invalid directive") }
  | fuel + 1, c :: rest, arguments => (printOnce fuel rest arguments).after [c]

/-- Prints a format until no arguments are left. A pass that takes no argument is the last one. -/
def passes (format : Text) : (fuel : Nat) → List Text → Pass
  | 0, arguments => { text := [], left := arguments }
  | fuel + 1, arguments =>
    let pass := printOnce (format.length + 1) format arguments
    let isLast := pass.left.isEmpty || pass.left.length == arguments.length
    if pass.stop != .formatEnd || isLast then pass
    else (passes format fuel pass.left).after pass.text pass.warnings

/-- What `printf` prints, and what it reports. -/
def printf (format : Text) (arguments : List Text) : Pass :=
  passes format (arguments.length + 1) arguments

end SymbolAtlas.Shell.Format
