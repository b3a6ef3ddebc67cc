/-
# SymbolAtlas.Shell.Builtin.Variables — commands on variables, arguments and options

The commands of the shell read their options up to the first operand; an option that they do not
know is an error. Variables are marked, set, unset, made local and read; arguments are set and
shifted away.
-/
import SymbolAtlas.Shell.Condition
import SymbolAtlas.Shell.Expansion

namespace SymbolAtlas.Shell.Builtin

/-! ## Arguments -/

/-- Takes options of one letter from the front of arguments. The letters in `plain` stand alone,
those in `valued` take a value, and any other one is an error. `pending` waits for its value. -/
def optionsAtFront (plain valued : List Char) : (pending : Option Char) → List Text →
    Run (List (Char × Text) × List Text)
  | none, [] => return ([], [])
  | some letter, [] => fail s!"No arg for -{letter} option".toList
  | some letter, value :: rest => do
    let (options, operands) ← optionsAtFront plain valued none rest
    return ((letter, value) :: options, operands)
  | none, argument :: rest => do
    match argument with
    | ['-', '-'] => return ([], rest)
    | '-' :: first :: more =>
      let letters := first :: more
      let alone := letters.takeWhile (· ∈ plain)
      let before := alone.map fun letter => (letter, [])
      match letters.drop alone.length with
      | [] =>
        let (options, operands) ← optionsAtFront plain valued none rest
        return (before ++ options, operands)
      | letter :: value =>
        if letter ∉ valued then fail s!"Illegal option -{letter}".toList
        let pending := if value.isEmpty then some letter else none
        let given := if value.isEmpty then [] else [(letter, value)]
        let (options, operands) ← optionsAtFront plain valued pending rest
        return (before ++ given ++ options, operands)
    | _ => return ([], argument :: rest)

/-- The options at the front of arguments, and the operands. -/
def takeOptions (plain valued : List Char) (arguments : List Text) :
    Run (List (Char × Text) × List Text) :=
  optionsAtFront plain valued none arguments

/-- The count that an argument spells. -/
def countOf (argument : Text) : Run Nat :=
  match Condition.decimal? argument with
  | some n =>
    if 0 ≤ n && n < Int.pow 2 31 then return n.toNat
    else fail ("Illegal number: ".toList ++ argument)
  | none => fail ("Illegal number: ".toList ++ argument)

/-- The name in front of an equals sign, and what stands behind the sign. -/
def splitAssignment (argument : Text) : Text × Option Text :=
  let name := argument.takeWhile (· != '=')
  (name, (argument.drop name.length).tail?)

/-- A text between quotes, as it could be written in a script: single quotes, and double ones around
single ones. -/
def written (s : Text) : Text :=
  let groups := s.splitBy fun c d => (c == quoteMark) == (d == quoteMark)
  let groups := if s.head?.all (· == quoteMark) then [] :: groups else groups
  groups.flatMap fun group =>
    if group.head? == some quoteMark then '"' :: group ++ ['"']
    else quoteMark :: group ++ [quoteMark]

/-! ## Variables -/

/-- The variables that pass a test, each on a line behind a command. -/
def variableLines (command : Text) (test : Variable → Bool) : Run Text := do
  let entries := ((← get).bindings.filter fun (_, entry) => test entry).mergeSort
    fun a b => Octets.precedes a.1 b.1
  return entries.flatMap fun (name, entry) =>
    let value := match entry.value with
      | some value => '=' :: written value
      | none => []
    command ++ name ++ value ++ ['\n']

/-- Refuses a name that no variable can have. -/
def checkName (name : Text) : Run Unit := do
  if !isName name then fail (name ++ ": bad variable name".toList)

/-- Marks variables, which can be set to values at the same time. -/
def markVariables (command : String) (mark : Variable → Variable) (marked : Variable → Bool)
    (arguments : List Text) : Run Unit := do
  let (options, operands) ← takeOptions ['p'] [] arguments
  if operands.isEmpty || !options.isEmpty then
    print (← variableLines (command.toList ++ [' ']) marked)
  for operand in operands do
    let (name, value) := splitAssignment operand
    checkName name
    match value with
    | some value => setVariable name value
    | none => pure ()
    modify fun state => state.withVariable name (some (mark (state.variable name)))
  setStatus 0

/-- Marks variables for export. -/
def exportVariables : List Text → Run Unit :=
  markVariables "export" ({ · with exported := true }) (·.exported)

/-- Marks variables as read-only. -/
def protectVariables : List Text → Run Unit :=
  markVariables "readonly" ({ · with readOnly := true }) (·.readOnly)

/-- Unsets variables or functions. -/
def unset (arguments : List Text) : Run Unit := do
  let (options, operands) ← takeOptions ['f', 'v'] [] arguments
  let ofFunctions := options.getLast?.any (·.1 == 'f')
  for name in operands do
    let state ← get
    if ofFunctions then
      set { state with functions := state.functions.filter (·.1 != name) }
    else
      checkName name
      if (state.variable name).readOnly then fail (name ++ ": is read only".toList)
      set (state.withVariable name none)
  setStatus 0

/-- Makes variables local to the call of a function; they keep their values until they are set. -/
def localVariables (arguments : List Text) : Run Unit := do
  if (← get).saved.isNone then fail "not in a function".toList
  for argument in arguments do
    let (name, value) := splitAssignment argument
    checkName name
    modify fun state =>
      let saved := state.saved.getD []
      if (saved.lookup name).isSome then state
      else { state with saved := some ((name, state.bindings.lookup name) :: saved) }
    match value with
    | some value => setVariable name value
    | none => pure ()
  setStatus 0

/-! ## Options and arguments of the script -/

/-- Sets an option or clears it. -/
def setFlag (flag : Flag) (on : Bool) : Run Unit :=
  modify fun state =>
    let others := state.flags.filter (· != flag)
    { state with flags := if on then flag :: others else others }

/-- Sets the option of a name, or lists the options if there is no name. -/
def setNamedFlag (name : Option Text) (on : Bool) : Run Unit := do
  let flags := (← get).flags
  match name with
  | none => put 1 (if on then Flag.listing flags else Flag.commands flags)
  | some name =>
    match Flag.ofName? name with
    | some flag => setFlag flag on
    | none => fail ("Illegal option -o ".toList ++ name)

/-- Sets the options at the front of arguments, and gives the arguments behind them and whether a
shell is to run the first of those as a script. -/
def takeFlags (ofShell : Bool) : List Text → Run (Bool × List Text)
  | [] => return (false, [])
  | argument :: rest => do
    match argument with
    | ['-'] =>
      if !ofShell then
        setFlag .trace false
        setFlag .verbose false
      return (false, rest)
    | ['-', '-'] =>
      if !ofShell && rest.isEmpty then modify ({ · with arguments := [] })
      return (false, rest)
    | sign :: letters =>
      if sign != '-' && sign != '+' then return (false, argument :: rest)
      for letter in letters do
        if letter == 'o' then setNamedFlag rest.head? (sign == '-')
        else if !(ofShell && letter == 'c') then
          match Flag.ofLetter? letter with
          | some flag => setFlag flag (sign == '-')
          | none => fail s!"Illegal option -{letter}".toList
      have _shorter : rest.tail.length ≤ rest.length := by simp
      let (asked, operands) ←
        if 'o' ∈ letters then takeFlags ofShell rest.tail else takeFlags ofShell rest
      return (asked || 'c' ∈ letters, operands)
    | [] => return (false, argument :: rest)
termination_by arguments => arguments.length

/-- Sets options and arguments; without arguments the variables are listed. -/
def setOptions (arguments : List Text) : Run Unit := do
  if arguments.isEmpty then print (← variableLines [] (·.value.isSome))
  else
    let (_, operands) ← takeFlags false arguments
    if !operands.isEmpty then modify ({ · with arguments := operands })
    setStatus 0

/-- Drops arguments from the front. -/
def shift (arguments : List Text) : Run Unit := do
  let count ← match arguments with
    | count :: _ => countOf count
    | [] => pure 1
  let state ← get
  if state.arguments.length < count then fail "can't shift that many".toList
  set { state with status := 0, arguments := state.arguments.drop count }

/-! ## Reading -/

/-- Reads a line: its characters, with a mark on those behind a backslash, whether it has an end,
and what is left. A backslash at the end of a line joins it to the next one unless it is `raw`. -/
def takeLine (raw : Bool) : Text → List (Char × Bool) × Bool × Text
  | [] => ([], false, [])
  | ['\\'] => (if raw then [('\\', false)] else [], false, [])
  | '\\' :: c :: rest =>
    if raw then
      let (line, ended, left) := takeLine raw (c :: rest)
      (('\\', false) :: line, ended, left)
    else
      let (line, ended, left) := takeLine raw rest
      (if c == '\n' then line else (c, true) :: line, ended, left)
  | c :: rest =>
    if c == '\n' then ([], true, rest)
    else
      let (line, ended, left) := takeLine raw rest
      (if c.toNat == 0 then line else (c, false) :: line, ended, left)

/-- Whether a character of a line separates fields and is a blank, a tab or a line end. -/
def isSoft (separators : Text) : Char × Bool → Bool :=
  fun (c, escaped) => !escaped && c ∈ separators && Octets.isSpace c

/-- Whether a character of a line separates fields. -/
def isSeparator (separators : Text) : Char × Bool → Bool :=
  fun (c, escaped) => !escaped && c ∈ separators

/-- What is behind the separator at the front of a line: blanks with at most one other character. -/
def behindSeparator (separators : Text) (line : List (Char × Bool)) : List (Char × Bool) :=
  match line.dropWhile (isSoft separators) with
  | c :: rest =>
    if isSeparator separators c then rest.dropWhile (isSoft separators) else c :: rest
  | [] => []

/-- What the last of several variables gets: all that is left of a line without the blanks at its
end, and without its separator if there is nothing behind it. -/
def lastField (separators : Text) (line : List (Char × Bool)) : Text :=
  let field := line.takeWhile (!isSeparator separators ·)
  let whole := (line.reverse.dropWhile (isSoft separators)).reverse
  let rest := behindSeparator separators (line.drop field.length)
  (if rest.isEmpty then field else whole).map (·.1)

/-- Gives variables the fields of a line, the last one all that is left. -/
def assignFields (separators : Text) : List Text → List (Char × Bool) → Run Unit
  | [], _ => pure ()
  | [name], line => setVariable name (lastField separators line)
  | name :: names, line => do
    let field := line.takeWhile (!isSeparator separators ·)
    setVariable name (field.map (·.1))
    assignFields separators names (behindSeparator separators (line.drop field.length))

/-- Reads a line of the standard input into variables; the status says whether the line has an end.
-/
def readLine (arguments : List Text) : Run Unit := do
  let (options, names) ← takeOptions ['r'] ['p'] arguments
  if names.isEmpty then fail "arg count".toList
  names.forM checkName
  let state ← get
  let raw := options.any (·.1 == 'r')
  let (line, ended, left) := takeLine raw (state.inputOf 0)
  leaveInput 0 left
  let separators := state.separators
  assignFields separators names (line.dropWhile (isSoft separators))
  setStatus (if ended then 0 else 1)

end SymbolAtlas.Shell.Builtin
