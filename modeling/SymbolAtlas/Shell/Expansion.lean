/-
# SymbolAtlas.Shell.Expansion — what the words of a script stand for

A word is expanded to glyphs: characters that know whether they were quoted, written, or put in.
Where a word stands for fields, what was put in is split at separators, and patterns are replaced by
the names of files. Elsewhere the glyphs are read as one text, or as a pattern.
-/
import SymbolAtlas.Shell.Format
import SymbolAtlas.Shell.Pattern
import SymbolAtlas.Shell.State

namespace SymbolAtlas.Shell

/-! ## Parameters -/

/-- The characters that separate fields; blanks, tabs and line ends unless a variable tells others.
-/
def State.separators (state : State) : Text :=
  (state.valueOf? "IFS".toList).getD [' ', '\t', '\n']

/-- The number of the process that runs a script. It is the same for every script. -/
def processNumber : Nat := 1000

/-- The value of a parameter that stands for one text; `none` if it is not set. -/
def State.value? (state : State) (name : Text) : Option Text :=
  match name with
  | ['?'] => some (Octets.decimal state.status)
  | ['#'] => some (Octets.decimal state.arguments.length)
  | ['$'] => some (Octets.decimal processNumber)
  | ['!'] =>
    state.lastJob.map fun number => Octets.decimal (processNumber + number : Nat)
  | ['-'] => some (Flag.letters state.flags)
  | ['0'] => some state.name
  | _ =>
    if Octets.isNumber name then state.arguments[Octets.numberOf name - 1]?
    else state.valueOf? name

/-! ## Arithmetic -/

/-- The value of an arithmetic expression, which is shown by messages as it is in `shown`. -/
def Arithmetic.Expression.evaluate (shown : Text) : Arithmetic.Expression → Run Int
  | .number n => return n
  | .variable name => valueOf name
  | .unary operator operand => return operator.apply (← operand.evaluate shown)
  | .binary operator left right => do
    let a ← left.evaluate shown
    let b ← right.evaluate shown
    ofExcept (operator.apply a b)
  | .both left right => do
    if (← left.evaluate shown) = 0 then return 0
    return Arithmetic.truth ((← right.evaluate shown) ≠ 0)
  | .either left right => do
    if (← left.evaluate shown) ≠ 0 then return 1
    return Arithmetic.truth ((← right.evaluate shown) ≠ 0)
  | .choice condition yes no => do
    if (← condition.evaluate shown) ≠ 0 then yes.evaluate shown else no.evaluate shown
  | .assign name operator value => do
    let operand ← value.evaluate shown
    let result ← match operator with
      | none => pure operand
      | some operator => do ofExcept (operator.apply (← valueOf name) operand)
    setVariable name (Octets.decimal result)
    return result
where
  /-- The value of a variable as a number. -/
  valueOf (name : Text) : Run Int := do
    let value := ((← get).value? name).getD []
    match Arithmetic.number? value with
    | some n => return n
    | none => fail ("Illegal number: ".toList ++ value)
  /-- A result, unless there is a mistake in the expression. -/
  ofExcept : Except Arithmetic.Mistake Int → Run Int
    | .ok n => return n
    | .error mistake =>
      fail (s!"arithmetic expression: {mistake.message}: \"".toList ++ shown ++ ['"'])

/-- The value of the arithmetic expression that a text spells. -/
def arithmeticValue (s : Text) : Run Text := do
  match Arithmetic.read s with
  | .ok expression => return Octets.decimal (← expression.evaluate s)
  | .error mistake =>
    fail (s!"arithmetic expression: {mistake.message}: \"".toList ++ s ++ ['"'])

/-! ## Glyphs -/

/-- Where a character of an expanded word comes from. -/
inductive Origin
  | quoted
  | written
  | putIn
  deriving DecidableEq, Repr

/-- A part of an expanded word. -/
inductive Glyph
  | char (c : Char) (origin : Origin)
  /-- Quotes open, so there is a field even if nothing is in it. -/
  | mark
  /-- A field ends, and another one begins. -/
  | next
  /-- All arguments, and there are none, so quotes around them make no field. -/
  | absent
  deriving DecidableEq, Repr

/-- A text as glyphs of one origin. -/
def glyphsOf (origin : Origin) (s : Text) : List Glyph := s.map (Glyph.char · origin)

/-- A text without the line ends at its end. -/
def withoutLineEnds (s : Text) : Text := (s.reverse.dropWhile (· == '\n')).reverse

/-- The text that glyphs spell where they are not split. -/
def textOf (glyphs : List Glyph) : Text :=
  glyphs.filterMap fun glyph => match glyph with
    | .char c _ => some c
    | .next => some ' '
    | .mark | .absent => none

/-- The characters that glyphs spell as a pattern. -/
def markedOf (glyphs : List Glyph) : Marked :=
  glyphs.filterMap fun glyph => match glyph with
    | .char c origin => some (c, origin == .quoted)
    | .next => some (' ', false)
    | .mark | .absent => none

/-- The arguments as glyphs: quoted, each of them is a field of its own, or, in the place of `*`,
all are one text. -/
def State.argumentGlyphs (state : State) (star quoted : Bool) : List Glyph :=
  if !quoted then [Glyph.next].intercalate (state.arguments.map (glyphsOf .putIn))
  else if star then
    glyphsOf .quoted ((state.separators.take 1).intercalate state.arguments)
  else if state.arguments.isEmpty then [.absent]
  else [Glyph.next].intercalate (state.arguments.map fun a => .mark :: glyphsOf .quoted a)

/-- The greatest depth of braces within braces. -/
def maxNesting : Nat := 64

mutual

/-- The glyphs of a word; `interpret` runs a script that begins on a line. Inside of braces, where
`inner` is set, what is written counts as put in. -/
def expandWord (interpret : Nat → Text → Run Unit) (inner : Bool) : (depth : Nat) → Word →
    Run (List Glyph)
  | 0, _ => fail "Bad substitution".toList
  | depth + 1, w => do
    return (← w.mapM (expandPiece interpret inner depth)).flatten

/-- The glyphs of a piece. -/
def expandPiece (interpret : Nat → Text → Run Unit) (inner : Bool) : (depth : Nat) → Piece →
    Run (List Glyph)
  | _, .char c quoted =>
    return [.char c (if quoted then .quoted else if inner then .putIn else .written)]
  | _, .mark => return [.mark]
  | _, .malformed => fail "Bad substitution".toList
  | _, .output script line quoted => do
    let status := (← get).status
    let text ← captured do
      modify ({ · with tested := false })
      interpret line script
    modify fun state => { state with outputStatus := state.status, status := status }
    return glyphsOf (if quoted then .quoted else .putIn) (withoutLineEnds text)
  | 0, _ => fail "Bad substitution".toList
  | depth + 1, .arithmetic expression quoted => do
    let word := Word.ofText .quotes (← get).line expression
    let text := textOf (← expandWord interpret true depth word)
    return glyphsOf (if quoted then .quoted else .putIn) (← arithmeticValue text)
  | _ + 1, .size name quoted => do
    let state ← get
    let size ← if name = ['@'] || name = ['*'] then pure (Format.joined state.arguments).length
      else match state.value? name with
        | some value => pure value.length
        | none => if state.has .noUnset then fail (name ++ ": parameter not set".toList) else pure 0
    return glyphsOf (if quoted then .quoted else .putIn) (Octets.decimal size)
  | depth + 1, .parameter name operation quoted => do
    let state ← get
    let all := name = ['@'] || name = ['*']
    let value : Option Text := if all then
        if state.arguments.isEmpty then none else some (Format.joined state.arguments)
      else state.value? name
    let shown : List Glyph :=
      if all then state.argumentGlyphs (name = ['*']) quoted
      else glyphsOf (if quoted then .quoted else .putIn) (value.getD [])
    let place := if quoted then Place.quotes else .script
    let word (text : Text) : Run (List Glyph) :=
      expandWord interpret true depth (Word.ofText place state.line text)
    let (checked, operation, missing) : Option Text × Text × String := match operation with
      | ':' :: rest => (value.filter (!·.isEmpty), rest, "parameter not set or null")
      | _ => (value, operation, "parameter not set")
    let trimmed (remove : Pattern → Text → Text) (pattern : Text) : Run (List Glyph) := do
      let word := Word.ofText .script state.line pattern
      let marked := markedOf (← expandWord interpret true depth word)
      let text := remove (Pattern.ofMarked marked) (value.getD [])
      return glyphsOf (if quoted then .quoted else .putIn) text
    match operation with
    | '-' :: text => if checked.isSome then return shown else word text
    | '+' :: text => if checked.isSome then word text else return []
    | '=' :: text =>
      if checked.isSome then return shown
      let text := textOf (← word text)
      if !isName name then fail (name ++ ": bad variable name".toList)
      setVariable name text
      return glyphsOf (if quoted then .quoted else .putIn) text
    | '?' :: text =>
      if checked.isSome then return shown
      let message := textOf (← word text)
      fail (name ++ ": ".toList ++ if text.isEmpty then missing.toList else message)
    | _ =>
      if value.isNone && state.has .noUnset && !all then
        fail (name ++ ": parameter not set".toList)
      match operation with
      | '#' :: '#' :: pattern => trimmed (Pattern.removeFront · true) pattern
      | '#' :: pattern => trimmed (Pattern.removeFront · false) pattern
      | '%' :: '%' :: pattern => trimmed (Pattern.removeBack · true) pattern
      | '%' :: pattern => trimmed (Pattern.removeBack · false) pattern
      | _ => return shown

end

/-- A word whose tilde at the front is replaced by the home directory. -/
def Word.withHome (state : State) (w : Word) : Word :=
  match w, state.valueOf? "HOME".toList with
  | [.char '~' false], some home => home.map (Piece.char · true)
  | .char '~' false :: .char '/' false :: rest, some home =>
    home.map (Piece.char · true) ++ .char '/' true :: rest
  | _, _ => w

/-- The glyphs of a word. -/
def Word.glyphs (interpret : Nat → Text → Run Unit) (w : Word) : Run (List Glyph) := do
  expandWord interpret false maxNesting (w.withHome (← get))

/-- The text of a word that is not split. -/
def Word.text (interpret : Nat → Text → Run Unit) (w : Word) : Run Text :=
  return textOf (← w.glyphs interpret)

/-- The pattern that a word stands for. -/
def Word.pattern (interpret : Nat → Text → Run Unit) (w : Word) : Run Pattern :=
  return Pattern.ofMarked (markedOf (← w.glyphs interpret))

/-! ## Fields -/

/-- The fields that are finished, last field first, and the one that is being put together, last
character first. `soft` says that blanks have ended the last field: a separator behind them belongs
to them. -/
structure Fields where
  finished : List Marked := []
  current : Option Marked := none
  soft : Bool := false

namespace Fields

/-- Adds a character to the current field. -/
def add (fields : Fields) (c : Char) (quoted : Bool) : Fields :=
  { fields with current := some ((c, quoted) :: fields.current.getD []), soft := false }

/-- Ends the current field, if there is one. -/
def close (fields : Fields) (soft : Bool) : Fields :=
  match fields.current with
  | some marked => ⟨marked.reverse :: fields.finished, none, soft⟩
  | none => { fields with soft := fields.soft && soft }

/-- Ends a field at a separator that is no blank. -/
def separate (fields : Fields) : Fields :=
  if fields.current.isSome || fields.soft then fields.close false
  else ⟨[] :: fields.finished, none, false⟩

/-- Takes a glyph. -/
def step (separators : Text) (marks : Bool) (fields : Fields) : Glyph → Fields
  | .char c .quoted => fields.add c true
  | .char c .written => fields.add c false
  | .char c .putIn =>
    if c ∉ separators then fields.add c false
    else if Octets.isSpace c then
      if fields.current.isSome then fields.close true else fields
    else fields.separate
  | .mark => if marks then { fields with current := some (fields.current.getD []) } else fields
  | .next => fields.close false
  | .absent => fields

/-- The fields that glyphs make up. -/
def ofGlyphs (separators : Text) (glyphs : List Glyph) : List Marked :=
  let marks := !glyphs.contains .absent
  ((glyphs.foldl (step separators marks) {}).close false).finished.reverse

end Fields

/-! ## Names of files -/

/-- The names in a directory, in order. -/
def namesIn (ws : Workspace) (path : Text) : List Text :=
  match ws.locate (Octets.toText (if path.isEmpty then ['.'] else path)) with
  | .ok place =>
    let names := ws.nodes.filterMap fun (other, _) =>
      if !other.isEmpty && other.dropLast == place then other.getLast?.map Octets.ofText else none
    names.mergeSort Octets.precedes
  | .error _ => []

/-- The paths that begin with one of the given ones and go on with names that a pattern stands for.
A name that begins with a point needs a pattern that does so too. -/
def pathsBelow (ws : Workspace) (paths : List Text) (part : Marked) : List Text :=
  let pattern := Pattern.ofMarked part
  if pattern.isPlain then paths.map (· ++ part.map (·.1))
  else
    let hidden := part.head?.any (·.1 == '.')
    paths.flatMap fun path =>
      let names := (namesIn ws path).filter fun name =>
        (hidden || name.head? != some '.') && pattern.matchesText name
      names.map (path ++ ·)

/-- Whether anything, be it a link that leads nowhere, lies at a path. -/
def liesAt (ws : Workspace) (path : Text) : Bool :=
  let path := Octets.toText path
  (ws.stat path matches .ok _) || (ws.node? (ws.ownPlace path)).isSome

/-- The paths of the files that a field stands for as a pattern. -/
def pathsOf (ws : Workspace) (field : Marked) : List Text :=
  let parts := field.splitOnP fun (c, _) => c == '/'
  match parts with
  | [] => []
  | first :: rest =>
    let start := pathsBelow ws [[]] first
    let found := rest.foldl (fun paths part => pathsBelow ws (paths.map (· ++ ['/'])) part) start
    (found.filter (liesAt ws)).mergeSort Octets.precedes

/-- Whether a field can stand for names of files. -/
def isGlob (field : Marked) : Bool :=
  field.any fun (c, quoted) => !quoted && c ∈ ['*', '?', '[']

/-- The fields that a word stands for. -/
def Word.fields (interpret : Nat → Text → Run Unit) (w : Word) : Run (List Text) := do
  let glyphs ← w.glyphs interpret
  let state ← get
  let fields := Fields.ofGlyphs state.separators glyphs
  return fields.flatMap fun field =>
    let literal := field.map (·.1)
    if isGlob field && !state.has .noGlob then
      let paths := pathsOf state.workspace field
      if paths.isEmpty then [literal] else paths
    else [literal]

end SymbolAtlas.Shell
