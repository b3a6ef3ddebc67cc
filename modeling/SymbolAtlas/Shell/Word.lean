/-
# SymbolAtlas.Shell.Word — the words of a script as they are written

A word is a list of pieces: characters, quoted or not, and what is put in where the word is used.
The text inside of braces, of a command substitution and of an arithmetic expression is kept as it
is written, and is read when it is needed.
-/
import SymbolAtlas.Text.Basic

namespace SymbolAtlas.Shell

/-! ## Pieces -/

/-- A part of a word. -/
inductive Piece
  | char (c : Char) (quoted : Bool)
  /-- The value of a parameter, and what the text behind its name in braces makes of it. -/
  | parameter (name operation : Text) (quoted : Bool)
  /-- The length of the value of a parameter. -/
  | size (name : Text) (quoted : Bool)
  /-- What a script prints that begins on the given line; a script between back quotes counts its
  lines on its own. -/
  | output (script : Text) (line : Nat) (quoted : Bool)
  | arithmetic (expression : Text) (quoted : Bool)
  /-- Braces that hold no parameter. -/
  | malformed
  /-- The place where quotes open: even empty quotes make a word. -/
  | mark
  deriving DecidableEq, Repr

/-- A word before anything is put in. -/
abbrev Word := List Piece

/-- What a script ends in the middle of. -/
inductive Unfinished
  | quotes
  | braces
  | substitution
  | backQuotes
  | arithmetic
  deriving DecidableEq, Repr

/-- The wording of an unfinished script. -/
def Unfinished.message : Unfinished → String
  | .quotes => "Unterminated quoted string"
  | .braces => "Missing '\x7d'"
  | .substitution => "end of file unexpected (expecting \")\")"
  | .backQuotes => "EOF in backquote substitution"
  | .arithmetic => "Missing '))'"

/-! ## Characters -/

/-- The single quote. -/
def quoteMark : Char := Char.ofNat 0x27

/-- The back quote. -/
def backQuote : Char := Char.ofNat 0x60

/-- Whether a character can be part of the name of a variable. -/
def isNameChar (c : Char) : Bool := c.isAlphanum || c == '_'

/-- Whether a text is the name of a variable. -/
def isName (s : Text) : Bool := s.all isNameChar && s.head?.any (!·.isDigit)

/-- The parameters that are named by a mark. -/
def specialParameters : List Char := ['?', '#', '@', '*', '!', '$', '-']

/-! ## Closing marks -/

/-- What a stretch of text is inside of. -/
inductive Nest
  | brace
  /-- Braces inside of quotes, where a single quote is a character like others. -/
  | quotedBrace
  | parenthesis
  /-- A selection by patterns, whose closing parentheses close nothing. -/
  | selection
  | single
  | double
  | back
  | comment
  deriving DecidableEq, Repr

/-- Whether a character closes what it stands in. -/
def Nest.isClosedBy (c : Char) : Nest → Bool
  | .brace | .quotedBrace => c == '\x7d'
  | .parenthesis => c == ')'
  | .selection => false
  | .single => c == quoteMark
  | .double => c == '"'
  | .back => c == backQuote
  | .comment => c == '\n'

/-- Whether commands can stand in it. -/
def Nest.holdsCommands (nest : Nest) : Bool := nest == .parenthesis || nest == .selection

/-- What a character opens. `fresh` says whether a word can begin at the character. -/
def Nest.opened? (nest : Nest) (fresh : Bool) (c : Char) : Option Nest :=
  if nest == .single || nest == .comment then none
  else if c == '"' && nest != .back then some .double
  else if c == backQuote then some .back
  else if c == quoteMark && (nest == .brace || nest.holdsCommands) then some .single
  else if c == '(' && nest.holdsCommands then some .parenthesis
  else if c == '#' && fresh && nest.holdsCommands then some .comment
  else none

/-- Whether a text begins with a word that a blank or a line end follows. -/
def startsWithWord (word s : Text) : Bool :=
  word.isPrefixOf s && (s.drop word.length).head?.all fun c => c ∈ [' ', '\t', '\n', ';', ')']

/-- Whether a word can begin behind a character. -/
def separates (c : Char) : Bool := c ∈ [' ', '\t', '\n', ';', '(', ')', '&', '|']

/-- Splits a text behind the character that closes the outermost of the things it is inside of, the
innermost one first in `nests`. `fresh` says whether a word can begin at the start of the text. -/
def splitClosing (nests : List Nest) (fresh : Bool) : Text → Option (Text × Text)
  | [] => none
  | '$' :: c :: rest =>
    if c == '\x7b' && nests.head? != some .single then
      let inner := if nests.head? == some .double then Nest.quotedBrace else .brace
      (splitClosing (inner :: nests) false rest).map fun (a, b) => ('$' :: c :: a, b)
    else if c == '(' && nests.head? != some .single then
      (splitClosing (.parenthesis :: nests) true rest).map fun (a, b) => ('$' :: c :: a, b)
    else (splitClosing nests false (c :: rest)).map fun (a, b) => ('$' :: a, b)
  | '\\' :: c :: rest =>
    if nests.head? == some .single || nests.head? == some .comment then
      (splitClosing nests false (c :: rest)).map fun (a, b) => ('\\' :: a, b)
    else (splitClosing nests false rest).map fun (a, b) => ('\\' :: c :: a, b)
  | c :: rest =>
    match nests with
    | [] => none
    | nest :: outer =>
      if nest.isClosedBy c then
        if outer.isEmpty then some ([], rest)
        else (splitClosing outer (separates c) rest).map fun (a, b) => (c :: a, b)
      else
        let nests := match nest.opened? fresh c with
          | some inner => inner :: nests
          | none =>
            if fresh && nest.holdsCommands && startsWithWord "case".toList (c :: rest) then
              .selection :: nests
            else if fresh && nest == .selection && startsWithWord "esac".toList (c :: rest) then
              outer
            else nests
        (splitClosing nests (separates c) rest).map fun (a, b) => (c :: a, b)

/-- Splits a text behind the next back quote. A backslash before a dollar sign, a back quote or a
backslash is left out, and inside of quotes one before a double quote as well. -/
def splitBackQuoted (quoted : Bool) : Text → Option (Text × Text)
  | [] => none
  | '\\' :: c :: rest =>
    let kept := if c ∈ ['$', backQuote, '\\'] || (quoted && c == '"') then [c] else ['\\', c]
    (splitBackQuoted quoted rest).map fun (a, b) => (kept ++ a, b)
  | c :: rest =>
    if c == backQuote then some ([], rest)
    else (splitBackQuoted quoted rest).map fun (a, b) => (c :: a, b)

/-! ## Parameters -/

/-- Whether a text can follow the name of a parameter in braces. -/
def isOperation : Text → Bool
  | [] => true
  | ':' :: c :: _ => c ∈ ['-', '+', '=', '?']
  | c :: _ => c ∈ ['-', '+', '=', '?', '#', '%']

/-- The piece that the text in braces stands for. -/
def Piece.ofBraces (quoted : Bool) (content : Text) : Piece :=
  let named (name operation : Text) : Piece :=
    if isOperation operation then .parameter name operation quoted else .malformed
  match content with
  | ['#', c] =>
    if isNameChar c || c ∈ specialParameters then .size [c] quoted else .malformed
  | '#' :: c :: rest =>
    if isNameChar c then
      if rest.all isNameChar then .size (c :: rest) quoted else .malformed
    else named ['#'] (c :: rest)
  | c :: rest =>
    if c.isDigit then
      let name := content.takeWhile Char.isDigit
      named name (content.drop name.length)
    else if isNameChar c then
      let name := content.takeWhile isNameChar
      named name (content.drop name.length)
    else if c ∈ specialParameters then named [c] rest
    else .malformed
  | [] => .malformed

/-- Reads what follows a dollar sign on the given line: a piece, and the rest of the text. -/
def dollar (line : Nat) (quoted : Bool) : Text → Except Unfinished (Piece × Text)
  | '\x7b' :: rest =>
    match splitClosing [if quoted then .quotedBrace else .brace] false rest with
    | some (content, after) => .ok (Piece.ofBraces quoted content, after)
    | none => .error .braces
  | '(' :: '(' :: rest =>
    match splitClosing [.parenthesis] false rest with
    | some (expression, ')' :: after) => .ok (.arithmetic expression quoted, after)
    | _ => .error .arithmetic
  | '(' :: rest =>
    match splitClosing [.parenthesis] true rest with
    | some (script, after) => .ok (.output script line quoted, after)
    | none => .error .substitution
  | c :: rest =>
    if c.isDigit || c ∈ specialParameters then .ok (.parameter [c] [] quoted, rest)
    else if isNameChar c then
      let name := (c :: rest).takeWhile isNameChar
      .ok (.parameter name [] quoted, (c :: rest).drop name.length)
    else .ok (.char '$' quoted, c :: rest)
  | [] => .ok (.char '$' quoted, [])

/-! ## Reading -/

/-- Which quotes the next character stands in. -/
inductive Quoting
  | none
  | single
  | double
  deriving DecidableEq, Repr

/-- Where a word stands: in a script, in braces inside of quotes, or in a document that a script
holds. -/
inductive Place
  | script
  | quotes
  | document
  deriving DecidableEq, Repr

/-- Whether a backslash takes the special meaning of a character that is quoted already. -/
def isEscapable (place : Place) (c : Char) : Bool :=
  c ∈ ['$', backQuote, '\\'] || (c == '"' && place != .document) ||
    (c == '\x7d' && place == .quotes)

/-- Reads the next characters of a word, on the given line: their pieces, the quotes behind them,
and the rest. -/
def readPart (place : Place) (line : Nat) (quoting : Quoting) :
    Text → Except Unfinished (Word × Quoting × Text)
  | [] => .ok ([], quoting, [])
  | c :: rest =>
    if quoting == .single then
      if c == quoteMark then .ok ([], .none, rest) else .ok ([.char c true], .single, rest)
    else
      let quoted := quoting == .double || place != .script
      if c == '$' then (dollar line quoted rest).map fun (piece, after) => ([piece], quoting, after)
      else if c == backQuote then
        match splitBackQuoted quoted rest with
        | some (script, after) => .ok ([.output script 1 quoted], quoting, after)
        | none => .error .backQuotes
      else if c == '"' && place != .document then
        if place == .quotes then .ok ([], quoting, rest)
        else if quoting == .double then .ok ([], .none, rest)
        else .ok ([.mark], .double, rest)
      else if c == quoteMark && !quoted then .ok ([.mark], .single, rest)
      else match c, rest with
        | '\\', d :: after =>
          if d == '\n' then .ok ([], quoting, after)
          else if quoted && !isEscapable place d then .ok ([.char '\\' true], quoting, rest)
          else .ok ([.char d true], quoting, after)
        | _, _ => .ok ([.char c quoted], quoting, rest)

/-- Reads a text on the given line as one word. Each step takes at least one character, so `fuel`
need not exceed the length of the text by more than one. -/
def readWord (place : Place) (line : Nat) : (fuel : Nat) → Quoting → Text → Except Unfinished Word
  | 0, _, _ => .ok []
  | _ + 1, quoting, [] => if quoting == .none then .ok [] else .error .quotes
  | fuel + 1, quoting, c :: rest => do
    let (pieces, quoting, after) ← readPart place line quoting (c :: rest)
    return pieces ++ (← readWord place line fuel quoting after)

/-- The word that a text on the given line stands for. An unfinished text stands for no word. -/
def Word.ofText (place : Place) (line : Nat) (s : Text) : Word :=
  match readWord place line (s.length + 1) .none s with
  | .ok word => word
  | .error _ => [.malformed]

/-- The text of a word that holds no quotes and nothing that is put in. -/
def Word.plain? (w : Word) : Option Text :=
  w.mapM fun piece => match piece with
    | .char c false => some c
    | _ => none

/-- The name and the value of a word that is an assignment. -/
def Word.assignment? (w : Word) : Option (Text × Word) :=
  let front := w.takeWhile fun piece => match piece with
    | .char c false => isNameChar c
    | _ => false
  match w.drop front.length with
  | .char '=' false :: value => do
    let name ← Word.plain? front
    if isName name then some (name, value) else none
  | _ => none

end SymbolAtlas.Shell
