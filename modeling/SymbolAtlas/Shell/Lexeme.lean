/-
# SymbolAtlas.Shell.Lexeme — a script cut into words and operators

A script is cut from left to right. A document that a script holds below a line, after two opening
angles, is read together with the delimiter that announces it, and its lines are left out when the
line ends. An unfinished script ends with a lexeme that says what is missing.
-/
import SymbolAtlas.Shell.Word

namespace SymbolAtlas.Shell

/-- What a redirection does with the file or the descriptor that its word names. -/
inductive RedirectKind
  | read
  | write
  /-- Like `write`, even if files are not to be replaced. -/
  | replace
  | append
  | readWrite
  | duplicate
  /-- The word is the input itself. -/
  | document
  deriving DecidableEq, Repr

/-- A lexical unit of a script. -/
inductive Token
  | word (w : Word)
  | operator (symbol : String)
  | redirect (descriptor : Nat) (kind : RedirectKind)
  | newline
  | unfinished (cause : Unfinished)
  deriving DecidableEq, Repr

/-- A token with the number of the line that it ends on. -/
structure Lexeme where
  token : Token
  line : Nat
  deriving DecidableEq, Repr

/-! ## Documents -/

/-- The text behind a number of line ends. -/
def dropLines : (count : Nat) → Text → Text
  | 0, s => s
  | _, [] => []
  | count + 1, c :: rest => if c == '\n' then dropLines count rest else dropLines (count + 1) rest

/-- The lines of a document up to its delimiter, and whether the delimiter is there. -/
def takeDocument (delimiter : Text) (stripped : Bool) : List Text → List Text × Bool
  | [] | [[]] => ([], false)
  | line :: below =>
    let line := if stripped then line.dropWhile (· == '\t') else line
    if line == delimiter then ([], true)
    else
      let (lines, found) := takeDocument delimiter stripped below
      (line :: lines, found)

/-- Reads what follows two opening angles: the document as a word, the number of lines that it
takes, and the rest of the text; `none` if there is no delimiter. Nothing is put in if the delimiter
is quoted. `taken` lines below belong to earlier documents. -/
def readDocument? (taken : Nat) (s : Text) : Option (Word × Nat × Text) :=
  let (stripped, s) := match s with
    | '-' :: rest => (true, rest)
    | _ => (false, s)
  let s := s.dropWhile fun c => c == ' ' || c == '\t'
  let rec delimiter (quote : Option Char) : Text → Text × Bool × Text
    | [] => ([], false, [])
    | c :: rest =>
      if quote == some c then
        let (name, _, after) := delimiter none rest
        (name, true, after)
      else if quote.isNone && (c == '"' || c == quoteMark) then
        let (name, _, after) := delimiter (some c) rest
        (name, true, after)
      else if quote.isNone && c == '\\' then
        match rest with
        | d :: behind =>
          let (name, _, after) := delimiter none behind
          (d :: name, true, after)
        | [] => ([c], true, [])
      else if quote.isNone && c ∈ [' ', '\t', '\n', ';', '&', '|', '<', '>', '(', ')'] then
        ([], false, c :: rest)
      else
        let (name, quoted, after) := delimiter quote rest
        (c :: name, quoted, after)
  let (name, quoted, after) := delimiter none s
  let below := (dropLines (taken + 1) after).splitOn '\n'
  let (lines, found) := takeDocument name stripped below
  let body := lines.flatMap (· ++ ['\n'])
  let word := if quoted then body.map (Piece.char · true) else Word.ofText .document 1 body
  if name.isEmpty && !quoted then none
  else some (word, lines.length + (if found then 1 else 0), after)

/-! ## Cutting -/

/-- A finished word in front of further lexemes. -/
def flush (word : Option Word) (line : Nat) (lexemes : List Lexeme) : List Lexeme :=
  match word with
  | some pieces => ⟨.word pieces.reverse, line⟩ :: lexemes
  | none => lexemes

/-- The descriptor that a redirection begins with, if the word before it is a digit. -/
def descriptor? : Option Word → Option Nat
  | some [.char c false] => if c.isDigit then some (c.toNat - 48) else none
  | _ => none

/-- The operators, longer ones first. -/
def operators : List String := [";;", "&&", "||", ";", "&", "|", "(", ")"]

/-- The marks of redirections, longer ones first, with the descriptor that they stand for. -/
def redirections : List (String × Nat × RedirectKind) :=
  [(">>", 1, .append), (">&", 1, .duplicate), (">|", 1, .replace), (">", 1, .write),
    ("<<", 0, .document), ("<&", 0, .duplicate), ("<>", 0, .readWrite), ("<", 0, .read)]

/-- Cuts a script into lexemes. `word` holds the pieces of the word that is being read, last piece
first, `taken` is the number of lines below that belong to documents, and `last` is the number of
the last line. Each step takes at least one character, so `fuel` need not exceed the length of the
text by more than one. -/
def lex (last : Nat) : (fuel taken : Nat) → Quoting → Option Word → Text → List Lexeme
  | 0, _, _, _, _ => []
  | _ + 1, _, quoting, word, [] =>
    if quoting == .none then flush word last [] else [⟨.unfinished .quotes, last⟩]
  | fuel + 1, taken, quoting, word, c :: rest =>
    let s := c :: rest
    let line (_ : Unit) : Nat := last - s.count '\n'
    let marks := quoting == .none && c ∈ [';', '&', '|', '(', ')', '<', '>']
    let starts (mark : String) : Bool := mark.toList.isPrefixOf s
    if quoting == .none && (c == ' ' || c == '\t') then
      flush word (line ()) (lex last fuel taken .none none rest)
    else if quoting == .none && c == '\n' then
      let after := dropLines taken rest
      flush word (line ()) (⟨.newline, line () + 1⟩ :: lex last fuel 0 .none none after)
    else if quoting == .none && c == '#' && word.isNone then
      lex last fuel taken .none none (rest.dropWhile (· != '\n'))
    else match if marks then operators.find? starts else none with
      | some mark =>
        flush word (line ())
          (⟨.operator mark, line ()⟩ :: lex last fuel taken .none none (s.drop mark.length))
      | none =>
        match if marks then redirections.find? (starts ·.1) else none with
        | some (mark, standard, kind) =>
          let (before, descriptor) := match descriptor? word with
            | some n => (none, n)
            | none => (word, standard)
          let after := s.drop mark.length
          flush before (line ()) <| ⟨.redirect descriptor kind, line ()⟩ ::
            match if kind == .document then readDocument? taken after else none with
            | some (body, lines, after) =>
              ⟨.word body, line ()⟩ :: lex last fuel (taken + lines) .none none after
            | none => lex last fuel taken .none none after
        | none =>
          match readPart .script (if c == '$' then line () else 1) quoting s with
          | .error cause =>
            flush word (line ()) [⟨.unfinished cause, if cause == .braces then line () else last⟩]
          | .ok (pieces, quoting, after) =>
            let word := if pieces.isEmpty then word else some (pieces.reverse ++ word.getD [])
            lex last fuel taken quoting word after

/-- The number of the last line of a script that begins on the given line. -/
def lastLine (first : Nat) (script : Text) : Nat := first + script.count '\n'

/-- The lexemes of a script that begins on the given line. -/
def lexemes (first : Nat) (script : Text) : List Lexeme :=
  lex (lastLine first script) (script.length + 1) 0 .none none script

end SymbolAtlas.Shell
