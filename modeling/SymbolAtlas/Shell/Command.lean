/-
# SymbolAtlas.Shell.Command — the commands of a script

A script is read line by line: `readLine` reads one complete command, which may go on over several
lines, so that what stands above an error can be run before the error is found.
-/
import SymbolAtlas.Shell.Lexeme

namespace SymbolAtlas.Shell

/-- A redirection with the word that names its file or descriptor. -/
structure Redirect where
  descriptor : Nat
  kind : RedirectKind
  target : Word
  deriving DecidableEq, Repr

/-- A command. A line number is the one that messages about the command show. -/
inductive Command
  | nothing
  /-- Assignments, and a program with its arguments. -/
  | simple (line : Nat) (assignments : List (Text × Word)) (words : List Word)
      (redirects : List Redirect)
  | sequence (first second : Command)
  | background (body : Command)
  | both (first second : Command)
  | either (first second : Command)
  | negation (body : Command)
  | pipe (first second : Command)
  | branch (condition yes no : Command)
  | loop (condition body : Command) (wanted : Bool)
  /-- The body is run for each of the items, or for each argument of the script. -/
  | each (line : Nat) (name : Text) (items : Option (List Word)) (body : Command)
  | select (line : Nat) (subject : Word) (clauses : List (List Word × Command))
  | subshell (body : Command)
  | redirected (line : Nat) (body : Command) (redirects : List Redirect)
  | define (name : Text) (body : Command)
  deriving Inhabited

/-! ## Errors -/

/-- What a script is wrong about. -/
inductive Fault
  /-- A symbol stands where another one, or any other one, should stand. -/
  | unexpected (found : String) (expected : Option String)
  | unfinished (cause : Unfinished)
  | badLoopVariable
  | badFunctionName
  deriving DecidableEq, Repr

/-- The wording of a fault. -/
def Fault.message : Fault → String
  | .unexpected found none => s!"{found} unexpected"
  | .unexpected found (some expected) => s!"{found} unexpected (expecting {expected})"
  | .unfinished cause => cause.message
  | .badLoopVariable => "Bad for loop variable"
  | .badFunctionName => "Bad function name"

/-- A fault with the number of the line on which it is found. -/
structure ScriptError where
  line : Nat
  fault : Fault
  deriving DecidableEq, Repr

/-! ## Tokens at the front -/

/-- The words that have a meaning of their own at the start of a command. -/
def keywords : List String :=
  ["!", "case", "do", "done", "elif", "else", "esac", "fi", "for", "if", "in", "then", "until",
    "while", "\x7b", "\x7d"]

/-- The keyword that a token is, if it is one. -/
def Token.keyword? : Token → Option String
  | .word w => do
    let text ← Word.plain? w
    keywords.find? fun keyword => keyword.toList == text
  | _ => none

/-- A symbol as messages show it. -/
def shownSymbol (symbol : String) : String := s!"\"{symbol}\""

/-- A token as messages show it. -/
def Token.shown (token : Token) : String :=
  match token.keyword?, token with
  | some keyword, _ => shownSymbol keyword
  | none, .word _ => "word"
  | none, .operator symbol => shownSymbol symbol
  | none, .redirect .. => "redirection"
  | none, .newline => "newline"
  | none, .unfinished _ => ""

/-- A command with the lexemes behind it, or what is wrong with them. -/
abbrev CommandRead := Except ScriptError (Command × List Lexeme)

/-- The error of the lexeme at the front. `last` is the number of the last line. -/
def unexpected {α : Type} (last : Nat) (expected : Option String) :
    List Lexeme → Except ScriptError α
  | [] => .error ⟨last, .unexpected "end of file" expected⟩
  | ⟨.unfinished cause, line⟩ :: _ => .error ⟨line, .unfinished cause⟩
  | ⟨token, line⟩ :: _ => .error ⟨line, .unexpected token.shown expected⟩

/-- The lexemes behind a keyword. -/
def expect (last : Nat) (keyword : String) (lexemes : List Lexeme) :
    Except ScriptError (List Lexeme) :=
  match lexemes with
  | ⟨token, _⟩ :: rest =>
    if token.keyword? == some keyword then .ok rest
    else unexpected last (some (shownSymbol keyword)) lexemes
  | [] => unexpected last (some (shownSymbol keyword)) []

/-- The lexemes behind an operator. -/
def expectOperator (last : Nat) (symbol : String) (lexemes : List Lexeme) :
    Except ScriptError (List Lexeme) :=
  match lexemes with
  | ⟨.operator found, _⟩ :: rest =>
    if found == symbol then .ok rest
    else unexpected last (some (shownSymbol symbol)) lexemes
  | _ => unexpected last (some (shownSymbol symbol)) lexemes

/-- Whether the operator stands at the front. -/
def atOperator (symbol : String) : List Lexeme → Bool
  | ⟨.operator found, _⟩ :: _ => found == symbol
  | _ => false

/-- The keyword at the front, if there is one. -/
def keywordAt? : List Lexeme → Option String
  | ⟨token, _⟩ :: _ => token.keyword?
  | [] => none

/-- The keywords that end a list of commands. -/
def closers : List String := ["then", "elif", "else", "fi", "do", "done", "esac", "\x7d"]

/-- Whether a list of commands ends at the front. -/
def endsList (lexemes : List Lexeme) : Bool :=
  (keywordAt? lexemes).any (· ∈ closers) || atOperator ")" lexemes || atOperator ";;" lexemes

/-- The lexemes behind line ends. -/
def skipLines (lexemes : List Lexeme) : List Lexeme := lexemes.dropWhile (·.token == .newline)

/-! ## Simple commands -/

/-- The redirections at the front, and what follows them. -/
def takeRedirects (last : Nat) : List Lexeme → Except ScriptError (List Redirect × List Lexeme)
  | ⟨.redirect descriptor kind, _⟩ :: ⟨.word target, _⟩ :: rest => do
    let (redirects, after) ← takeRedirects last rest
    return (⟨descriptor, kind, target⟩ :: redirects, after)
  | ⟨.redirect .., _⟩ :: rest => unexpected last none rest
  | rest => .ok ([], rest)

/-- The words and redirections at the front, and what follows them. -/
def takeSimple (last : Nat) :
    List Lexeme → Except ScriptError ((List Word × List Redirect) × List Lexeme)
  | ⟨.word w, _⟩ :: rest => do
    let ((words, redirects), after) ← takeSimple last rest
    return ((w :: words, redirects), after)
  | ⟨.redirect descriptor kind, _⟩ :: ⟨.word target, _⟩ :: rest => do
    let ((words, redirects), after) ← takeSimple last rest
    return ((words, ⟨descriptor, kind, target⟩ :: redirects), after)
  | ⟨.redirect .., _⟩ :: rest => unexpected last none rest
  | rest => .ok (([], []), rest)

/-- The words at the front, and what follows them. -/
def takeWords : List Lexeme → List Word × List Lexeme
  | ⟨.word w, _⟩ :: rest =>
    let (words, after) := takeWords rest
    (w :: words, after)
  | rest => ([], rest)

/-- The alternative patterns of a clause, up to and including the parenthesis that ends them. -/
def takePatterns (last : Nat) : List Lexeme → Except ScriptError (List Word × List Lexeme)
  | ⟨.word w, _⟩ :: ⟨.operator "|", _⟩ :: rest => do
    let (patterns, after) ← takePatterns last rest
    return (w :: patterns, after)
  | ⟨.word w, _⟩ :: rest => return ([w], ← expectOperator last ")" rest)
  | rest => unexpected last (some (shownSymbol ")")) rest

/-- The commands that no function can be named after. -/
def specialCommands : List String :=
  [".", ":", "break", "continue", "eval", "exec", "exit", "export", "local", "readonly", "return",
    "set", "shift", "trap", "unset"]

/-! ## Commands -/

/-- Where a list of commands stands: on a line of the script, between two keywords, or in a clause
of a selection, where it may be empty. -/
inductive ListPlace
  | line
  | body
  | clause
  deriving DecidableEq, Repr

/-- Two commands, one after the other. -/
def Command.andThen (first : Command) : Command → Command
  | .nothing => first
  | second => .sequence first second

mutual

/-- Reads a list of commands. A line ends with its line end, another list before a symbol that ends
it; `started` says whether a command has been read. -/
def readList (last : Nat) (place : ListPlace) : (fuel : Nat) → (started : Bool) → List Lexeme →
    CommandRead
  | 0, _, lexemes => unexpected last none lexemes
  | fuel + 1, started, lexemes =>
    let lexemes := if place == .line then lexemes else skipLines lexemes
    match lexemes with
    | [] => .ok (.nothing, [])
    | ⟨.newline, _⟩ :: rest => .ok (.nothing, rest)
    | _ =>
      if endsList lexemes && (place == .clause || place == .body && started) then
        .ok (.nothing, lexemes)
      else do
        let (first, after) ← readAndOr last fuel lexemes
        let goOn (first : Command) (rest : List Lexeme) : CommandRead := do
          let (second, after) ← readList last place fuel true rest
          return (first.andThen second, after)
        match after with
        | [] => return (first, [])
        | ⟨.operator "&", _⟩ :: rest => goOn (.background first) rest
        | ⟨.operator ";", _⟩ :: rest => goOn first rest
        | ⟨.newline, _⟩ :: _ => goOn first after
        | _ => if place == .line then unexpected last none after else return (first, after)

/-- Reads pipelines joined by `&&` and `||`. -/
def readAndOr (last : Nat) : (fuel : Nat) → List Lexeme → CommandRead
  | 0, lexemes => unexpected last none lexemes
  | fuel + 1, lexemes => do
    let (first, after) ← readPipeline last fuel lexemes
    readAndOrRest last fuel first after

/-- Reads the pipelines behind the first one. -/
def readAndOrRest (last : Nat) : (fuel : Nat) → Command → List Lexeme → CommandRead
  | 0, _, lexemes => unexpected last none lexemes
  | fuel + 1, first, lexemes =>
    match lexemes with
    | ⟨.operator "&&", _⟩ :: rest => do
      let (second, after) ← readPipeline last fuel (skipLines rest)
      readAndOrRest last fuel (.both first second) after
    | ⟨.operator "||", _⟩ :: rest => do
      let (second, after) ← readPipeline last fuel (skipLines rest)
      readAndOrRest last fuel (.either first second) after
    | _ => .ok (first, lexemes)

/-- Reads a pipeline, whose status may be negated. -/
def readPipeline (last : Nat) : (fuel : Nat) → List Lexeme → CommandRead
  | 0, lexemes => unexpected last none lexemes
  | fuel + 1, lexemes =>
    if keywordAt? lexemes == some "!" then do
      let (body, after) ← readPipes last fuel (lexemes.drop 1)
      return (.negation body, after)
    else readPipes last fuel lexemes

/-- Reads commands joined by `|`. -/
def readPipes (last : Nat) : (fuel : Nat) → List Lexeme → CommandRead
  | 0, lexemes => unexpected last none lexemes
  | fuel + 1, lexemes => do
    let (first, after) ← readCommand last fuel lexemes
    if atOperator "|" after then
      let (second, after) ← readPipes last fuel (skipLines (after.drop 1))
      return (.pipe first second, after)
    return (first, after)

/-- Reads one command with its redirections. -/
def readCommand (last : Nat) : (fuel : Nat) → List Lexeme → CommandRead
  | 0, lexemes => unexpected last none lexemes
  | fuel + 1, lexemes => do
    let line := (lexemes.head?.map (·.line)).getD last
    let rest := lexemes.drop 1
    let compound (reading : CommandRead) : CommandRead := do
      let (body, after) ← reading
      let (redirects, after) ← takeRedirects last after
      return (if redirects.isEmpty then body else .redirected line body redirects, after)
    if atOperator "(" lexemes then
      compound do
        let (body, after) ← readList last .body fuel false rest
        return (.subshell body, ← expectOperator last ")" after)
    else match keywordAt? lexemes with
      | some "\x7b" =>
        compound do
          let (body, after) ← readList last .body fuel false rest
          return (body, ← expect last "\x7d" after)
      | some "if" => compound (readBranch last fuel rest)
      | some "while" => compound (readLoop last fuel true rest)
      | some "until" => compound (readLoop last fuel false rest)
      | some "for" => compound (readEach last fuel line rest)
      | some "case" =>
        compound do
          match rest with
          | ⟨.word subject, _⟩ :: after =>
            let after ← expect last "in" (skipLines after)
            let (clauses, after) ← readClauses last fuel after
            return (.select line subject clauses, after)
          | _ => unexpected last (some "word") rest
      | some _ => unexpected last none lexemes
      | none => readSimple last fuel line lexemes

/-- Reads a simple command, or the definition of a function. -/
def readSimple (last : Nat) : (fuel line : Nat) → List Lexeme → CommandRead
  | 0, _, lexemes => unexpected last none lexemes
  | fuel + 1, line, lexemes => do
    let ((words, redirects), after) ← takeSimple last lexemes
    if words.isEmpty && redirects.isEmpty then unexpected last none lexemes
    let assignments := (words.takeWhile fun w => w.assignment?.isSome).filterMap Word.assignment?
    let words := words.drop assignments.length
    match words, after with
    | [name], ⟨.operator "(", _⟩ :: rest =>
      if !assignments.isEmpty || !redirects.isEmpty then unexpected last none after
      let rest ← match rest with
        | ⟨.word _, line⟩ :: _ => .error ⟨line, .unexpected "word" (some (shownSymbol ")"))⟩
        | _ => expectOperator last ")" rest
      match Word.plain? name with
      | some name =>
        if !isName name || specialCommands.any (·.toList == name) then
          .error ⟨line, .badFunctionName⟩
        let (body, after) ← readCommand last fuel (skipLines rest)
        return (.define name body, after)
      | none => .error ⟨line, .badFunctionName⟩
    | _, _ => return (.simple line assignments words redirects, after)

/-- Reads a conditional behind its `if` or `elif`. -/
def readBranch (last : Nat) : (fuel : Nat) → List Lexeme → CommandRead
  | 0, lexemes => unexpected last none lexemes
  | fuel + 1, lexemes => do
    let (condition, after) ← readList last .body fuel false lexemes
    let (yes, after) ← readList last .body fuel false (← expect last "then" after)
    match keywordAt? after with
    | some "elif" =>
      let (no, after) ← readBranch last fuel (after.drop 1)
      return (.branch condition yes no, after)
    | some "else" =>
      let (no, after) ← readList last .body fuel false (after.drop 1)
      return (.branch condition yes no, ← expect last "fi" after)
    | _ => return (.branch condition yes .nothing, ← expect last "fi" after)

/-- Reads a loop behind its `while` or `until`. -/
def readLoop (last : Nat) : (fuel : Nat) → (wanted : Bool) → List Lexeme → CommandRead
  | 0, _, lexemes => unexpected last none lexemes
  | fuel + 1, wanted, lexemes => do
    let (condition, after) ← readList last .body fuel false lexemes
    let (body, after) ← readList last .body fuel false (← expect last "do" after)
    return (.loop condition body wanted, ← expect last "done" after)

/-- Reads a loop over items behind its `for`. -/
def readEach (last : Nat) : (fuel line : Nat) → List Lexeme → CommandRead
  | 0, _, lexemes => unexpected last none lexemes
  | fuel + 1, line, lexemes => do
    let (name, after) ← match lexemes with
      | ⟨.word w, line⟩ :: after =>
        match (Word.plain? w).filter isName with
        | some name => Except.ok (name, after)
        | none => .error ⟨line, .badLoopVariable⟩
      | [] => .error ⟨last, .badLoopVariable⟩
      | ⟨_, line⟩ :: _ => .error ⟨line, .badLoopVariable⟩
    let (items, after) ←
      if keywordAt? (skipLines after) == some "in" then
        let (items, after) := takeWords ((skipLines after).drop 1)
        match after with
        | ⟨.newline, _⟩ :: rest | ⟨.operator ";", _⟩ :: rest => Except.ok (some items, rest)
        | _ => unexpected last none after
      else if atOperator ";" (skipLines after) then .ok (none, (skipLines after).drop 1)
      else .ok (none, after)
    let (body, after) ← readList last .body fuel false (← expect last "do" (skipLines after))
    return (.each line name items body, ← expect last "done" after)

/-- Reads the clauses of a selection up to and including `esac`. -/
def readClauses (last : Nat) : (fuel : Nat) → List Lexeme →
    Except ScriptError (List (List Word × Command) × List Lexeme)
  | 0, lexemes => unexpected last none lexemes
  | fuel + 1, lexemes => do
    let lexemes := skipLines lexemes
    if keywordAt? lexemes == some "esac" then return ([], lexemes.drop 1)
    let lexemes := if atOperator "(" lexemes then lexemes.drop 1 else lexemes
    let (patterns, after) ← takePatterns last lexemes
    let (body, after) ← readList last .clause fuel false after
    if keywordAt? after == some "esac" then return ([(patterns, body)], after.drop 1)
    let (clauses, after) ← readClauses last fuel (← expectOperator last ";;" after)
    return ((patterns, body) :: clauses, after)

end

/-- Reads the complete command at the front. `last` is the number of the last line. -/
def readLine (last : Nat) (lexemes : List Lexeme) : CommandRead :=
  readList last .line (8 * lexemes.length + 8) false lexemes

end SymbolAtlas.Shell
