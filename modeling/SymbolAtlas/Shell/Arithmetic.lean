/-
# SymbolAtlas.Shell.Arithmetic — arithmetic expressions of a script

Expressions are those of whole numbers in signed words of 64 bits: assignments, a choice between two
values, logic, comparisons, and operations on bits. Results wrap around.
-/
import SymbolAtlas.Shell.Octets
import SymbolAtlas.Shell.Word

namespace SymbolAtlas.Shell.Arithmetic

/-! ## Expressions -/

/-- Operations on two numbers. -/
inductive BinaryOperator
  | times
  | over
  | remainder
  | plus
  | minus
  | shiftLeft
  | shiftRight
  | less
  | lessOrEqual
  | greater
  | greaterOrEqual
  | equal
  | different
  | bitAnd
  | bitXor
  | bitOr
  deriving DecidableEq, Repr

/-- Operations on one number. -/
inductive UnaryOperator
  | plus
  | minus
  | not
  | complement
  deriving DecidableEq, Repr

/-- An expression. -/
inductive Expression
  | number (value : Int)
  | variable (name : Text)
  | unary (operator : UnaryOperator) (operand : Expression)
  | binary (operator : BinaryOperator) (left right : Expression)
  | both (left right : Expression)
  | either (left right : Expression)
  | choice (condition yes no : Expression)
  /-- Sets a variable to a value, or to what an operation makes of its value and another one. -/
  | assign (name : Text) (operator : Option BinaryOperator) (value : Expression)
  deriving Repr, Inhabited

/-- What is wrong with an expression. -/
inductive Mistake
  | noPrimary
  | noColon
  | noParenthesis
  | noEnd
  | divisionByZero
  deriving DecidableEq, Repr

/-- The wording of a mistake. -/
def Mistake.message : Mistake → String
  | .noPrimary => "expecting primary"
  | .noColon => "expecting ':'"
  | .noParenthesis => "expecting ')'"
  | .noEnd => "expecting EOF"
  | .divisionByZero => "division by zero"

/-! ## Operations -/

/-- A number reduced to a signed word of 64 bits. -/
def wrap (n : Int) : Int := Int.bmod n (Nat.pow 2 64)

/-- One for what holds and zero for what does not. -/
def truth (holds : Bool) : Int := if holds then 1 else 0

/-- An operation on the bits of two numbers. -/
def bitwise (f : UInt64 → UInt64 → UInt64) (a b : Int) : Int :=
  let word (n : Int) : UInt64 := (n % Int.pow 2 64).toNat.toUInt64
  wrap (f (word a) (word b)).toNat

/-- The result of an operation. Divisions drop the fraction, and shifts take their width modulo 64.
-/
def BinaryOperator.apply (operator : BinaryOperator) (a b : Int) : Except Mistake Int :=
  match operator with
  | .times => .ok (wrap (a * b))
  | .over => if b = 0 then .error .divisionByZero else .ok (wrap (a.tdiv b))
  | .remainder => if b = 0 then .error .divisionByZero else .ok (wrap (a.tmod b))
  | .plus => .ok (wrap (a + b))
  | .minus => .ok (wrap (a - b))
  | .shiftLeft => .ok (wrap (a * Int.pow 2 (b % 64).toNat))
  | .shiftRight => .ok (a / Int.pow 2 (b % 64).toNat)
  | .less => .ok (truth (a < b))
  | .lessOrEqual => .ok (truth (a ≤ b))
  | .greater => .ok (truth (a > b))
  | .greaterOrEqual => .ok (truth (a ≥ b))
  | .equal => .ok (truth (a = b))
  | .different => .ok (truth (a ≠ b))
  | .bitAnd => .ok (bitwise (· &&& ·) a b)
  | .bitXor => .ok (bitwise (· ^^^ ·) a b)
  | .bitOr => .ok (bitwise (· ||| ·) a b)

/-- The result of an operation on one number. -/
def UnaryOperator.apply (operator : UnaryOperator) (a : Int) : Int :=
  match operator with
  | .plus => a
  | .minus => wrap (-a)
  | .not => truth (a = 0)
  | .complement => -a - 1

/-! ## Numbers -/

/-- The value of a digit, in bases up to sixteen. -/
def digitValue (c : Char) : Nat :=
  if c.isDigit then c.toNat - 48
  else if 'a' ≤ c && c ≤ 'f' then c.toNat - 87
  else if 'A' ≤ c && c ≤ 'F' then c.toNat - 55
  else 16

/-- The number at the front of a text, in the base that its first digits tell, and the rest. -/
def leadingNumber (s : Text) : Nat × Text :=
  let (base, s) : Nat × Text := match s with
    | '0' :: x :: d :: rest =>
      if (x == 'x' || x == 'X') && digitValue d < 16 then (16, d :: rest) else (8, s)
    | '0' :: _ => (8, s)
    | _ => (10, s)
  let digits := s.takeWhile (digitValue · < base)
  (digits.foldl (fun n c => base * n + digitValue c) 0, s.drop digits.length)

/-- The greatest signed word of 64 bits. -/
def maxWord : Nat := Nat.pow 2 63 - 1

/-- The number that the value of a variable spells; an empty value is zero. -/
def number? (s : Text) : Option Int :=
  let s := s.dropWhile Octets.isSpace
  let (negative, digits) := match s with
    | '-' :: rest => (true, rest)
    | '+' :: rest => (false, rest)
    | _ => (false, s)
  let (n, after) := leadingNumber digits
  if s.isEmpty then some 0
  else if digits.head?.any Char.isDigit && after.all Octets.isSpace && n ≤ maxWord then
    some (if negative then -(n : Int) else n)
  else none

/-! ## Tokens -/

/-- A lexical unit of an expression. -/
inductive Atom
  | number (value : Int)
  | name (name : Text)
  | symbol (symbol : String)
  deriving DecidableEq, Repr

/-- The operators in groups of one rank, those that bind tightest first. -/
def ranks : List (List (String × BinaryOperator)) :=
  [[("*", .times), ("/", .over), ("%", .remainder)],
    [("+", .plus), ("-", .minus)],
    [("<<", .shiftLeft), (">>", .shiftRight)],
    [("<", .less), ("<=", .lessOrEqual), (">", .greater), (">=", .greaterOrEqual)],
    [("==", .equal), ("!=", .different)],
    [("&", .bitAnd)], [("^", .bitXor)], [("|", .bitOr)]]

/-- The signs that assign the result of an operation. -/
def assignments : List (String × Option BinaryOperator) :=
  [("=", none), ("+=", some .plus), ("-=", some .minus), ("*=", some .times), ("/=", some .over),
    ("%=", some .remainder), ("<<=", some .shiftLeft), (">>=", some .shiftRight),
    ("&=", some .bitAnd), ("^=", some .bitXor), ("|=", some .bitOr)]

/-- All symbols, longer ones first. -/
def symbols : List String :=
  ["<<=", ">>=", "<<", ">>", "<=", ">=", "==", "!=", "&&", "||", "+=", "-=", "*=", "/=", "%=",
    "&=", "^=", "|=", "=", "<", ">", "+", "-", "*", "/", "%", "&", "|", "^", "~", "!", "?", ":",
    "(", ")"]

/-- Cuts an expression into atoms. A character that belongs to no atom is a symbol of its own. -/
def atoms : (fuel : Nat) → Text → List Atom
  | 0, _ | _, [] => []
  | fuel + 1, c :: rest =>
    let s := c :: rest
    if Octets.isSpace c then atoms fuel rest
    else if c.isDigit then
      let (n, after) := leadingNumber s
      .number (min n maxWord : Nat) :: atoms fuel after
    else if isNameChar c then
      let name := s.takeWhile isNameChar
      .name name :: atoms fuel (s.drop name.length)
    else match symbols.find? fun symbol => symbol.toList.isPrefixOf s with
      | some symbol => .symbol symbol :: atoms fuel (s.drop symbol.length)
      | none => .symbol (String.singleton c) :: atoms fuel rest

/-! ## Reading -/

/-- An expression with the atoms behind it. -/
abbrev ExpressionRead := Except Mistake (Expression × List Atom)

mutual

/-- Reads an assignment, or a choice. -/
def readAssignment : (fuel : Nat) → List Atom → ExpressionRead
  | 0, _ => .error .noPrimary
  | fuel + 1, atoms => do
    match atoms with
    | .name name :: .symbol symbol :: rest =>
      match assignments.lookup symbol with
      | some operator =>
        let (value, after) ← readAssignment fuel rest
        return (.assign name operator value, after)
      | none => readChoice fuel atoms
    | _ => readChoice fuel atoms

/-- Reads a choice between two values, or an alternative. -/
def readChoice : (fuel : Nat) → List Atom → ExpressionRead
  | 0, _ => .error .noPrimary
  | fuel + 1, atoms => do
    let (condition, after) ← readEither fuel atoms
    match after with
    | .symbol "?" :: rest =>
      let (yes, after) ← readAssignment fuel rest
      match after with
      | .symbol ":" :: rest =>
        let (no, after) ← readChoice fuel rest
        return (.choice condition yes no, after)
      | _ => .error .noColon
    | _ => return (condition, after)

/-- Reads expressions joined by `||`. -/
def readEither : (fuel : Nat) → List Atom → ExpressionRead
  | 0, _ => .error .noPrimary
  | fuel + 1, atoms => do
    let (left, after) ← readBoth fuel atoms
    match after with
    | .symbol "||" :: rest =>
      let (right, after) ← readEither fuel rest
      return (.either left right, after)
    | _ => return (left, after)

/-- Reads expressions joined by `&&`. -/
def readBoth : (fuel : Nat) → List Atom → ExpressionRead
  | 0, _ => .error .noPrimary
  | fuel + 1, atoms => do
    let (left, after) ← readRank fuel ranks.reverse atoms
    match after with
    | .symbol "&&" :: rest =>
      let (right, after) ← readBoth fuel rest
      return (.both left right, after)
    | _ => return (left, after)

/-- Reads an expression of the first of the ranks, which are given loosest first. -/
def readRank : (fuel : Nat) → List (List (String × BinaryOperator)) → List Atom → ExpressionRead
  | 0, _, _ => .error .noPrimary
  | fuel + 1, [], atoms => readPrimary fuel atoms
  | fuel + 1, rank :: tighter, atoms => do
    let (left, after) ← readRank fuel tighter atoms
    readRankRest fuel rank tighter left after

/-- Reads the operands of one rank behind the first one. -/
def readRankRest : (fuel : Nat) → List (String × BinaryOperator) →
    List (List (String × BinaryOperator)) → Expression → List Atom → ExpressionRead
  | 0, _, _, _, _ => .error .noPrimary
  | fuel + 1, rank, tighter, left, atoms => do
    match atoms with
    | .symbol symbol :: rest =>
      match rank.lookup symbol with
      | some operator =>
        let (right, after) ← readRank fuel tighter rest
        readRankRest fuel rank tighter (.binary operator left right) after
      | none => return (left, atoms)
    | _ => return (left, atoms)

/-- Reads a number, a variable, an expression in parentheses, or an operation on one of them. -/
def readPrimary : (fuel : Nat) → List Atom → ExpressionRead
  | 0, _ => .error .noPrimary
  | fuel + 1, atoms => do
    let operation (operator : UnaryOperator) (rest : List Atom) : ExpressionRead := do
      let (operand, after) ← readPrimary fuel rest
      return (.unary operator operand, after)
    match atoms with
    | .number n :: rest => return (.number n, rest)
    | .name name :: rest => return (.variable name, rest)
    | .symbol "(" :: rest =>
      let (body, after) ← readAssignment fuel rest
      match after with
      | .symbol ")" :: rest => return (body, rest)
      | _ => .error .noParenthesis
    | .symbol "+" :: rest => operation .plus rest
    | .symbol "-" :: rest => operation .minus rest
    | .symbol "!" :: rest => operation .not rest
    | .symbol "~" :: rest => operation .complement rest
    | _ => .error .noPrimary

end

/-- Reads an expression. -/
def read (s : Text) : Except Mistake Expression := do
  let atoms := atoms (s.length + 1) s
  let (expression, rest) ← readAssignment (16 * atoms.length + 16) atoms
  if rest.isEmpty then return expression else .error .noEnd

end SymbolAtlas.Shell.Arithmetic
