/-
# SymbolAtlas.Shell.Condition — the conditions of `test`

A condition is a list of arguments: tests of one text, comparisons of two, negations, conjunctions
and disjunctions, and parentheses. Whether an argument is an operator depends on what follows it, so
that operators can also be compared like other texts.
-/
import SymbolAtlas.Shell.Octets
import SymbolAtlas.Shell.Word
import SymbolAtlas.Workspace.Tree

namespace SymbolAtlas.Shell.Condition

/-- The kinds of operators. -/
inductive Kind
  | unary
  | binary
  | negation
  | conjunction
  | disjunction
  | opening
  | closing
  deriving DecidableEq, Repr

/-- The operators on one text. -/
def unaryOperators : List String :=
  ["-r", "-w", "-x", "-e", "-f", "-d", "-c", "-b", "-p", "-u", "-g", "-k", "-s", "-t", "-z", "-n",
    "-h", "-O", "-G", "-L", "-S"]

/-- The operators on two texts. -/
def binaryOperators : List String :=
  ["=", "!=", "<", ">", "-eq", "-ne", "-ge", "-gt", "-le", "-lt", "-nt", "-ot", "-ef"]

/-- The kind of an argument that can be an operator. -/
def kindOf? (argument : Text) : Option Kind :=
  let operator := String.ofList argument
  if operator ∈ unaryOperators then some .unary
  else if operator ∈ binaryOperators then some .binary
  else match operator with
    | "!" => some .negation
    | "-a" => some .conjunction
    | "-o" => some .disjunction
    | "(" => some .opening
    | ")" => some .closing
    | _ => none

/-- The kind of the operator at the front; `none` if there is an operand or nothing. An operator on
one text is an operand at the end, and in front of a comparison. -/
def front? : List Text → Option Kind
  | [] => none
  | argument :: rest =>
    match kindOf? argument, rest with
    | some .unary, [] | some .opening, [] => none
    | some .unary, [_] => some .unary
    | some .unary, next :: _ => if kindOf? next == some .binary then none else some .unary
    | kind, _ => kind

/-! ## Operators -/

/-- What is wrong with a condition. -/
inductive Mistake
  | noArgument (operator : Text)
  | unexpectedOperator (operator : Text)
  | noParenthesis
  | illegalNumber (text : Text)
  deriving DecidableEq, Repr

/-- The wording of a mistake. -/
def Mistake.message : Mistake → Text
  | .noArgument operator => operator ++ ": argument expected".toList
  | .unexpectedOperator operator => operator ++ ": unexpected operator".toList
  | .noParenthesis => "closing paren expected".toList
  | .illegalNumber text => "Illegal number: ".toList ++ text

/-- The whole number that an argument spells in decimal digits. -/
def decimal? (argument : Text) : Option Int :=
  let s := argument.dropWhile Octets.isSpace
  let s := (s.reverse.dropWhile Octets.isSpace).reverse
  let (negative, digits) := match s with
    | '-' :: rest => (true, rest)
    | '+' :: rest => (false, rest)
    | _ => (false, s)
  if Octets.isNumber digits && Octets.numberOf digits < Nat.pow 2 63 then
    some (if negative then -(Octets.numberOf digits : Int) else Octets.numberOf digits)
  else none

/-- Whether an operator holds of one text. -/
def holdsOf (ws : Workspace) (operator : String) (text : Text) : Bool :=
  let path := Octets.toText text
  let node := ws.stat path
  match operator with
  | "-n" => !text.isEmpty
  | "-z" => text.isEmpty
  | "-f" => (node matches .ok (.file ..)) || (node matches .ok (.program _))
  | "-d" => (node matches .ok .directory)
  | "-x" =>
    (node matches .ok .directory) || (node matches .ok (.file _ true)) ||
      (node matches .ok (.program _))
  | "-s" => match node with
    | .ok (.file content _) => content.size != 0
    | .ok .directory | .ok (.program _) => true
    | _ => false
  | "-h" | "-L" => (ws.node? (ws.ownPlace path) matches some (.symlink _))
  | "-c" => (node matches .ok .special)
  | "-e" | "-r" | "-w" | "-O" | "-G" => (node matches .ok _)
  | _ => false

/-- Whether a comparison of two texts holds. -/
def compare (ws : Workspace) (left : Text) (operator : String) (right : Text) :
    Except Mistake Bool := do
  let number (text : Text) : Except Mistake Int :=
    match decimal? text with
    | some n => .ok n
    | none => .error (.illegalNumber text)
  let numbers (holds : Int → Int → Bool) : Except Mistake Bool :=
    return holds (← number left) (← number right)
  match operator with
  | "=" => return left == right
  | "!=" => return left != right
  | "<" => return decide (left < right)
  | ">" => return decide (right < left)
  | "-eq" => numbers (· == ·)
  | "-ne" => numbers (· != ·)
  | "-lt" => numbers (· < ·)
  | "-le" => numbers (· ≤ ·)
  | "-gt" => numbers (· > ·)
  | "-ge" => numbers (· ≥ ·)
  | "-ef" =>
    return match ws.locate (Octets.toText left), ws.locate (Octets.toText right) with
      | .ok a, .ok b => a == b
      | _, _ => false
  | _ => return false

/-! ## Conditions -/

/-- Whether a part of a condition holds, with the argument that it ends at and those behind it. -/
abbrev Judgement := Except Mistake (Bool × List Text)

mutual

/-- Judges a disjunction. -/
def disjunction (ws : Workspace) : (fuel : Nat) → List Text → Judgement
  | 0, arguments => .ok (false, arguments)
  | fuel + 1, arguments => do
    let (left, after) ← conjunction ws fuel arguments
    match after.tail with
    | operator :: rest =>
      if front? (operator :: rest) == some .disjunction then
        let (right, after) ← disjunction ws fuel rest
        return (left || right, after)
      return (left, after)
    | [] => return (left, after)

/-- Judges a conjunction. -/
def conjunction (ws : Workspace) : (fuel : Nat) → List Text → Judgement
  | 0, arguments => .ok (false, arguments)
  | fuel + 1, arguments => do
    let (left, after) ← negation ws fuel arguments
    match after.tail with
    | operator :: rest =>
      if front? (operator :: rest) == some .conjunction then
        let (right, after) ← conjunction ws fuel rest
        return (left && right, after)
      return (left, after)
    | [] => return (left, after)

/-- Judges a negation. -/
def negation (ws : Workspace) : (fuel : Nat) → List Text → Judgement
  | 0, arguments => .ok (false, arguments)
  | fuel + 1, arguments => do
    if front? arguments == some .negation then
      let (holds, after) ← negation ws fuel arguments.tail
      return (!holds, if after.isEmpty then arguments.take 1 else after)
    primary ws fuel arguments

/-- Judges a test, a comparison, a condition in parentheses, or a text, which must not be empty. -/
def primary (ws : Workspace) : (fuel : Nat) → List Text → Judgement
  | 0, arguments => .ok (false, arguments)
  | _ + 1, [] => .ok (false, [])
  | fuel + 1, argument :: rest =>
    match front? (argument :: rest), rest with
    | some .opening, _ =>
      if front? rest == some .closing then .ok (false, rest)
      else do
        let (holds, after) ← disjunction ws fuel rest
        match after.tail with
        | closing :: behind =>
          if front? (closing :: behind) == some .closing then return (holds, closing :: behind)
          .error .noParenthesis
        | [] => .error .noParenthesis
    | some .unary, text :: behind =>
      .ok (holdsOf ws (String.ofList argument) text, text :: behind)
    | some .unary, [] => .error (.noArgument argument)
    | _, operator :: behind =>
      if front? (operator :: behind) == some .binary then
        match behind with
        | right :: _ => do
          return (← compare ws argument (String.ofList operator) right, behind)
        | [] => .error (.noArgument operator)
      else .ok (!argument.isEmpty, argument :: rest)
    | _, [] => .ok (!argument.isEmpty, [argument])

end

/-- Judges a condition up to its end. -/
def judgeAll (ws : Workspace) (arguments : List Text) : Except Mistake Bool := do
  let (holds, after) ← disjunction ws (8 * arguments.length + 8) arguments
  match after with
  | operator :: _ :: _ => .error (.unexpectedOperator operator)
  | _ => return holds

/-- Whether a condition holds. No arguments are a condition that does not hold; a comparison of
three arguments is one whatever they are, and up to four arguments can stand behind a negation. -/
def holds (ws : Workspace) : (arguments : List Text) → Except Mistake Bool
  | [] => .ok false
  | [left, operator, right] =>
    if kindOf? operator == some .binary then compare ws left (String.ofList operator) right
    else if left == ['('] && right == [')'] then judgeAll ws [operator]
    else if left == ['!'] then (holds ws [operator, right]).map (!·)
    else judgeAll ws [left, operator, right]
  | [a, b, c, d] =>
    if a == ['('] && d == [')'] then judgeAll ws [b, c]
    else if a == ['!'] then (holds ws [b, c, d]).map (!·)
    else judgeAll ws [a, b, c, d]
  | arguments => judgeAll ws arguments

end SymbolAtlas.Shell.Condition
