/-
# SymbolAtlas.Shell.Pattern — patterns for texts and for names of files

In a pattern a star stands for any text, a question mark for any character, and brackets for one of
several characters. A quoted character stands for itself.
-/
import SymbolAtlas.Text.Basic

namespace SymbolAtlas.Shell

/-- Characters, each with a note of whether it was quoted. -/
abbrev Marked := List (Char × Bool)

/-- What a part of a pattern stands for. -/
inductive Matcher
  | one (c : Char)
  | any
  | many
  /-- A character that lies, or does not lie, in one of the ranges or classes. -/
  | set (negated : Bool) (ranges : List (Char × Char)) (classes : List Text)
  deriving DecidableEq, Repr

/-- A pattern. -/
abbrev Pattern := List Matcher

namespace Pattern

/-- The members of a set up to the bracket that closes it, and the rest of the pattern. A closing
bracket in the first place is a member. -/
def members : (fuel : Nat) → (first : Bool) → Marked →
    Option (List (Char × Char) × List Text × Marked)
  | 0, _, _ | _, _, [] => none
  | fuel + 1, first, (c, quoted) :: rest =>
    if c == ']' && !quoted && !first then some ([], [], rest)
    else
      let name := (rest.drop 1).map (·.1) |>.takeWhile (· != ':')
      let behind := rest.drop (name.length + 1)
      if c == '[' && !quoted && rest.head?.map (·.1) == some ':' &&
          (behind.take 2).map (·.1) == [':', ']'] then
        (members fuel false (behind.drop 2)).map fun (ranges, classes, after) =>
          (ranges, name :: classes, after)
      else match rest with
        | ('-', false) :: (d, endQuoted) :: after =>
          if d == ']' && !endQuoted then
            (members fuel false rest).map fun (ranges, classes, after) =>
              ((c, c) :: ranges, classes, after)
          else
            (members fuel false after).map fun (ranges, classes, after) =>
              ((c, d) :: ranges, classes, after)
        | _ =>
          (members fuel false rest).map fun (ranges, classes, after) =>
            ((c, c) :: ranges, classes, after)

/-- The set behind an opening bracket, and the rest of the pattern. -/
def set? (s : Marked) : Option (Matcher × Marked) :=
  let (negated, s) := match s with
    | (c, false) :: rest => if c == '!' then (true, rest) else (false, s)
    | _ => (false, s)
  (members (s.length + 1) true s).map fun (ranges, classes, after) =>
    (.set negated ranges classes, after)

/-- Reads a pattern. Each step takes at least one character, so `fuel` need not exceed the length of
the text by more than one. -/
def read : (fuel : Nat) → Marked → Pattern
  | 0, _ | _, [] => []
  | fuel + 1, (c, true) :: rest => .one c :: read fuel rest
  | fuel + 1, (c, false) :: rest =>
    match c with
    | '*' => .many :: read fuel rest
    | '?' => .any :: read fuel rest
    | '[' =>
      match set? rest with
      | some (set, after) => set :: read fuel after
      | none => .one c :: read fuel rest
    | _ => .one c :: read fuel rest

/-- The pattern that marked characters spell. -/
def ofMarked (s : Marked) : Pattern := read (s.length + 1) s

/-- Whether a pattern stands for one text only. -/
def isPlain (pattern : Pattern) : Bool := pattern.all fun m => m matches .one _

/-- The characters of a class. Only the characters of ASCII are in a class. -/
def isInClass (name : Text) (c : Char) : Bool :=
  let n := c.toNat
  match String.ofList name with
  | "alpha" => c.isAlpha
  | "digit" => c.isDigit
  | "alnum" => c.isAlphanum
  | "upper" => c.isUpper
  | "lower" => c.isLower
  | "space" => n == 32 || (9 ≤ n && n ≤ 13)
  | "blank" => n == 32 || n == 9
  | "punct" => 33 ≤ n && n < 127 && !c.isAlphanum
  | "print" => 32 ≤ n && n < 127
  | "graph" => 33 ≤ n && n < 127
  | "cntrl" => n < 32 || n == 127
  | "xdigit" => c.isDigit || ('a' ≤ c && c ≤ 'f') || ('A' ≤ c && c ≤ 'F')
  | _ => false

/-- Whether a set holds a character. -/
def holdsCharacter (negated : Bool) (ranges : List (Char × Char)) (classes : List Text)
    (c : Char) : Bool :=
  (ranges.any (fun (low, high) => low ≤ c && c ≤ high) || classes.any (isInClass · c)) != negated

/-- What a pattern and the patterns behind its stars leave to be matched: a star stands for nothing,
or goes on. -/
def starts : Pattern → List Pattern
  | .many :: rest => (.many :: rest) :: starts rest
  | pattern => [pattern]

/-- What is left to be matched of a pattern behind a character, unless the character does not match.
-/
def behind (c : Char) : Pattern → List Pattern
  | [] => []
  | .many :: rest => [.many :: rest]
  | .any :: rest => [rest]
  | .one d :: rest => if c == d then [rest] else []
  | .set negated ranges classes :: rest =>
    if holdsCharacter negated ranges classes c then [rest] else []

/-- What has been seen of a text: the patterns that may match what follows, the length of what has
been seen, and the shortest and the longest front of it that is matched. -/
structure Scan where
  left : List Pattern
  length : Nat
  shortest : Option Nat
  longest : Option Nat

/-- Takes note of whether all that has been seen is matched. -/
def Scan.noted (scan : Scan) : Scan :=
  if scan.left.any (·.isEmpty) then
    { scan with shortest := scan.shortest <|> some scan.length, longest := some scan.length }
  else scan

/-- Sees a character. The patterns that are left end alike, so those of one length are the same. -/
def Scan.step (scan : Scan) (c : Char) : Scan :=
  let all := (scan.left.flatMap (behind c)).flatMap starts
  let left := all.foldr (fun pattern kept =>
    if kept.any (·.length == pattern.length) then kept else pattern :: kept) []
  Scan.noted { scan with left := left, length := scan.length + 1 }

/-- Sees a text from its front to its end. -/
def scan (pattern : Pattern) (s : Text) : Scan :=
  s.foldl Scan.step (Scan.noted ⟨starts pattern, 0, none, none⟩)

/-- Whether a pattern stands for a text. -/
def matchesText (pattern : Pattern) (s : Text) : Bool := (pattern.scan s).longest == some s.length

/-- The text without the shortest, or the longest, part at its front that the pattern stands for. -/
def removeFront (pattern : Pattern) (longest : Bool) (s : Text) : Text :=
  let found := pattern.scan s
  match if longest then found.longest else found.shortest with
  | some n => s.drop n
  | none => s

/-- The text without the shortest, or the longest, part at its end that the pattern stands for. -/
def removeBack (pattern : Pattern) (longest : Bool) (s : Text) : Text :=
  (removeFront pattern.reverse longest s.reverse).reverse

end Pattern

end SymbolAtlas.Shell
