/-
# SymbolAtlas.Bracket — matching the brackets of a text

Round, square, curly and angled brackets share one stack: a closing bracket must be of the kind that
was opened last. The scan stops at the first closing bracket for which that fails, and then reports
no pair at all; brackets that are still open at the end are no failure. The pairs of a scan are
listed by the position of their opening bracket, and the level of a pair is the number of brackets
open when it closes, itself included.
-/
import SymbolAtlas.Sequence

namespace SymbolAtlas

/-- The four kinds of brackets. -/
inductive Bracket
  | round
  | square
  | curly
  | angled
  deriving DecidableEq, Repr

namespace Bracket

/-- The opening character of a kind. -/
def opening : Bracket → Char
  | round => '('
  | square => '['
  | curly => '\x7b'
  | angled => '<'

/-- The closing character of a kind. -/
def closing : Bracket → Char
  | round => ')'
  | square => ']'
  | curly => '\x7d'
  | angled => '>'

/-- All kinds. -/
def all : List Bracket := [round, square, curly, angled]

/-- The kind that a character opens. -/
def ofOpening? (c : Char) : Option Bracket := all.find? fun kind => kind.opening == c

/-- The kind that a character closes. -/
def ofClosing? (c : Char) : Option Bracket := all.find? fun kind => kind.closing == c

/-! ## Pairs and faults -/

/-- An opening bracket, the bracket that closes it, and how deep the pair lies: 1 outermost. -/
structure Pair where
  kind : Bracket
  openIndex : Nat
  closeIndex : Nat
  level : Nat
  deriving DecidableEq, Repr

/-- A closing bracket that matches nothing. -/
inductive Fault
  /-- No bracket is open at the closing bracket. -/
  | unbalanced (kind : Bracket) (index : Nat)
  /-- The bracket opened last is of another kind. -/
  | mismatched (kind : Bracket) (index : Nat) (opened : Bracket) (openIndex : Nat)
  deriving DecidableEq, Repr

/-- The wording of a fault. -/
def Fault.message : Fault → String
  | .unbalanced kind index =>
    s!"Unbalanced close symbol {Text.quoted [kind.closing]} at index {index}"
  | .mismatched kind index opened openIndex =>
    s!"Mismatched close symbol {Text.quoted [kind.closing]} at {index}; " ++
      s!"the open symbol is {Text.quoted [opened.opening]} at {openIndex}"

/-- The text strictly between the brackets of a pair. -/
def Pair.content (p : Pair) (s : Text) : Text :=
  (s.drop (p.openIndex + 1)).take (p.closeIndex - (p.openIndex + 1))

/-! ## The scan -/

/-- Puts a pair in its place by the position of its opening bracket. -/
def insertPair (p : Pair) : List Pair → List Pair
  | [] => [p]
  | q :: rest => if p.openIndex ≤ q.openIndex then p :: q :: rest else q :: insertPair p rest

/-- Scans a text from position `index` on, with the brackets still open, innermost first. -/
def scanFrom (index : Nat) (opened : List (Bracket × Nat)) : Text → Except Fault (List Pair)
  | [] => .ok []
  | c :: rest =>
    match ofOpening? c, ofClosing? c with
    | some kind, _ => scanFrom (index + 1) ((kind, index) :: opened) rest
    | none, some kind =>
      match opened with
      | [] => .error (.unbalanced kind index)
      | (openKind, openIndex) :: outer =>
        if openKind = kind then
          (scanFrom (index + 1) outer rest).map
            (insertPair ⟨kind, openIndex, index, outer.length + 1⟩)
        else .error (.mismatched kind index openKind openIndex)
    | none, none => scanFrom (index + 1) opened rest

/-- The matched pairs of a text, or the first closing bracket that matches nothing. -/
def scan (s : Text) : Except Fault (List Pair) := scanFrom 0 [] s

/-- The matched pairs of a text; none if the scan fails. -/
def pairs (s : Text) : List Pair :=
  match scan s with
  | .ok found => found
  | .error _ => []

/-- The fault that ends the scan of a text, if it fails. -/
def fault? (s : Text) : Option Fault :=
  match scan s with
  | .ok _ => none
  | .error fault => some fault

/-- The messages of the scan of a text: the wording of its fault, if it fails. -/
def failures (s : Text) : List String := (fault? s).toList.map Fault.message

/-- The content of the pair with the given number; a negative number asks for the whole text. -/
def content (s : Text) (number : Int) : Attempt Text :=
  if number < 0 then .ok s
  else (itemAt (pairs s) number).map (·.content s)

end Bracket

end SymbolAtlas
