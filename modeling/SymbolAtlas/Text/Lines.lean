/-
# SymbolAtlas.Text.Lines — cutting a text into lines

Line breaks are line feed, carriage return, vertical tab, form feed, the separators U+001C..U+001E,
next line (U+0085), U+2028 and U+2029. A carriage return directly followed by a line feed is one
break. A break ends a line, so a text that ends in a break has no empty last line, and the empty
text has no lines at all.
-/
import SymbolAtlas.Text.Basic

namespace SymbolAtlas.Text

/-- Whether a character ends a line. -/
def isLineBreak (c : Char) : Bool :=
  let n := c.toNat
  (10 ≤ n && n ≤ 13) || (28 ≤ n && n ≤ 30) || n == 0x85 || n == 0x2028 || n == 0x2029

/-- The lines of the rest of a text, and whether that rest begins with a line feed. -/
structure LineScan where
  lines : List Text := []
  startsWithLineFeed : Bool := false

/-- Puts one character in front of an already divided text. A break opens a new line, except that a
carriage return joins the line feed behind it. -/
def LineScan.push (c : Char) (scan : LineScan) : LineScan :=
  if c == '\r' && scan.startsWithLineFeed then { lines := scan.lines }
  else if isLineBreak c then
    { lines := [] :: scan.lines, startsWithLineFeed := c == '\n' }
  else
    match scan.lines with
    | line :: lines => { lines := (c :: line) :: lines }
    | [] => { lines := [[c]] }

/-- The lines of a text, without their line breaks. -/
def lines (s : Text) : List Text := (s.foldr LineScan.push {}).lines

end SymbolAtlas.Text
