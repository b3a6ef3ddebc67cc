/-
# SymbolAtlas.Number.Hexadecimal — numbers in base sixteen, written and read

`write` gives upper-case digits without leading zeros. `read?` is liberal: a sign, the mark `0x`,
and single underscores between digits or right behind the mark are allowed.
-/
import SymbolAtlas.Number.Numeral

namespace SymbolAtlas.Hexadecimal

/-! ## Writing -/

/-- The digits of a number in upper case, without leading zeros. -/
def write (n : Nat) : Text := (Nat.toDigits 16 n).map Char.toUpper

/-- A number behind the mark `0x`; the minus of a negative one stands between mark and digits. -/
def writeMarked (n : Int) : Text :=
  '0' :: 'x' :: (if n < 0 then '-' :: write n.natAbs else write n.natAbs)

/-! ## Reading -/

/-- The value of a run of digits. -/
def value (digits : Text) : Nat :=
  digits.foldl (fun n c => n * 16 + Text.hexDigitValue c) 0

/-- The digits of a non-empty run in which single underscores may stand between digits. -/
def digits? : Text → Option Text
  | [] => none
  | [c] => if Text.isHexDigit c then some [c] else none
  | c :: d :: rest =>
    if Text.isHexDigit c then
      if d == '_' then (digits? rest).map (c :: ·) else (digits? (d :: rest)).map (c :: ·)
    else none

/-- What follows the mark `0x` and an underscore behind it; the text itself if it has no mark. -/
def afterMark : Text → Text
  | '0' :: 'x' :: '_' :: rest => rest
  | '0' :: 'X' :: '_' :: rest => rest
  | '0' :: 'x' :: rest => rest
  | '0' :: 'X' :: rest => rest
  | rest => rest

/-- The number that a text spells in base sixteen, if it spells one. -/
def read? (s : Text) : Option Int :=
  let (negative, unsigned) := Numeral.splitSign (Numeral.normalize s)
  (digits? (afterMark unsigned)).map fun digits =>
    if negative then -(value digits : Int) else value digits

end SymbolAtlas.Hexadecimal
