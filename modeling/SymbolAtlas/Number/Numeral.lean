/-
# SymbolAtlas.Number.Numeral — what every reader of numbers does first

Digits of any script count with their values, and blanks around a number are dropped. The four
information separators U+001C..U+001F, although blank, do not surround a number.
-/
import SymbolAtlas.Text.Digit

namespace SymbolAtlas.Numeral

/-- Whether a character may stand before or after a number. -/
def isMargin (c : Char) : Bool := Text.isBlank c && !(28 ≤ c.toNat && c.toNat ≤ 31)

/-- The text between the margins. -/
def withoutMargins (s : Text) : Text :=
  ((s.dropWhile isMargin).reverse.dropWhile isMargin).reverse

/-- A digit of any script as the ASCII digit of the same value, and any other character as it is. -/
def asciiDigit (c : Char) : Char :=
  match Text.decimalValue? c with
  | some v => Nat.digitChar v
  | none => c

/-- The part of a text that spells the number, in ASCII digits. -/
def normalize (s : Text) : Text := (withoutMargins s).map asciiDigit

/-- Splits off a sign: whether it is a minus, and what follows. -/
def splitSign : Text → Bool × Text
  | '-' :: rest => (true, rest)
  | '+' :: rest => (false, rest)
  | rest => (false, rest)

/-- The value of a run of digits in base ten. -/
def decimalNat (digits : Text) : Nat := digits.foldl (fun n c => n * 10 + (c.toNat - 48)) 0

end SymbolAtlas.Numeral
