/-
# SymbolAtlas.Text.Quoted — a text between quotes, as messages show it

The quotes are single, unless the text holds a single quote and no double one. Inside, the quote in
use and the backslash get a backslash, tab, line feed and carriage return their letters, and every
other character that is not printable is written by its code: two digits, four or eight.
-/
import SymbolAtlas.Text.Basic
import SymbolAtlas.Text.Printable

namespace SymbolAtlas.Text.Quoted

/-- The single quote. -/
def single : Char := Char.ofNat 0x27

/-- The double quote. -/
def double : Char := Char.ofNat 0x22

/-- The quote that a text is put between. -/
def quoteFor (s : Text) : Char :=
  if single ∈ s ∧ double ∉ s then double else single

/-- The last `width` hexadecimal digits of a code, in lower case. -/
def codeDigits : (width : Nat) → Nat → Text
  | 0, _ => []
  | width + 1, n => codeDigits width (n / 16) ++ [Nat.digitChar (n % 16)]

/-- One character between quotes `q`. -/
def encodeChar (q c : Char) : Text :=
  if c == q || c == '\\' then ['\\', c]
  else if c == '\t' then ['\\', 't']
  else if c == '\n' then ['\\', 'n']
  else if c == '\r' then ['\\', 'r']
  else if isPrintable c then [c]
  else if c.toNat < 0x100 then '\\' :: 'x' :: codeDigits 2 c.toNat
  else if c.toNat < 0x10000 then '\\' :: 'u' :: codeDigits 4 c.toNat
  else '\\' :: 'U' :: codeDigits 8 c.toNat

/-- The text between its quotes. -/
def encode (s : Text) : Text :=
  let q := quoteFor s
  q :: s.flatMap (encodeChar q) ++ [q]

end SymbolAtlas.Text.Quoted
