/-
# SymbolAtlas.Listing.Token — what the columns of a listing look like

Columns are told apart by their shape alone: addresses are long runs of hexadecimal digits, opcode
bytes are pairs of them, and padding is written `CC`. Operand text is cut at commas, square brackets
and signs.
-/
import SymbolAtlas.Failure
import SymbolAtlas.Number.Hexadecimal

namespace SymbolAtlas.Token

/-- Whether the text is a non-empty run of hexadecimal digits. -/
def isHex (s : Text) : Bool := !s.isEmpty && s.all Text.isHexDigit

/-- Whether the text is a non-empty run of decimal digits. -/
def isDecimal (s : Text) : Bool := !s.isEmpty && s.all Text.isDecimalDigit

/-- The token without a colon at its end. -/
def withoutColon (s : Text) : Text := if s.getLast? = some ':' then s.dropLast else s

/-- The least number of digits of an address. -/
def leastAddressDigits : Nat := 8

/-- Whether the token can stand in the address column: eight or more digits, and perhaps a colon. -/
def isAddress (s : Text) : Bool :=
  leastAddressDigits ≤ (withoutColon s).length && isHex (withoutColon s)

/-- The number that an address column spells. Any colons at its end are dropped. -/
def addressValue (s : Text) : Attempt Int :=
  let digits := (s.reverse.dropWhile (· == ':')).reverse
  match Hexadecimal.read? digits with
  | some n => .ok n
  | none => .error (.notHexadecimal digits)

/-- Whether the token can stand for an opcode byte. -/
def isOpcodeByte (s : Text) : Bool := s.length == 2 && isHex s

/-- Whether the token is the byte that fills the gap behind a function, in either case. -/
def isFiller (s : Text) : Bool := s.map Char.toUpper == ['C', 'C']

/-- Whether a character separates the parts of an operand. -/
def isDelimiter (c : Char) : Bool :=
  c == ' ' || c == '\t' || c == ',' || c == '[' || c == '+' || c == ']' || c == '-'

/-- The parts of an operand. -/
def operands (s : Text) : List Text := Text.pieces isDelimiter s

/-- The first word of a text. A blank text has none. -/
def firstWord (s : Text) : Attempt Text :=
  match s.words with
  | word :: _ => .ok word
  | [] => .error .noItem

end SymbolAtlas.Token
