/-
# SymbolAtlas.Shell.Octets — text as the shell holds it

The shell counts, compares and prints bytes. Inside it a text is a list of characters below 256,
each of which stands for one byte, so what a script prints need not be well-formed text. Paths and
names from outside are encoded on their way in and decoded on their way out.
-/
import SymbolAtlas.Text.Utf8

namespace SymbolAtlas.Shell.Octets

/-- Bytes as a text of the shell. -/
def ofBytes (bytes : List UInt8) : Text := bytes.map fun byte => Char.ofNat byte.toNat

/-- The bytes that a text of the shell stands for. -/
def toBytes (s : Text) : List UInt8 := s.map fun c => c.toNat.toUInt8

/-- A text from outside as a text of the shell. -/
def ofText (s : Text) : Text := ofBytes (Text.Utf8.encode s)

/-- A text of the shell as a text for the outside. -/
def toText (s : Text) : Text := Text.Utf8.decode (toBytes s)

/-- A number in decimal digits. -/
def decimal (n : Int) : Text := (toString n).toList

/-- Whether a character is a blank, a tab or a line end. -/
def isSpace (c : Char) : Bool := c == ' ' || c == '\t' || c == '\n'

/-- The number that digits spell. -/
def numberOf (digits : Text) : Nat := digits.foldl (fun n c => 10 * n + (c.toNat - 48)) 0

/-- Whether a text is not empty and holds digits only. -/
def isNumber (s : Text) : Bool := !s.isEmpty && s.all Char.isDigit

/-- Whether a text comes before another one or is the same, byte by byte. -/
def precedes : Text → Text → Bool
  | [], _ => true
  | _ :: _, [] => false
  | c :: s, d :: t => c < d || (c == d && precedes s t)

end SymbolAtlas.Shell.Octets
