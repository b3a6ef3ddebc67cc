/-
# SymbolAtlas.Text.Basic — text as a list of characters, its blanks, its words, and searching in it

A listing is cut by characters: every position and every length in this library counts characters,
never bytes. So a text is the list of its characters, and whatever is said about a prefix, a suffix
or a part of a text is said about lists.

Blank characters are those of the Unicode property `White_Space` together with the four information
separators U+001C..U+001F. Trimming removes them from one or both ends; `words` are the maximal runs
of the others.
-/

namespace SymbolAtlas

/-- A text is the list of its characters. -/
abbrev Text := List Char

namespace Text

/-! ## Blanks -/

/-- Whether a character separates words: a space, a line break, or one of the other blank
characters of Unicode. The zero-width characters are not among them. -/
def isBlank (c : Char) : Bool :=
  let n := c.toNat
  (9 ≤ n && n ≤ 13) || (28 ≤ n && n ≤ 32) || n == 0x85 || n == 0xA0 || n == 0x1680 ||
    (0x2000 ≤ n && n ≤ 0x200A) || n == 0x2028 || n == 0x2029 || n == 0x202F || n == 0x205F ||
    n == 0x3000

/-- The text without its leading blanks. -/
def trimStart (s : Text) : Text := s.dropWhile isBlank

/-- The text without its trailing blanks. -/
def trimEnd (s : Text) : Text := (s.reverse.dropWhile isBlank).reverse

/-- The text without the blanks at either end. -/
def trim (s : Text) : Text := trimEnd (trimStart s)

/-- Whether nothing but blanks is in the text; the empty text is blank. -/
def isBlankText (s : Text) : Bool := s.all isBlank

/-! ## Cutting a text into pieces -/

/-- The non-empty parts of a text between the characters that `p` marks as separators. -/
def pieces (p : Char → Bool) (s : Text) : List Text :=
  (s.splitOnP p).filter fun piece => !piece.isEmpty

/-- The words of a text: its maximal runs of characters that are not blank. -/
def words (s : Text) : List Text := pieces isBlank s

/-! ## Searching -/

/-- The position where `needle` first occurs, if it does. -/
def position? (needle : Text) : Text → Option Nat
  | [] => if needle.isEmpty then some 0 else none
  | c :: rest =>
    if needle.isPrefixOf (c :: rest) then some 0 else (position? needle rest).map (· + 1)

/-- Whether `needle` occurs in the text. -/
def occursIn (needle s : Text) : Bool := (position? needle s).isSome

/-- What follows the first occurrence of `needle`; nothing if there is none. -/
def afterFirst (needle s : Text) : Text :=
  match position? needle s with
  | some i => s.drop (i + needle.length)
  | none => []

/-- What precedes the first `=`-like mark `c`, if the mark occurs. -/
def beforeFirst? (c : Char) (s : Text) : Option Text :=
  if c ∈ s then some (s.takeWhile (· != c)) else none

/-- Drops the first `skip` characters, and of the others those that belong to an occurrence of
`needle`. -/
def removeFrom (needle : Text) : (skip : Nat) → Text → Text
  | _, [] => []
  | skip + 1, _ :: rest => removeFrom needle skip rest
  | 0, c :: rest =>
    if needle.isPrefixOf (c :: rest) then removeFrom needle (needle.length - 1) rest
    else c :: removeFrom needle 0 rest

/-- The text without the occurrences of `needle`, taken from left to right without overlap. -/
def removeAll (needle s : Text) : Text := removeFrom needle 0 s

end Text

end SymbolAtlas
