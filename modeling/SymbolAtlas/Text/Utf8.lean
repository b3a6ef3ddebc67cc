/-
# SymbolAtlas.Text.Utf8 — reading UTF-8 bytes with replacement, and writing them

`decode` accepts every byte string. A well-formed sequence gives its character; each maximal
ill-formed subpart, that is the longest beginning of a well-formed sequence that is present, or else
a single byte, gives one replacement character U+FFFD. The decoder is a machine that reads one byte
at a time: its state holds the bits of an unfinished sequence and the range that the next byte must
lie in, so overlong forms, surrogates and values above U+10FFFF are refused at their second byte.
-/
import SymbolAtlas.Text.Basic

namespace SymbolAtlas.Text.Utf8

/-- The character that stands for bytes which are not well formed. -/
def replacement : Char := Char.ofNat 0xFFFD

/-! ## The decoder -/

/-- What the decoder is in the middle of: nothing, or a sequence of which `missing + 1` bytes are
still to come, the next of them between `low` and `high`; `bits` is the value so far. -/
inductive State
  | ready
  | within (bits missing low high : Nat)
  deriving DecidableEq, Repr

/-- The state after a first byte, or `none` if no sequence begins with that byte. One-byte sequences
are not begun here. -/
def begin? (b : Nat) : Option State :=
  if b < 0xC2 then none
  else if b < 0xE0 then some (.within (b - 0xC0) 0 0x80 0xBF)
  else if b == 0xE0 then some (.within 0 1 0xA0 0xBF)
  else if b == 0xED then some (.within 0xD 1 0x80 0x9F)
  else if b < 0xF0 then some (.within (b - 0xE0) 1 0x80 0xBF)
  else if b == 0xF0 then some (.within 0 2 0x90 0xBF)
  else if b < 0xF4 then some (.within (b - 0xF0) 2 0x80 0xBF)
  else if b == 0xF4 then some (.within 4 2 0x80 0x8F)
  else none

/-- Reads a byte that begins something new: the characters it completes and the state after it. -/
def start (b : UInt8) : Text × State :=
  if b < 0x80 then ([Char.ofNat b.toNat], .ready)
  else match begin? b.toNat with
    | some state => ([], state)
    | none => ([replacement], .ready)

/-- Reads one byte. A byte that does not continue the unfinished sequence ends it with a
replacement character and is then read afresh. -/
def step : State → UInt8 → Text × State
  | .ready, b => start b
  | .within bits missing low high, b =>
    if low ≤ b.toNat && b.toNat ≤ high then
      let bits := bits * 64 + (b.toNat - 0x80)
      match missing with
      | 0 => ([Char.ofNat bits], .ready)
      | missing + 1 => ([], .within bits missing 0x80 0xBF)
    else
      let (text, state) := start b
      (replacement :: text, state)

/-- What the end of the input adds: a replacement character for an unfinished sequence. -/
def finish : State → Text
  | .ready => []
  | .within .. => [replacement]

/-- Decodes from a given state, with the characters so far in reverse. -/
def decodeFrom (state : State) (reversed : Text) : List UInt8 → Text
  | [] => reversed.reverse ++ finish state
  | b :: rest =>
    let (text, state) := step state b
    decodeFrom state (text.reverse ++ reversed) rest

/-- The text that a byte string spells in UTF-8, with U+FFFD where it is not well formed. -/
def decode (bytes : List UInt8) : Text := decodeFrom .ready [] bytes

/-! ## The encoder -/

/-- The bytes of one character. -/
def encodeChar (c : Char) : List UInt8 :=
  let n := c.toNat
  if n < 0x80 then [n.toUInt8]
  else if n < 0x800 then [(0xC0 + n / 64).toUInt8, (0x80 + n % 64).toUInt8]
  else if n < 0x10000 then
    [(0xE0 + n / 4096).toUInt8, (0x80 + n / 64 % 64).toUInt8, (0x80 + n % 64).toUInt8]
  else
    [(0xF0 + n / 262144).toUInt8, (0x80 + n / 4096 % 64).toUInt8, (0x80 + n / 64 % 64).toUInt8,
      (0x80 + n % 64).toUInt8]

/-- The UTF-8 bytes of a text. -/
def encode (s : Text) : List UInt8 := s.flatMap encodeChar

end SymbolAtlas.Text.Utf8
