/-
# SymbolAtlas.Binary.Sha1 — the SHA-1 digest of a file

The message is padded with a one bit, zeros and its length in bits to a whole number of blocks of 64
bytes. Each block is expanded to eighty words and mixed into a state of five words; the digest is
the state behind the last block.
-/
import SymbolAtlas.Binary.Content
import SymbolAtlas.Entity
import SymbolAtlas.Number.Hexadecimal

namespace SymbolAtlas.Sha1

/-! ## Padding -/

/-- The number of blocks of a message of `size` bytes. -/
def blockCount (size : Nat) : Nat := (size + 8) / 64 + 1

/-- The byte of the padded message at a position. -/
def paddedByte (c : Content) (i : Nat) : UInt8 :=
  let size := c.size
  let total := 64 * blockCount size
  if i < size then c.byteAt i
  else if i == size then 0x80
  else if i + 8 < total then 0
  else (8 * size / Nat.pow 256 (total - 1 - i)).toUInt8

/-- The 32-bit word of the padded message that begins at a position, most significant byte first. -/
def paddedWord (c : Content) (i : Nat) : UInt32 :=
  let byte (k : Nat) : UInt32 := (paddedByte c (i + k)).toUInt32
  (byte 0 <<< 24) ||| (byte 1 <<< 16) ||| (byte 2 <<< 8) ||| byte 3

/-! ## Compression -/

/-- The five words that the blocks are mixed into. -/
structure State where
  a : UInt32
  b : UInt32
  c : UInt32
  d : UInt32
  e : UInt32

/-- The state before the first block. -/
def State.start : State := ⟨0x67452301, 0xEFCDAB89, 0x98BADCFE, 0x10325476, 0xC3D2E1F0⟩

/-- The word turned to the left by `n` bits. -/
def rotate (x n : UInt32) : UInt32 := (x <<< n) ||| (x >>> (32 - n))

/-- The words of a block: sixteen from the message, and sixty-four more from those before them. -/
def schedule (c : Content) (block : Nat) : Array UInt32 :=
  let message := (Array.range 16).map fun t => paddedWord c (64 * block + 4 * t)
  Nat.fold 64 (fun i _ words =>
    let t := i + 16
    words.push (rotate (words[t - 3]! ^^^ words[t - 8]! ^^^ words[t - 14]! ^^^ words[t - 16]!) 1))
    message

/-- The mixing function and the constant of a round. -/
def mixing (t : Nat) (s : State) : UInt32 × UInt32 :=
  if t < 20 then ((s.b &&& s.c) ||| (~~~s.b &&& s.d), 0x5A827999)
  else if t < 40 then (s.b ^^^ s.c ^^^ s.d, 0x6ED9EBA1)
  else if t < 60 then ((s.b &&& s.c) ||| (s.b &&& s.d) ||| (s.c &&& s.d), 0x8F1BBCDC)
  else (s.b ^^^ s.c ^^^ s.d, 0xCA62C1D6)

/-- One of the eighty rounds. -/
def round (t : Nat) (word : UInt32) (s : State) : State :=
  let (mixed, constant) := mixing t s
  ⟨rotate s.a 5 + mixed + s.e + word + constant, s.a, rotate s.b 30, s.c, s.d⟩

/-- Mixes a block into the state. -/
def compress (c : Content) (block : Nat) (s : State) : State :=
  let words := schedule c block
  let r := Nat.fold 80 (fun t _ r => round t words[t]! r) s
  ⟨s.a + r.a, s.b + r.b, s.c + r.c, s.d + r.d, s.e + r.e⟩

/-! ## Digest -/

/-- The words of the digest. -/
def words (c : Content) : List UInt32 :=
  let s := Nat.fold (blockCount c.size) (fun block _ s => compress c block s) State.start
  [s.a, s.b, s.c, s.d, s.e]

/-- A word as eight hexadecimal digits in upper case. -/
def wordText (w : UInt32) : Text :=
  let digits := Hexadecimal.write w.toNat
  List.replicate (8 - digits.length) '0' ++ digits

/-- The digest as forty hexadecimal digits in upper case. -/
def digest (c : Content) : Text := (words c).flatMap wordText

end SymbolAtlas.Sha1

namespace SymbolAtlas

/-- The identity of a content: its digest and its size. -/
def Content.identity (c : Content) : FileIdentity := ⟨Sha1.digest c, c.size⟩

end SymbolAtlas
