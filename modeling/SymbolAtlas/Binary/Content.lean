/-
# SymbolAtlas.Binary.Content — the bytes of a file

A file of many equal stretches is kept as one stretch and the number of its copies, so a sparse file
of gigabytes costs one byte. Bytes are read by position; beyond the end of the file every byte is
zero, which is what readers of padded structures want.
-/

namespace SymbolAtlas

/-- The bytes of a file: `copies` copies of `block`. -/
structure Content where
  block : ByteArray
  copies : Nat := 1

namespace Content

/-- The content given by a list of bytes. -/
def ofBytes (bytes : List UInt8) : Content := { block := ByteArray.mk bytes.toArray }

/-- The number of bytes. -/
def size (c : Content) : Nat := c.block.size * c.copies

/-- The byte at a position; zero beyond the end. -/
def byteAt (c : Content) (i : Nat) : UInt8 :=
  if i < c.size then c.block.get! (i % c.block.size) else 0

/-- `count` bytes from a position on. -/
def bytesAt (c : Content) (start count : Nat) : List UInt8 :=
  (List.range count).map fun i => c.byteAt (start + i)

/-- All bytes. -/
def bytes (c : Content) : List UInt8 := c.bytesAt 0 c.size

/-- The number that `width` bytes from a position on spell, least significant byte first. -/
def numberAt (c : Content) (start width : Nat) : Nat :=
  (c.bytesAt start width).foldr (fun byte n => byte.toNat + 256 * n) 0

end Content

end SymbolAtlas
