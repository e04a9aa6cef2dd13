import DexSurface.Bytes.Order

/-!
# Deflating

Deflated data are blocks of bits.  Writing uses only blocks that hold bytes as they are, each with
its length and the complement of its length.
-/

namespace DexSurface

namespace Deflate

/-- The largest length of a block of bytes. -/
def maxStoredLength : Nat := 0xffff

/-- A block of bytes. -/
def storedBlock (last : Bool) (bytes : ByteArray) : ByteArray :=
  (last.toUInt8 :: Bytes.littleEndian 2 bytes.size
      ++ Bytes.littleEndian 2 (maxStoredLength - bytes.size)).toByteArray
    ++ bytes

/-- Blocks of the bytes from an offset on, at most `limit` of them. -/
def storedBlocks (bytes : ByteArray) (offset : Nat) : (limit : Nat) → ByteArray
  | 0 => .empty
  | limit + 1 =>
      let following := offset + maxStoredLength
      if bytes.size ≤ following then
        storedBlock true (bytes.extract offset bytes.size)
      else
        storedBlock false (bytes.extract offset following)
          ++ storedBlocks bytes following limit

/-- Deflated data that stand for bytes. -/
def deflate (bytes : ByteArray) : ByteArray :=
  storedBlocks bytes 0 (bytes.size / maxStoredLength + 1)

end Deflate

end DexSurface
