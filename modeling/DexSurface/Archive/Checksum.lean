/-!
# Checksums of archive entries

An archive keeps the remainder of every content modulo a fixed polynomial, low bits first.
-/

namespace DexSurface

namespace Checksum

/-- The polynomial, without its highest coefficient. -/
def polynomial : UInt32 := 0xedb88320

/-- A remainder with one bit shifted out. -/
def shift (remainder : UInt32) : UInt32 :=
  if remainder &&& 1 = 0 then remainder >>> 1 else (remainder >>> 1) ^^^ polynomial

/-- A remainder with one more byte taken in. -/
def step (remainder : UInt32) (byte : UInt8) : UInt32 :=
  Nat.repeat shift 8 (remainder ^^^ byte.toUInt32)

/-- The checksum of a content. -/
def ofContent (content : ByteArray) : UInt32 :=
  content.foldl step 0xffffffff ^^^ 0xffffffff

end Checksum

end DexSurface
