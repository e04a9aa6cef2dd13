/-!
# Writing variable-length numbers

A number is written in groups of seven bits, low group first, each in a byte whose high bit says
that another group follows.
-/

namespace DexSurface

namespace Dex

namespace Leb128

/-- The bytes of a number without sign. -/
def encode (number : Nat) : List UInt8 :=
  if number < 0x80 then
    [number.toUInt8]
  else
    (0x80 + number % 0x80).toUInt8 :: encode (number / 0x80)
termination_by number

/-- A small number takes one byte. -/
theorem encode_of_lt {number : Nat} (small : number < 0x80) :
    encode number = [number.toUInt8] := by
  rw [encode, if_pos small]

/-- A number is written in at least one byte. -/
theorem encode_ne_nil (number : Nat) : encode number ≠ [] := by
  rw [encode]
  split <;> simp

end Leb128

end Dex

end DexSurface
