/-!
# Hexadecimal numbers

Offsets and codes in messages are written as `0x` and lower-case digits.
-/

namespace DexSurface

/-- A number as `0x` and at least `width` lower-case digits. -/
def hexadecimal (width number : Nat) : String :=
  let digits := Nat.toDigits 16 number
  "0x" ++ String.ofList (List.replicate (width - digits.length) '0' ++ digits)

end DexSurface
