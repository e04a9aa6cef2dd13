/-!
# Ranges of characters

A property of characters is a list of ranges of codes, each with its first and last code.
-/

namespace DexSurface

namespace Width

/-- A character lies in one of some ranges. -/
def isIn (ranges : List (Nat × Nat)) (char : Char) : Bool :=
  ranges.any fun range => range.1 ≤ char.toNat && char.toNat ≤ range.2

end Width

end DexSurface
