/-!
# Numbers as bytes

A number of fixed width is written with its low byte first in dex images and with its high byte
first in class files.
-/

namespace DexSurface

namespace Bytes

/-- The number of values that a number of bytes can hold. -/
def span : (width : Nat) → Nat
  | 0 => 1
  | width + 1 => 256 * span width

/-- Some value can be held. -/
theorem span_pos (width : Nat) : 0 < span width := by
  induction width with
  | zero => decide
  | succ width inductionHypothesis =>
      rw [span]
      omega

/-- Bytes in two parts hold a value for each pair of values of the parts. -/
theorem span_add (first second : Nat) : span (first + second) = span first * span second := by
  induction first with
  | zero => rw [Nat.zero_add, span, Nat.one_mul]
  | succ first inductionHypothesis =>
      rw [Nat.succ_add, span, span, inductionHypothesis, Nat.mul_assoc]

/-- The low `width` bytes of a number, low byte first. -/
def littleEndian : (width : Nat) → (number : Nat) → List UInt8
  | 0, _ => []
  | width + 1, number => (number % 256).toUInt8 :: littleEndian width (number / 256)

/-- The number that bytes denote, low byte first. -/
def ofLittleEndian : List UInt8 → Nat
  | [] => 0
  | byte :: rest => byte.toNat + 256 * ofLittleEndian rest

/-- The low `width` bytes of a number, high byte first. -/
def bigEndian (width number : Nat) : List UInt8 :=
  (littleEndian width number).reverse

/-- A number takes as many bytes as its width. -/
@[simp]
theorem length_littleEndian (width number : Nat) :
    (littleEndian width number).length = width := by
  induction width generalizing number with
  | zero => rfl
  | succ width inductionHypothesis => simp [littleEndian, inductionHypothesis]

/-- A number takes as many bytes as its width. -/
@[simp]
theorem length_bigEndian (width number : Nat) :
    (bigEndian width number).length = width := by
  simp [bigEndian]

/-- Reading a number back gives the part that fits its width. -/
theorem ofLittleEndian_littleEndian (width number : Nat) :
    ofLittleEndian (littleEndian width number) = number % span width := by
  induction width generalizing number with
  | zero => simp [littleEndian, ofLittleEndian, span, Nat.mod_one]
  | succ width inductionHypothesis =>
      have byteValue : ((number % 256).toUInt8).toNat = number % 256 := by
        simp
      simp only [littleEndian, ofLittleEndian, inductionHypothesis, byteValue]
      rw [span, Nat.mod_mul]

end Bytes

end DexSurface
