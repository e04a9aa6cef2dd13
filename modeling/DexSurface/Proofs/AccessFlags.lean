import Mathlib.Data.Nat.Bitwise
import DexSurface.AccessFlags

namespace DexSurface

/-!
# Flags one by one

What setting or clearing some flags does to the others, and which flags are left when sixteen of
them are stored.
-/

namespace AccessFlags

variable {bits mask : AccessFlags}

/-- A flag is set in one of two words if it is set in their union. -/
theorem has_or (flags bits mask : AccessFlags) :
    (flags ||| bits).has mask = (flags.has mask || bits.has mask) := by
  have distributes : (flags ||| bits) &&& mask = flags &&& mask ||| bits &&& mask := by
    apply UInt32.toBitVec_inj.mp
    simp only [UInt32.toBitVec_and, UInt32.toBitVec_or]
    ext index inRange
    simp [Bool.and_or_distrib_right]
  rw [has, has, has, distributes, Bool.eq_iff_iff]
  simp only [bne_iff_ne, Bool.or_eq_true, ne_eq, UInt32.or_eq_zero_iff]
  exact not_and_or

/-- Bits that are set elsewhere do not matter for a mask. -/
theorem has_or_of_apart (apart : bits &&& mask = 0) (flags : AccessFlags) :
    (flags ||| bits).has mask = flags.has mask := by
  have unset : bits.has mask = false := by
    rw [has, apart]
    rfl
  rw [has_or, unset, Bool.or_false]

/-- Bits that are cleared elsewhere do not matter for a mask. -/
theorem has_and_of_kept (kept : bits &&& mask = mask) (flags : AccessFlags) :
    (flags &&& bits).has mask = flags.has mask := by
  rw [has, has, UInt32.and_assoc, kept]

/-- Bits that are cleared are not set. -/
theorem has_and_of_apart (apart : bits &&& mask = 0) (flags : AccessFlags) :
    (flags &&& bits).has mask = false := by
  rw [has, UInt32.and_assoc, apart, UInt32.and_zero]
  rfl

/-- An accessible element is not synthetic. -/
theorem has_syntheticBit_eq_false
    {flags : AccessFlags}
    (accessible : flags.isAccessible = true) :
    flags.has syntheticBit = false := by
  rw [isAccessible, isInaccessible, Bool.not_eq_true', Bool.or_eq_false_iff] at accessible
  exact accessible.1

/-! Stored flags. -/

/-- Setting bits above the stored ones changes no stored flag. -/
theorem toUInt16_or_of_above (above : bits.toUInt16 = 0) (flags : AccessFlags) :
    (flags ||| bits).toUInt16 = flags.toUInt16 := by
  rw [UInt32.toUInt16_or, above, UInt16.or_zero]

/-- Clearing bits above the stored ones changes no stored flag. -/
theorem toUInt16_and_of_above (above : bits.toUInt16 = 0xffff) (flags : AccessFlags) :
    (flags &&& bits).toUInt16 = flags.toUInt16 := by
  rw [UInt32.toUInt16_and, above]
  exact UInt16.and_neg_one

/-- Adding a bit and then clearing it is clearing it. -/
theorem or_and_not (stored bit : UInt16) : (stored ||| bit) &&& ~~~bit = stored &&& ~~~bit := by
  apply UInt16.toBitVec_inj.mp
  simp only [UInt16.toBitVec_and, UInt16.toBitVec_or, UInt16.toBitVec_not]
  ext index inRange
  simp [Bool.and_or_distrib_right]

/-- An added bit is present. -/
theorem or_and_self (stored bit : UInt16) : (stored ||| bit) &&& bit = bit := by
  apply UInt16.toBitVec_inj.mp
  simp only [UInt16.toBitVec_and, UInt16.toBitVec_or]
  ext index inRange
  simp [Bool.and_or_distrib_right]

/-- Sixteen flags have no mark for deprecation among them. -/
theorem has_deprecatedBit_toUInt32 (stored : UInt16) :
    has stored.toUInt32 deprecatedBit = false := by
  have below : stored.toNat < 2 ^ 17 := Nat.lt_trans stored.toNat_lt (by decide)
  have bit := Nat.and_two_pow stored.toNat 17
  rw [Nat.testBit_lt_two_pow below] at bit
  have unset : stored.toUInt32 &&& deprecatedBit = 0 := by
    rw [← UInt32.toNat_inj, UInt32.toNat_and, UInt16.toNat_toUInt32]
    exact bit
  rw [has, unset]
  rfl

end AccessFlags

end DexSurface
