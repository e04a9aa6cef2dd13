import DexSurface.Proofs.Dex.JoinedBits
import DexSurface.Proofs.Dex.ValueReading

namespace DexSurface

/-!
# Shortest stored numbers

A number with sign is stored in the fewest bytes from which it is extended.  They are what is left
of its bytes when those in front that only repeat the sign are dropped one after another.
-/

namespace Bytes

/-! Bytes of a number, the highest apart. -/

/-- One more byte stands behind the low ones. -/
theorem littleEndian_succ (width number : Nat) :
    littleEndian (width + 1) number
      = littleEndian width number ++ [(number / span width % 256).toUInt8] := by
  induction width generalizing number with
  | zero => simp [littleEndian, span]
  | succ width inductionHypothesis =>
      rw [littleEndian, inductionHypothesis, littleEndian, span,
        Nat.div_div_eq_div_mul, List.cons_append]

/-- One more byte stands in front of the low ones. -/
theorem bigEndian_succ (width number : Nat) :
    bigEndian (width + 1) number
      = (number / span width % 256).toUInt8 :: bigEndian width number := by
  rw [bigEndian, littleEndian_succ, List.reverse_append]
  rfl

/-- The low bytes of a number are those of what the number is modulo their span. -/
theorem littleEndian_mod (width number : Nat) :
    littleEndian width (number % span width) = littleEndian width number := by
  induction width generalizing number with
  | zero => rfl
  | succ width inductionHypothesis =>
      rw [littleEndian, span, Nat.mod_mul_right_mod, Nat.mod_mul_right_div_self,
        inductionHypothesis, littleEndian]

/-- The low bytes of a number do not depend on the bytes above them. -/
theorem bigEndian_emod (value : Int) (width : Nat) :
    bigEndian width (value % (span (width + 1) : Int)).toNat
      = bigEndian width (value % (span width : Int)).toNat := by
  have narrow := span_pos width
  have wide := span_pos (width + 1)
  have divides : (span width : Int) ∣ span (width + 1) :=
    ⟨256, by rw [span, Int.natCast_mul, Int.mul_comm]; rfl⟩
  have lowPart : (value % (span (width + 1) : Int)).toNat % span width
      = (value % (span width : Int)).toNat := by
    apply Int.natCast_inj.mp
    rw [Int.natCast_emod, Int.toNat_of_nonneg (Int.emod_nonneg _ (by omega)),
      Int.toNat_of_nonneg (Int.emod_nonneg _ (by omega)), Int.emod_emod_of_dvd _ divides]
  rw [bigEndian, bigEndian, ← littleEndian_mod, lowPart]

end Bytes

namespace Dex

open Decoder (Reads)

variable {value : Int} {stored : List UInt8}

/-- Whether a byte only repeats the sign bit of the byte below it. -/
def repeatsSign (top next : UInt8) : Bool :=
  (top == 0x00 && next &&& 0x80 == 0) || (top == 0xff && next &&& 0x80 != 0)

/-- Bytes with the high byte first, without those in front that only repeat the sign. -/
def dropSigns : List UInt8 → List UInt8
  | top :: next :: rest =>
      if repeatsSign top next then dropSigns (next :: rest) else top :: next :: rest
  | stored => stored

/-! A number fits every number of bytes from the fewest on. -/

/-- A number that fits some bytes fits more of them. -/
theorem fitsBytes_mono
    {size wider : Nat}
    (fits : fitsBytes value size)
    (le : size ≤ wider) :
    fitsBytes value wider := by
  have spans : Bytes.span size ≤ Bytes.span wider := by
    rw [Bytes.span_eq_two_pow, Bytes.span_eq_two_pow]
    exact Nat.pow_le_pow_right (by decide) (by omega)
  obtain ⟨lowest, highest⟩ := fits
  constructor <;> omega

/-- A number is stored in no more bytes than it fits. -/
theorem signedWidth_le_of_fitsBytes
    {size : Nat}
    (limit : Nat)
    (positive : 1 ≤ size)
    (fits : fitsBytes value size) :
    signedWidth value limit ≤ size := by
  induction limit using signedWidth.induct value with
  | case1 => exact positive
  | case2 => exact positive
  | case3 limit fitsLess inductionHypothesis =>
      rw [signedWidth, if_pos fitsLess]
      exact inductionHypothesis
  | case4 limit exceeds =>
      rw [signedWidth, if_neg exceeds]
      rcases Nat.lt_or_ge size (limit + 2) with shorter | enough
      · exact absurd (fitsBytes_mono fits (Nat.le_of_lt_succ shorter)) exceeds
      · exact enough

/-- The number that bytes are extended to fits as many bytes. -/
theorem fitsBytes_signExtend (positive : 1 ≤ stored.length) :
    fitsBytes (Image.signExtend stored.length (Bytes.ofLittleEndian stored)) stored.length := by
  have bound := Bytes.ofLittleEndian_lt stored
  obtain ⟨fewer, sameLength⟩ := Nat.exists_eq_add_of_le' positive
  have even : Bytes.span stored.length = 2 * (0x80 * Bytes.span fewer) := by
    rw [sameLength, Bytes.span]
    omega
  rw [Image.signExtend, fitsBytes]
  split <;> omega

/-- The stored bytes are as many as the width of the number. -/
theorem length_minimalSigned (value : Int) (limit : Nat) :
    (minimalSigned value limit).length = signedWidth value limit :=
  Bytes.length_littleEndian _ _

/-- The stored bytes are no more than the limit. -/
theorem length_minimalSigned_le (value : Int) {limit : Nat} (positive : 1 ≤ limit) :
    (minimalSigned value limit).length ≤ limit := by
  rw [length_minimalSigned]
  exact signedWidth_le value positive

/-! Dropping bytes that repeat the sign. -/

/-- The high bit of a byte is clear exactly below 0x80. -/
theorem and_high_bit_iff (byte : UInt8) : byte &&& 0x80 = 0 ↔ byte.toNat < 0x80 := by
  obtain ⟨group, rfl | rfl⟩ := Leb128.exists_group byte
  · refine iff_of_true (Decoder.leb_last_byte group).1 ?_
    rw [Nat.toUInt8, UInt8.toNat_ofNat']
    omega
  · refine iff_of_false (Decoder.leb_other_byte group).1 ?_
    rw [Nat.toUInt8, UInt8.toNat_ofNat']
    omega

/-- A byte repeats the sign exactly if it is zero above a clear bit or full above a set one. -/
theorem repeatsSign_iff (top next : UInt8) :
    repeatsSign top next
      ↔ (top.toNat = 0 ∧ next.toNat < 0x80) ∨ (top.toNat = 0xff ∧ 0x80 ≤ next.toNat) := by
  have lowest : top = 0x00 ↔ top.toNat = 0 := UInt8.toNat_inj.symm
  have highest : top = 0xff ↔ top.toNat = 0xff := UInt8.toNat_inj.symm
  simp only [repeatsSign, Bool.or_eq_true, Bool.and_eq_true, beq_iff_eq, bne_iff_ne, ne_eq,
    and_high_bit_iff, lowest, highest, Nat.not_lt]

/-- Of the bytes of a number the first one is dropped if it only repeats the sign. -/
theorem dropSigns_bigEndian (limit number : Nat) :
    dropSigns (Bytes.bigEndian (limit + 2) number)
      = if repeatsSign (number / Bytes.span (limit + 1) % 256).toUInt8
            (number / Bytes.span limit % 256).toUInt8 then
          dropSigns (Bytes.bigEndian (limit + 1) number)
        else
          Bytes.bigEndian (limit + 2) number := by
  rw [Bytes.bigEndian_succ, Bytes.bigEndian_succ, dropSigns]

/-- The highest byte repeats the sign of the next for the lowest and the highest numbers. -/
theorem repeatsSign_iff_of_lt
    {limit number : Nat}
    (fits : number < Bytes.span (limit + 2)) :
    repeatsSign (number / Bytes.span (limit + 1) % 256).toUInt8
        (number / Bytes.span limit % 256).toUInt8
      ↔ number < 0x80 * Bytes.span limit ∨ 0xff80 * Bytes.span limit ≤ number := by
  have positive := Bytes.span_pos limit
  have upper : number / Bytes.span (limit + 1) = number / Bytes.span limit / 256 := by
    rw [Nat.div_div_eq_div_mul, Nat.mul_comm, Bytes.span]
  have few : number / Bytes.span limit < 0x10000 := by
    rw [Nat.div_lt_iff_lt_mul positive]
    rw [Bytes.span, Bytes.span] at fits
    omega
  rw [repeatsSign_iff, upper, ← Nat.div_lt_iff_lt_mul positive, ← Nat.le_div_iff_mul_le positive]
  generalize number / Bytes.span limit = pair at few ⊢
  simp only [Nat.toUInt8, UInt8.toNat_ofNat']
  omega

/--
The highest byte of a number repeats the sign of the one below it where the number fits one byte
less.
-/
theorem repeatsSign_iff_fitsBytes
    {limit : Nat}
    (fits : fitsBytes value (limit + 2)) :
    repeatsSign
        ((value % (Bytes.span (limit + 2) : Int)).toNat / Bytes.span (limit + 1) % 256).toUInt8
        ((value % (Bytes.span (limit + 2) : Int)).toNat / Bytes.span limit % 256).toUInt8
      ↔ fitsBytes value (limit + 1) := by
  have positive := Bytes.span_pos limit
  have spans : Bytes.span (limit + 2) = 0x10000 * Bytes.span limit := by
    rw [Bytes.span, Bytes.span]
    omega
  have half : Bytes.span (limit + 1) / 2 = 0x80 * Bytes.span limit := by
    rw [Bytes.span]
    omega
  obtain ⟨lowest, highest⟩ := fits
  have stored : value % (Bytes.span (limit + 2) : Int)
      = if value < 0 then value + Bytes.span (limit + 2) else value := by
    split
    · rw [← Int.add_emod_right, Int.emod_eq_of_lt] <;> omega
    · rw [Int.emod_eq_of_lt] <;> omega
  have inSpan : (value % (Bytes.span (limit + 2) : Int)).toNat < Bytes.span (limit + 2) := by
    omega
  rw [repeatsSign_iff_of_lt inSpan, fitsBytes, half, stored]
  omega

/-- What is written for a number is what dropping repeated signs leaves of its bytes. -/
theorem minimalSigned_eq_dropSigns
    {limit : Nat}
    (positive : 1 ≤ limit)
    (fits : fitsBytes value limit) :
    minimalSigned value limit
      = (dropSigns (Bytes.bigEndian limit (value % (Bytes.span limit : Int)).toNat)).reverse := by
  induction limit using signedWidth.induct value with
  | case1 => omega
  | case2 => rfl
  | case3 limit fitsLess inductionHypothesis =>
      have shorter : minimalSigned value (limit + 2) = minimalSigned value (limit + 1) := by
        rw [minimalSigned, minimalSigned, signedWidth, if_pos fitsLess]
      rw [shorter, inductionHypothesis (by omega) fitsLess, dropSigns_bigEndian,
        if_pos ((repeatsSign_iff_fitsBytes fits).mpr fitsLess), Bytes.bigEndian_emod]
  | case4 limit exceeds =>
      rw [minimalSigned, signedWidth, if_neg exceeds, dropSigns_bigEndian,
        if_neg (mt (repeatsSign_iff_fitsBytes fits).mp exceeds), Bytes.bigEndian,
        List.reverse_reverse]

/-! Nothing shorter is extended to the number. -/

/-- The stored bytes of a number are extended to it. -/
theorem signExtend_minimalSigned
    {limit : Nat}
    (positive : 1 ≤ limit)
    (fits : fitsBytes value limit) :
    Image.signExtend (minimalSigned value limit).length
        (Bytes.ofLittleEndian (minimalSigned value limit)) = value := by
  have spanPositive := Bytes.span_pos (signedWidth value limit)
  have inSpan := Int.emod_lt_of_pos value (Int.ofNat_lt.mpr spanPositive)
  have extended := signExtend_emod (one_le_signedWidth value limit)
    (fitsBytes_signedWidth positive fits)
  rw [minimalSigned, Bytes.length_littleEndian, Bytes.ofLittleEndian_littleEndian,
    Nat.mod_eq_of_lt (by omega), extended]

/--
The bytes that are written for a number of a width are read as the number, and are the fewest that
are extended to it.  A stored number has at least one byte, as its header counts the others.
-/
structure StoresShortest (width : Nat) (value : Int) : Prop where
  dropsSigns :
    minimalSigned value width
      = (dropSigns (Bytes.bigEndian width (value % (Bytes.span width : Int)).toNat)).reverse
  few : (minimalSigned value width).length ≤ width
  extended :
    Image.signExtend (minimalSigned value width).length
      (Bytes.ofLittleEndian (minimalSigned value width)) = value
  reads :
    ∀ bytes offset,
      Reads bytes (Image.signedPayload (minimalSigned value width).length width offset)
        (minimalSigned value width) value
  shortest :
    ∀ stored,
      1 ≤ stored.length →
        Image.signExtend stored.length (Bytes.ofLittleEndian stored) = value →
          (minimalSigned value width).length ≤ stored.length

/-- A number that fits a width is stored in the fewest bytes that are extended to it. -/
theorem storesShortest
    {width : Nat}
    (positive : 1 ≤ width)
    (fits : fitsBytes value width) :
    StoresShortest width value where
  dropsSigns := minimalSigned_eq_dropSigns positive fits
  few := length_minimalSigned_le value positive
  extended := signExtend_minimalSigned positive fits
  reads := by
    intro bytes offset
    have reads := @Image.reads_stored bytes _ width offset (length_minimalSigned_le value positive)
    rwa [signExtend_minimalSigned positive fits] at reads
  shortest := by
    intro stored positive extended
    rw [length_minimalSigned, ← extended]
    exact signedWidth_le_of_fitsBytes width positive (fitsBytes_signExtend positive)

example : minimalSigned (-0x81) 4 = [0x7f, 0xff] := by
  decide

/--
Numbers of variable length are read back from the bytes that are written for them, wherever these
stand, and so are stored numbers with sign; no number is read from fewer bytes.  Five bytes that all
say that another group follows are refused.  What is read is what shifts make of the bits.
-/
theorem readsShortestIntegers :
    (∀ number : UInt32,
      Leb128.ReadsShortest Decoder.uleb128 (Leb128.IsUnsigned · number.toNat)
          (Leb128.encode number.toNat) number.toNat
        ∧ Leb128.ReadsShortest Decoder.optionalIndex (Leb128.IsUnsigned · number.toNat)
          (Leb128.encode number.toNat) (Leb128.storedIndex? number.toNat))
      ∧ (∀ number : Int32,
        Leb128.ReadsShortest Decoder.sleb128 (Leb128.IsSigned · number.toInt)
          (Leb128.encodeSigned number.toInt) number)
      ∧ Leb128.RefusesLongRuns Decoder.uleb128
      ∧ Leb128.RefusesLongRuns Decoder.sleb128
      ∧ Leb128.RefusesLongRuns Decoder.optionalIndex
      ∧ Leb128.JoinsGroups
      ∧ (∀ value : Int64, StoresShortest 8 value.toInt)
      ∧ (∀ value : Int32, StoresShortest 4 value.toInt)
      ∧ Image.ShiftsPayloads := by
  refine ⟨fun number => ⟨Leb128.readsShortest_uleb128 number,
    Leb128.readsShortest_optionalIndex number⟩, Leb128.readsShortest_sleb128, ?_, ?_, ?_,
    Leb128.joinsGroups, ?_, ?_, Image.shiftsPayloads⟩
  · rw [Leb128.uleb128_eq]
    exact Leb128.refusesLongRuns_grouped _
  · rw [Leb128.sleb128_eq]
    exact Leb128.refusesLongRuns_grouped _
  · rw [Leb128.optionalIndex_eq]
    exact Leb128.refusesLongRuns_grouped _
  · exact fun value => storesShortest (by decide) ⟨Int64.le_toInt value, Int64.toInt_lt value⟩
  · exact fun value => storesShortest (by decide) ⟨Int32.le_toInt value, Int32.toInt_lt value⟩

end Dex

end DexSurface
