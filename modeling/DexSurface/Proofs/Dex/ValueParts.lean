import DexSurface.Dex.DraftEncoding
import DexSurface.Dex.Value
import DexSurface.Proofs.Dex.StandingBytes

namespace DexSurface

namespace Dex

open Decoder (Reads reads_pure reads_u8 reads_number)

/-!
# Parts of values are read

A number or an index stands behind a header that says how many bytes it takes, which may be fewer
than its type has.  Nested values stand behind the header of the value around them, so the bytes
that are left bound how deep they go.
-/

/-- A number that fits a number of bytes is extended from its low bytes. -/
theorem signExtend_emod
    {value : Int}
    {width : Nat}
    (positive : 1 ≤ width)
    (fits : fitsBytes value width) :
    Image.signExtend width (value % (Bytes.span width : Int)).toNat = value := by
  obtain ⟨fewer, rfl⟩ := Nat.exists_eq_succ_of_ne_zero (by omega : width ≠ 0)
  have half : Bytes.span (fewer + 1) = 2 * (128 * Bytes.span fewer) := by
    rw [Bytes.span]
    omega
  have spanPositive := Bytes.span_pos fewer
  obtain ⟨lowest, highest⟩ := fits
  rw [Nat.succ_eq_add_one, half, Nat.mul_div_cancel_left _ (by decide)] at lowest highest
  rw [Image.signExtend, Nat.succ_eq_add_one, half, Nat.mul_div_cancel_left _ (by decide)]
  generalize 128 * Bytes.span fewer = middle at *
  by_cases negative : value < 0
  · have stored : value % ((2 * middle : Nat) : Int) = value + (2 * middle : Nat) := by
      rw [← Int.add_emod_right, Int.emod_eq_of_lt] <;> omega
    rw [stored, if_neg (by omega)]
    omega
  · rw [Int.emod_eq_of_lt (by omega) (by omega), if_pos (by omega)]
    omega

section Reading

variable {image : Image} {item : List UInt8}

/-! Values behind a header that counts their bytes. -/

/-- A header has its type code in the low bits and its count in the high ones. -/
theorem sized_header (code : Fin 32) (count : Fin 8) :
    (0x20 * count.val + code.val).toUInt8 &&& 0x1f = code.val.toUInt8
      ∧ ((0x20 * count.val + code.val).toUInt8 >>> 5).toNat = count := by
  revert code count
  decide

/-- What is read behind the header of a value at an offset. -/
def valueBehind (image : Image) (limit offset : Nat) (header : UInt8) : Decoder EncodedValue :=
  if header &&& 0x1f = Image.arrayCode then do
    return .array (← Image.valuesOf (image.valueWithin limit))
  else if header &&& 0x1f = Image.annotationCode then do
    let (annotationType, elements) ← image.annotationOf (image.valueWithin limit)
    return .nested annotationType elements
  else
    image.scalar (header &&& 0x1f) (header >>> 5).toNat offset

/-- A value is read behind its header. -/
theorem reads_behind
    {header : UInt8}
    {limit : Nat}
    {value : EncodedValue}
    (enough : (header :: item).length ≤ limit)
    (reads : ∀ fewer offset, limit = fewer + 1 →
      Reads image.bytes (valueBehind image fewer offset header) item value) :
    Reads image.bytes (image.valueWithin limit) (header :: item) value := by
  rw [List.length_cons] at enough
  obtain ⟨fewer, rfl⟩ := Nat.exists_eq_succ_of_ne_zero (by omega : limit ≠ 0)
  intro position stands
  exact ((reads_u8 header).bind (reads fewer position rfl)) position stands

/-- A value that holds no others is read behind its header. -/
theorem reads_scalar
    {header : UInt8}
    {argument limit : Nat}
    {value : EncodedValue}
    (notArray : header &&& 0x1f ≠ Image.arrayCode)
    (notNested : header &&& 0x1f ≠ Image.annotationCode)
    (isArgument : (header >>> 5).toNat = argument)
    (enough : (header :: item).length ≤ limit)
    (reads : ∀ offset,
      Reads image.bytes (image.scalar (header &&& 0x1f) argument offset) item value) :
    Reads image.bytes (image.valueWithin limit) (header :: item) value := by
  refine reads_behind enough fun fewer offset _ => ?_
  rw [valueBehind, if_neg notArray, if_neg notNested, isArgument]
  exact reads offset

/-- A value with so many bytes is read behind the header that counts them. -/
theorem reads_sized
    {code count limit : Nat}
    {value : EncodedValue}
    (isCode : code < 32)
    (notArray : code.toUInt8 ≠ Image.arrayCode)
    (notNested : code.toUInt8 ≠ Image.annotationCode)
    (few : count < 8)
    (sameLength : item.length = count + 1)
    (enough : (sized code item).length ≤ limit)
    (reads : ∀ offset,
      Reads image.bytes (image.scalar code.toUInt8 count offset) item value) :
    Reads image.bytes (image.valueWithin limit) (sized code item) value := by
  obtain ⟨sameCode, sameCount⟩ := sized_header ⟨code, isCode⟩ ⟨count, few⟩
  dsimp only at sameCode sameCount
  rw [sized, sameLength, Nat.add_sub_cancel] at enough ⊢
  rw [← sameCode] at notArray notNested reads
  exact reads_scalar notArray notNested sameCount enough reads

/-- An unsigned number is read from its low bytes. -/
theorem reads_payload
    {size width value : Nat}
    (offset : Nat)
    (few : size ≤ width)
    (fits : value < Bytes.span size) :
    Reads image.bytes (Image.payload size width offset) (Bytes.littleEndian size value) value := by
  rw [Image.payload, if_pos few]
  exact reads_number fits

/-- A number with sign is read from as many low bytes as it fits. -/
theorem reads_signedPayload
    {value : Int}
    {size width : Nat}
    (offset : Nat)
    (positive : 1 ≤ size)
    (few : size ≤ width)
    (fits : fitsBytes value size) :
    Reads image.bytes (Image.signedPayload size width offset)
      (Bytes.littleEndian size (value % (Bytes.span size : Int)).toNat) value := by
  have spanPositive := Bytes.span_pos size
  have inSpan : (value % (Bytes.span size : Int)).toNat < Bytes.span size := by
    have upper := Int.emod_lt_of_pos value (Int.ofNat_lt.mpr spanPositive)
    omega
  have reads := (@reads_payload image _ _ _ offset few inSpan).map (Image.signExtend size)
  rw [signExtend_emod positive fits] at reads
  exact reads

/-- Bits of which the low bytes are zero are read from the high bytes. -/
theorem reads_floatingPayload
    {size width bits : Nat}
    (offset : Nat)
    (few : size ≤ width)
    (fits : bits < Bytes.span width)
    (filled : Bytes.span (width - size) ∣ bits) :
    Reads image.bytes (Image.floatingPayload size width offset)
      (Bytes.littleEndian size (bits / Bytes.span (width - size))) bits := by
  have inSpan : bits / Bytes.span (width - size) < Bytes.span size := by
    rw [Nat.div_lt_iff_lt_mul (Bytes.span_pos _), ← Bytes.span_add, Nat.add_sub_cancel' few]
    exact fits
  have reads := (@reads_payload image _ _ _ offset few inSpan).bind_pure
    (· * Bytes.span (width - size))
  rw [Nat.div_mul_cancel filled] at reads
  exact reads

section Sized

variable
  {code size width limit : Nat}
  (isSized :
    code < 32
      ∧ code.toUInt8 ≠ Image.arrayCode
      ∧ code.toUInt8 ≠ Image.annotationCode
      ∧ width ≤ 8)
  (positive : 1 ≤ size)
  (few : size ≤ width)

include isSized positive few

/-- A number in at least one and at most eight bytes is read as what its type makes of it. -/
theorem reads_littleEndian
    {number : Nat}
    {value : EncodedValue}
    (enough : (sized code (Bytes.littleEndian size number)).length ≤ limit)
    (reads : ∀ count offset, count + 1 = size →
      Reads image.bytes (image.scalar code.toUInt8 count offset)
        (Bytes.littleEndian size number) value) :
    Reads image.bytes (image.valueWithin limit) (sized code (Bytes.littleEndian size number))
      value := by
  obtain ⟨isCode, notArray, notNested, narrow⟩ := isSized
  obtain ⟨count, rfl⟩ := Nat.exists_eq_add_of_le' positive
  exact reads_sized isCode notArray notNested (by omega : count < 8)
    (Bytes.length_littleEndian _ _) enough fun offset => reads count offset rfl

/-- A value of a signed number is read from bytes that the number fits. -/
theorem reads_signed
    {number : Int}
    {value : EncodedValue}
    (change : Int → EncodedValue)
    (sameScalar : ∀ count offset,
      image.scalar code.toUInt8 count offset = do
        return change (← Image.signedPayload (count + 1) width offset))
    (fits : fitsBytes number size)
    (isValue : change number = value)
    (enough :
      (sized code (Bytes.littleEndian size (number % (Bytes.span size : Int)).toNat)).length
        ≤ limit) :
    Reads image.bytes (image.valueWithin limit)
      (sized code (Bytes.littleEndian size (number % (Bytes.span size : Int)).toNat)) value := by
  refine reads_littleEndian isSized positive few enough ?_
  rintro count offset rfl
  rw [sameScalar, ← isValue]
  exact (reads_signedPayload offset positive few fits).bind_pure change

/-- A value of an unsigned number is read from bytes that the number fits. -/
theorem reads_unsigned
    {number : Nat}
    {value : EncodedValue}
    (change : Nat → EncodedValue)
    (sameScalar : ∀ count offset,
      image.scalar code.toUInt8 count offset = do
        return change (← Image.payload (count + 1) width offset))
    (fits : number < Bytes.span size)
    (isValue : change number = value)
    (enough : (sized code (Bytes.littleEndian size number)).length ≤ limit) :
    Reads image.bytes (image.valueWithin limit) (sized code (Bytes.littleEndian size number))
      value := by
  refine reads_littleEndian isSized positive few enough ?_
  rintro count offset rfl
  rw [sameScalar, ← isValue]
  exact (reads_payload offset few fits).bind_pure change

/-- A value of floating bits is read from its high bytes. -/
theorem reads_floating
    {bits : Nat}
    {value : EncodedValue}
    (change : Nat → EncodedValue)
    (sameScalar : ∀ count offset,
      image.scalar code.toUInt8 count offset = do
        return change (← Image.floatingPayload (count + 1) width offset))
    (fits : bits < Bytes.span width)
    (filled : Bytes.span (width - size) ∣ bits)
    (isValue : change bits = value)
    (enough :
      (sized code (Bytes.littleEndian size (bits / Bytes.span (width - size)))).length ≤ limit) :
    Reads image.bytes (image.valueWithin limit)
      (sized code (Bytes.littleEndian size (bits / Bytes.span (width - size)))) value := by
  refine reads_littleEndian isSized positive few enough ?_
  rintro count offset rfl
  rw [sameScalar, ← isValue]
  exact (reads_floatingPayload offset few fits filled).bind_pure change

/-- An index is read as what the image shows at it. -/
theorem reads_entry
    {index : Nat}
    {read : Nat → Except Error α}
    {result : α}
    (change : α → EncodedValue)
    (sameScalar : ∀ count offset,
      image.scalar code.toUInt8 count offset = do
        return change (← read (← Image.payload (count + 1) width offset)))
    (fits : index < Bytes.span size)
    (isRead : read index = .ok result)
    (enough : (sized code (Bytes.littleEndian size index)).length ≤ limit) :
    Reads image.bytes (image.valueWithin limit) (sized code (Bytes.littleEndian size index))
      (change result) := by
  refine reads_littleEndian isSized positive few enough ?_
  rintro count offset rfl
  rw [sameScalar, ← List.append_nil (Bytes.littleEndian (count + 1) index)]
  refine (reads_payload offset few fits).bind ?_
  exact Reads.lift_bind isRead (reads_pure _)

end Sized

/-! Nested values. -/

/-- An element of an annotation: its name, then its value. -/
def elementOf (image : Image) (value : Decoder EncodedValue) :
    Decoder (String × EncodedValue) := do
  let name ← image.string (← Decoder.uleb128)
  return (name, ← value)

/-- An annotation is read from its type, its count and its elements. -/
theorem reads_annotationOf
    {annotationType : TypeDescriptor}
    {typeIndex count : Nat}
    {typeItem countItem : List UInt8}
    {value : Decoder EncodedValue}
    {elements : List (String × EncodedValue)}
    (readsType : Reads image.bytes Decoder.uleb128 typeItem typeIndex)
    (isEntry : image.typeName typeIndex = .ok annotationType)
    (readsCount : Reads image.bytes Decoder.uleb128 countItem count)
    (reads : Reads image.bytes (times count (elementOf image value)) item elements) :
    Reads image.bytes (image.annotationOf value) (typeItem ++ (countItem ++ item))
      (annotationType, elements) := by
  refine readsType.bind (Reads.lift_bind isEntry ?_)
  exact readsCount.bind (reads.bind_pure _)

end Reading

end Dex

end DexSurface
