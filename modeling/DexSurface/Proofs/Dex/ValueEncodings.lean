import DexSurface.Proofs.Dex.ValueParts
import DexSurface.Proofs.Dex.VariableLength

namespace DexSurface

namespace Dex

open Decoder (Reads reads_pure reads_u8 lift_bind_eq bind_eq_error times_eq_error reads_remaining)
open Leb128 (IsUnsigned)

/-!
# Encodings of values

A value has many encodings.  A number or an index takes as many bytes as its header says, at least
those that it needs and at most those of its type; counts and indices of nested values have many
spellings.  Every encoding is read as its value wherever it stands.  A value in too many bytes, or
with a type code that is not supported, is refused however deep it is nested.
-/

/-- The header of a value with a type code and an argument. -/
def valueHeader (code argument : Nat) : UInt8 :=
  (0x20 * argument + code).toUInt8

/-! What numbers and indices are stored in. -/

/-- Bytes that hold a number without sign of a width, from which zeros in front are left out. -/
inductive HoldsUnsigned (width : Nat) : List UInt8 → Nat → Prop where
  | inBytes
      {size number : Nat}
      (positive : 1 ≤ size)
      (few : size ≤ width)
      (fits : number < Bytes.span size) :
      HoldsUnsigned width (Bytes.littleEndian size number) number

/-- Bytes that hold a number with sign of a width in two's complement. -/
inductive HoldsSigned (width : Nat) : List UInt8 → Int → Prop where
  | inBytes
      {size : Nat}
      {number : Int}
      (positive : 1 ≤ size)
      (few : size ≤ width)
      (fits : fitsBytes number size) :
      HoldsSigned width (Bytes.littleEndian size (number % (Bytes.span size : Int)).toNat) number

/-- Bytes that hold the high bytes of bits of a width, of which the low bytes are zero. -/
inductive HoldsHighBytes (width : Nat) : List UInt8 → Nat → Prop where
  | inBytes
      {size bits : Nat}
      (positive : 1 ≤ size)
      (few : size ≤ width)
      (filled : Bytes.span (width - size) ∣ bits) :
      HoldsHighBytes width (Bytes.littleEndian size (bits / Bytes.span (width - size))) bits

/-! Values and what encodes them. -/

mutual

/-- Bytes that encode a value, whose entries are those of the tables of an image. -/
inductive Encodes (image : Image) : List UInt8 → EncodedValue → Prop where
  | byte
      {stored : List UInt8}
      {value : Int8}
      (holds : HoldsSigned 1 stored value.toInt) :
      Encodes image (sized 0x00 stored) (.byte value)
  | short
      {stored : List UInt8}
      {value : Int16}
      (holds : HoldsSigned 2 stored value.toInt) :
      Encodes image (sized 0x02 stored) (.short value)
  | char
      {stored : List UInt8}
      {unit : UInt16}
      (holds : HoldsUnsigned 2 stored unit.toNat) :
      Encodes image (sized 0x03 stored) (.char unit)
  | int
      {stored : List UInt8}
      {value : Int32}
      (holds : HoldsSigned 4 stored value.toInt) :
      Encodes image (sized 0x04 stored) (.int value)
  | long
      {stored : List UInt8}
      {value : Int64}
      (holds : HoldsSigned 8 stored value.toInt) :
      Encodes image (sized 0x06 stored) (.long value)
  | float
      {stored : List UInt8}
      {bits : UInt32}
      (holds : HoldsHighBytes 4 stored bits.toNat) :
      Encodes image (sized 0x10 stored) (.float bits)
  | double
      {stored : List UInt8}
      {bits : UInt64}
      (holds : HoldsHighBytes 8 stored bits.toNat) :
      Encodes image (sized 0x11 stored) (.double bits)
  | string
      {stored : List UInt8}
      {index : Nat}
      {text : String}
      (holds : HoldsUnsigned 4 stored index)
      (isEntry : image.string index = .ok text) :
      Encodes image (sized 0x17 stored) (.string text)
  | type
      {stored : List UInt8}
      {index : Nat}
      {descriptor : TypeDescriptor}
      (holds : HoldsUnsigned 4 stored index)
      (isEntry : image.typeName index = .ok descriptor) :
      Encodes image (sized 0x18 stored) (.type descriptor)
  | field
      {stored : List UInt8}
      {index : Nat}
      {field : FieldRef}
      (holds : HoldsUnsigned 4 stored index)
      (isEntry : image.fieldRef index = .ok field) :
      Encodes image (sized 0x19 stored) (.field field)
  | method
      {stored : List UInt8}
      {index : Nat}
      {method : MethodRef}
      (holds : HoldsUnsigned 4 stored index)
      (isEntry : image.methodRef index = .ok method) :
      Encodes image (sized 0x1a stored) (.method method)
  | enum
      {stored : List UInt8}
      {index : Nat}
      {constant : FieldRef}
      (holds : HoldsUnsigned 4 stored index)
      (isEntry : image.fieldRef index = .ok constant) :
      Encodes image (sized 0x1b stored) (.enum constant)
  | array
      {countItem items : List UInt8}
      {values : List EncodedValue}
      (counted : IsUnsigned countItem values.length)
      (encodes : EncodesAll image items values) :
      Encodes image (0x1c :: (countItem ++ items)) (.array values)
  | nested
      {typeItem countItem items : List UInt8}
      {typeIndex : Nat}
      {annotationType : TypeDescriptor}
      {elements : List (String × EncodedValue)}
      (isType : IsUnsigned typeItem typeIndex)
      (isEntry : image.typeName typeIndex = .ok annotationType)
      (counted : IsUnsigned countItem elements.length)
      (encodes : EncodesElements image items elements) :
      Encodes image (0x1d :: (typeItem ++ (countItem ++ items))) (.nested annotationType elements)
  | null : Encodes image [0x1e] .null
  | boolean (value : Bool) : Encodes image [if value then 0x3f else 0x1f] (.boolean value)

/-- Bytes that encode values one after another. -/
inductive EncodesAll (image : Image) : List UInt8 → List EncodedValue → Prop where
  | nil : EncodesAll image [] []
  | cons
      {item items : List UInt8}
      {value : EncodedValue}
      {values : List EncodedValue}
      (first : Encodes image item value)
      (rest : EncodesAll image items values) :
      EncodesAll image (item ++ items) (value :: values)

/-- Bytes that encode elements of an annotation one after another, each name by its index. -/
inductive EncodesElements (image : Image) :
    List UInt8 → List (String × EncodedValue) → Prop where
  | nil : EncodesElements image [] []
  | cons
      {nameItem item items : List UInt8}
      {nameIndex : Nat}
      {name : String}
      {value : EncodedValue}
      {elements : List (String × EncodedValue)}
      (isName : IsUnsigned nameItem nameIndex)
      (isEntry : image.string nameIndex = .ok name)
      (first : Encodes image item value)
      (rest : EncodesElements image items elements) :
      EncodesElements image ((nameItem ++ item) ++ items) ((name, value) :: elements)

end

/-- The number of bytes of the numbers and indices with a type code. -/
def storedWidth? : (code : Nat) → Option Nat
  | 0x00 => some 1
  | 0x02 | 0x03 => some 2
  | 0x04 | 0x10 | 0x17 | 0x18 | 0x19 | 0x1a | 0x1b => some 4
  | 0x06 | 0x11 => some 8
  | _ => none

/-- The type codes that no value has. -/
def undefinedCodes : List Nat :=
  [0x01, 0x05, 0x07, 0x08, 0x09, 0x0a, 0x0b, 0x0c, 0x0d, 0x0e, 0x0f, 0x12, 0x13, 0x14]

/-- Bytes at an offset that start a refused value, behind encoded values if it is nested. -/
inductive Breaks (image : Image) : (offset : Nat) → List UInt8 → Error → Prop where
  | tooWide
      {code argument width offset : Nat}
      (isWidth : storedWidth? code = some width)
      (isArgument : argument < 8)
      (wide : width < argument + 1) :
      Breaks image offset [valueHeader code argument] (.invalidValueSize (argument + 1) offset)
  | methodType
      {argument offset : Nat}
      (isArgument : argument < 8) :
      Breaks image offset [valueHeader 0x15 argument] .methodTypeValue
  | methodHandle
      {argument offset : Nat}
      (isArgument : argument < 8) :
      Breaks image offset [valueHeader 0x16 argument] .methodHandleValue
  | undefinedCode
      {code argument offset : Nat}
      (isUndefined : code ∈ undefinedCodes)
      (isArgument : argument < 8) :
      Breaks image offset [valueHeader code argument] (.invalidValueType code.toUInt8 offset)
  | array
      {countItem items broken : List UInt8}
      {number offset : Nat}
      {values : List EncodedValue}
      {error : Error}
      (counted : IsUnsigned countItem number)
      (before : EncodesAll image items values)
      (follows : values.length < number)
      (breaks : Breaks image (offset + 1 + countItem.length + items.length) broken error) :
      Breaks image offset (0x1c :: (countItem ++ (items ++ broken))) error
  | nested
      {typeItem countItem items nameItem broken : List UInt8}
      {typeIndex number nameIndex offset : Nat}
      {annotationType : TypeDescriptor}
      {name : String}
      {elements : List (String × EncodedValue)}
      {error : Error}
      (isType : IsUnsigned typeItem typeIndex)
      (isTypeEntry : image.typeName typeIndex = .ok annotationType)
      (counted : IsUnsigned countItem number)
      (before : EncodesElements image items elements)
      (follows : elements.length < number)
      (isName : IsUnsigned nameItem nameIndex)
      (isNameEntry : image.string nameIndex = .ok name)
      (breaks :
        Breaks image
          (offset + 1 + typeItem.length + countItem.length + items.length + nameItem.length)
          broken error) :
      Breaks image offset (0x1d :: (typeItem ++ (countItem ++ (items ++ (nameItem ++ broken)))))
        error

section Reading

variable {image : Image} {item items : List UInt8} {limit : Nat}

/-! An encoding takes at least one byte for each value. -/

/-- An encoded value has at least one byte. -/
theorem Encodes.length_pos {value : EncodedValue} (encodes : Encodes image item value) :
    1 ≤ item.length := by
  cases encodes <;> simp [sized]

/-- Encoded values are at most as many as their bytes. -/
theorem EncodesAll.length_le
    {values : List EncodedValue}
    (encodes : EncodesAll image items values) :
    values.length ≤ items.length := by
  induction values generalizing items with
  | nil => exact Nat.zero_le _
  | cons value values inductionHypothesis =>
      cases encodes with
      | cons first rest =>
          have positive := first.length_pos
          have few := inductionHypothesis rest
          rw [List.length_cons, List.length_append]
          omega

/-- Encoded elements are at most as many as their bytes. -/
theorem EncodesElements.length_le
    {elements : List (String × EncodedValue)}
    (encodes : EncodesElements image items elements) :
    elements.length ≤ items.length := by
  induction elements generalizing items with
  | nil => exact Nat.zero_le _
  | cons element elements inductionHypothesis =>
      cases encodes with
      | cons isName isEntry first rest =>
          have positive := first.length_pos
          have few := inductionHypothesis rest
          rw [List.length_cons, List.length_append, List.length_append]
          omega

/-! Encoded values are read. -/

/-- An array is read from its header, its count and its values. -/
theorem reads_array
    {countItem : List UInt8}
    {values : List EncodedValue}
    (counted : IsUnsigned countItem values.length)
    (reads : ∀ fewer, items.length ≤ fewer →
      Reads image.bytes (times values.length (image.valueWithin fewer)) items values)
    (enough : (0x1c :: (countItem ++ items)).length ≤ limit) :
    Reads image.bytes (image.valueWithin limit) (0x1c :: (countItem ++ items)) (.array values) := by
  refine reads_behind enough fun fewer offset isLimit => ?_
  rw [List.length_cons, List.length_append] at enough
  exact (counted.reads.bind (reads fewer (by omega))).bind_pure _

/-- A nested annotation is read from its header, its type, its count and its elements. -/
theorem reads_nested
    {typeItem countItem : List UInt8}
    {typeIndex : Nat}
    {annotationType : TypeDescriptor}
    {elements : List (String × EncodedValue)}
    (isType : IsUnsigned typeItem typeIndex)
    (isEntry : image.typeName typeIndex = .ok annotationType)
    (counted : IsUnsigned countItem elements.length)
    (reads : ∀ fewer, items.length ≤ fewer →
      Reads image.bytes (times elements.length (elementOf image (image.valueWithin fewer))) items
        elements)
    (enough : (0x1d :: (typeItem ++ (countItem ++ items))).length ≤ limit) :
    Reads image.bytes (image.valueWithin limit) (0x1d :: (typeItem ++ (countItem ++ items)))
      (.nested annotationType elements) := by
  refine reads_behind enough fun fewer offset isLimit => ?_
  rw [List.length_cons, List.length_append, List.length_append] at enough
  exact (reads_annotationOf isType.reads isEntry counted.reads (reads fewer (by omega))).bind_pure _

/-- An element is read from the index of its name and its value. -/
theorem reads_element
    {nameItem : List UInt8}
    {nameIndex : Nat}
    {name : String}
    {decoder : Decoder EncodedValue}
    {value : EncodedValue}
    (isName : IsUnsigned nameItem nameIndex)
    (isEntry : image.string nameIndex = .ok name)
    (reads : Reads image.bytes decoder item value) :
    Reads image.bytes (elementOf image decoder) (nameItem ++ item) (name, value) :=
  isName.reads.bind (Reads.lift_bind isEntry (reads.bind_pure _))

mutual

/-- An encoded value is read as the value. -/
theorem Encodes.reads {item : List UInt8} {value : EncodedValue} :
    Encodes image item value → ∀ limit, item.length ≤ limit →
      Reads image.bytes (image.valueWithin limit) item value
  | .byte (.inBytes positive few fits), limit, enough =>
      reads_signed (by decide) positive few (fun number => .byte (.ofInt number)) (fun _ _ => rfl)
        fits (congrArg EncodedValue.byte (Int8.ofInt_toInt _)) enough
  | .short (.inBytes positive few fits), limit, enough =>
      reads_signed (by decide) positive few (fun number => .short (.ofInt number)) (fun _ _ => rfl)
        fits (congrArg EncodedValue.short (Int16.ofInt_toInt _)) enough
  | .char (.inBytes positive few fits), limit, enough =>
      reads_unsigned (by decide) positive few (fun number => .char number.toUInt16)
        (fun _ _ => rfl) fits (congrArg EncodedValue.char UInt16.ofNat_toNat) enough
  | .int (.inBytes positive few fits), limit, enough =>
      reads_signed (by decide) positive few (fun number => .int (.ofInt number)) (fun _ _ => rfl)
        fits (congrArg EncodedValue.int (Int32.ofInt_toInt _)) enough
  | .long (.inBytes positive few fits), limit, enough =>
      reads_signed (by decide) positive few (fun number => .long (.ofInt number)) (fun _ _ => rfl)
        fits (congrArg EncodedValue.long (Int64.ofInt_toInt _)) enough
  | .float (.inBytes positive few filled), limit, enough =>
      reads_floating (by decide) positive few (fun number => .float number.toUInt32)
        (fun _ _ => rfl) (UInt32.toNat_lt _) filled
        (congrArg EncodedValue.float UInt32.ofNat_toNat) enough
  | .double (.inBytes positive few filled), limit, enough =>
      reads_floating (by decide) positive few (fun number => .double number.toUInt64)
        (fun _ _ => rfl) (UInt64.toNat_lt _) filled
        (congrArg EncodedValue.double UInt64.ofNat_toNat) enough
  | .string (.inBytes positive few fits) isEntry, limit, enough =>
      reads_entry (by decide) positive few .string (fun _ _ => rfl) fits isEntry enough
  | .type (.inBytes positive few fits) isEntry, limit, enough =>
      reads_entry (by decide) positive few .type (fun _ _ => rfl) fits isEntry enough
  | .field (.inBytes positive few fits) isEntry, limit, enough =>
      reads_entry (by decide) positive few .field (fun _ _ => rfl) fits isEntry enough
  | .method (.inBytes positive few fits) isEntry, limit, enough =>
      reads_entry (by decide) positive few .method (fun _ _ => rfl) fits isEntry enough
  | .enum (.inBytes positive few fits) isEntry, limit, enough =>
      reads_entry (by decide) positive few .enum (fun _ _ => rfl) fits isEntry enough
  | .array counted encodes, limit, enough => reads_array counted encodes.reads enough
  | .nested isType isEntry counted encodes, limit, enough =>
      reads_nested isType isEntry counted encodes.reads enough
  | .null, limit, enough =>
      reads_scalar (by decide) (by decide) rfl enough fun _ => reads_pure _
  | .boolean true, limit, enough =>
      reads_scalar (by decide) (by decide) rfl enough fun _ => reads_pure _
  | .boolean false, limit, enough =>
      reads_scalar (by decide) (by decide) rfl enough fun _ => reads_pure _

/-- Encoded values are read as the values in order. -/
theorem EncodesAll.reads {items : List UInt8} {values : List EncodedValue} :
    EncodesAll image items values → ∀ limit, items.length ≤ limit →
      Reads image.bytes (times values.length (image.valueWithin limit)) items values
  | .nil, _, _ => reads_pure []
  | .cons first rest, limit, enough => by
      rw [List.length_append] at enough
      rw [List.length_cons, times_succ]
      have readsFirst := first.reads limit (by omega)
      exact readsFirst.bind ((rest.reads limit (by omega)).bind_pure _)

/-- Encoded elements are read as the elements in order. -/
theorem EncodesElements.reads {items : List UInt8} {elements : List (String × EncodedValue)} :
    EncodesElements image items elements → ∀ limit, items.length ≤ limit →
      Reads image.bytes (times elements.length (elementOf image (image.valueWithin limit))) items
        elements
  | .nil, _, _ => reads_pure []
  | .cons isName isEntry first rest, limit, enough => by
      rw [List.length_append, List.length_append] at enough
      rw [List.length_cons, times_succ]
      have readsFirst := reads_element isName isEntry (first.reads limit (by omega))
      exact readsFirst.bind ((rest.reads limit (by omega)).bind_pure _)

end

end Reading

section Refusing

variable {image : Image} {item : List UInt8} {offset limit : Nat} {error : Error}

/-! Values are refused for their headers. -/

/-- A value fails as what stands behind its header does. -/
theorem valueWithin_eq_error
    {header : UInt8}
    (enough : (header :: item).length ≤ limit)
    (stands : Stands image.bytes offset (header :: item))
    (fails : ∀ fewer, limit = fewer + 1 →
      valueBehind image fewer offset header image.bytes (offset + 1) = .error error) :
    image.valueWithin limit image.bytes offset = .error error := by
  rw [List.length_cons] at enough
  obtain ⟨fewer, rfl⟩ := Nat.exists_eq_succ_of_ne_zero (by omega : limit ≠ 0)
  exact ((reads_u8 header).bind_eq stands.left).trans (fails fewer rfl)

/-- A value that holds no others fails as its scalar does. -/
theorem leaf_eq_error
    {code argument : Nat}
    (isSized :
      code < 32 ∧ code.toUInt8 ≠ Image.arrayCode ∧ code.toUInt8 ≠ Image.annotationCode)
    (isArgument : argument < 8)
    (enough : [valueHeader code argument].length ≤ limit)
    (stands : Stands image.bytes offset [valueHeader code argument])
    (fails : image.scalar code.toUInt8 argument offset image.bytes (offset + 1) = .error error) :
    image.valueWithin limit image.bytes offset = .error error := by
  obtain ⟨isCode, notArray, notNested⟩ := isSized
  obtain ⟨sameCode, sameArgument⟩ := sized_header ⟨code, isCode⟩ ⟨argument, isArgument⟩
  refine valueWithin_eq_error enough stands fun fewer _ => ?_
  rw [valueBehind, valueHeader, sameCode, sameArgument, if_neg notArray, if_neg notNested]
  exact fails

/-- A number in more bytes than its width is refused. -/
theorem payload_eq_throw {size width : Nat} (wide : width < size) :
    Image.payload size width offset = throw (.invalidValueSize size offset) := by
  rw [Image.payload, if_neg (Nat.not_le.mpr wide)]

/-- A type code with a width is neither that of an array nor that of an annotation. -/
theorem isSized_of_storedWidth?
    {code width : Nat}
    (isWidth : storedWidth? code = some width) :
    code < 32 ∧ code.toUInt8 ≠ Image.arrayCode ∧ code.toUInt8 ≠ Image.annotationCode := by
  simp only [storedWidth?] at isWidth
  split at isWidth
  all_goals first
    | decide
    | cases isWidth

/-- Every number and every index is refused in more bytes than its type has. -/
theorem scalar_eq_error_of_wide
    {code argument width : Nat}
    (isWidth : storedWidth? code = some width)
    (wide : width < argument + 1)
    (position : Nat) :
    image.scalar code.toUInt8 argument offset image.bytes position =
      .error (.invalidValueSize (argument + 1) offset) := by
  simp only [storedWidth?] at isWidth
  split at isWidth <;> cases isWidth <;>
    simp only [Image.scalar, Image.signedPayload, Image.floatingPayload, Image.indexPayload,
      payload_eq_throw wide] <;>
    rfl

/-- An undefined type code is neither that of an array nor that of an annotation. -/
theorem isSized_of_undefined :
    ∀ code ∈ undefinedCodes,
      code < 32 ∧ code.toUInt8 ≠ Image.arrayCode ∧ code.toUInt8 ≠ Image.annotationCode := by
  decide

/-- An undefined type code is refused. -/
theorem scalar_eq_error_of_undefined
    {code argument : Nat}
    (isUndefined : code ∈ undefinedCodes)
    (position : Nat) :
    image.scalar code.toUInt8 argument offset image.bytes position =
      .error (.invalidValueType code.toUInt8 offset) := by
  simp only [undefinedCodes, List.mem_cons, List.not_mem_nil, or_false] at isUndefined
  rcases isUndefined with rfl | rfl | rfl | rfl | rfl | rfl | rfl | rfl | rfl | rfl | rfl | rfl
    | rfl | rfl <;> rfl

/--
Bytes that start a value which is refused are refused.  In a value around others, those in front are
read, and the one behind them fails.
-/
theorem Breaks.valueWithin_eq_error
    (breaks : Breaks image offset item error)
    (stands : Stands image.bytes offset item)
    (enough : item.length ≤ limit) :
    image.valueWithin limit image.bytes offset = .error error := by
  induction breaks generalizing limit with
  | tooWide isWidth isArgument wide =>
      exact leaf_eq_error (isSized_of_storedWidth? isWidth) isArgument enough stands
        (scalar_eq_error_of_wide isWidth wide _)
  | methodType isArgument => exact leaf_eq_error (by decide) isArgument enough stands rfl
  | methodHandle isArgument => exact leaf_eq_error (by decide) isArgument enough stands rfl
  | undefinedCode isUndefined isArgument =>
      exact leaf_eq_error (isSized_of_undefined _ isUndefined) isArgument enough stands
        (scalar_eq_error_of_undefined isUndefined _)
  | array counted before follows breaks inductionHypothesis =>
      refine Dex.valueWithin_eq_error enough stands fun fewer isLimit => ?_
      rw [List.length_cons, List.length_append, List.length_append] at enough
      have behind := stands.behind
      refine bind_eq_error ((counted.reads.bind_eq behind.left).trans ?_)
      exact times_eq_error (before.reads fewer (by omega)) behind.right.left follows
        (inductionHypothesis behind.right.right (by omega))
  | nested isType isTypeEntry counted before follows isName isNameEntry breaks
      inductionHypothesis =>
      refine Dex.valueWithin_eq_error enough stands fun fewer isLimit => ?_
      simp only [List.length_cons, List.length_append] at enough
      have behind := stands.behind
      have afterType := behind.right
      have afterCount := afterType.right
      refine bind_eq_error ((isType.reads.bind_eq behind.left).trans ?_)
      refine (lift_bind_eq isTypeEntry).trans ((counted.reads.bind_eq afterType.left).trans ?_)
      refine bind_eq_error ?_
      refine times_eq_error (before.reads fewer (by omega)) afterCount.left follows ?_
      refine (isName.reads.bind_eq afterCount.right.left).trans ?_
      refine (lift_bind_eq isNameEntry).trans ?_
      exact bind_eq_error (inductionHypothesis afterCount.right.right (by omega))

end Refusing

/-! Both together, wherever the bytes stand. -/

/-- What encodes a value is read as that value, what starts a refused value is refused. -/
theorem value_of_stands
    {image : Image}
    {offset : Nat}
    {item : List UInt8}
    (stands : Stands image.bytes offset item) :
    (∀ value, Encodes image item value →
        image.value image.bytes offset = .ok (value, offset + item.length))
      ∧ ∀ error, Breaks image offset item error →
        image.value image.bytes offset = .error error := by
  constructor
  · intro value encodes
    exact reads_remaining encodes.reads offset stands
  · intro error breaks
    have bound := stands.le_size
    exact breaks.valueWithin_eq_error stands (by omega : item.length ≤ image.bytes.size - offset)

namespace EncodedExample

/-- An array whose count, number and index are longer than needed. -/
def encoded : List UInt8 :=
  [0x1c, 0x83, 0x00, 0x24, 0xfe, 0xff, 0x1d, 0x00, 0x01, 0x00, 0x30, 0x80, 0x3f, 0x37, 0x00, 0x00]

/-- An array with a character in three bytes behind a null value. -/
def refused : List UInt8 :=
  [0x1c, 0x02, 0x1e, 0x43]

/-- An image with both arrays behind its tables. -/
def image : Image :=
  .withItem (encoded ++ refused)

/-- The array that is encoded. -/
def value : EncodedValue :=
  .array [.int (-2), .nested "La;" [("La;", .float 0x3f800000)], .string "La;"]

/-- The image has its one string. -/
theorem string_eq : image.string 0 = .ok "La;" := by
  decide +kernel

/-- The image has its one type. -/
theorem typeName_eq : image.typeName 0 = .ok "La;" := by
  decide +kernel

/-- The bytes encode the array of an array. -/
theorem encodes : Encodes image encoded value := by
  have isZero : IsUnsigned [0x00] 0 := ⟨.last 0, by decide, by decide⟩
  have isOne : IsUnsigned [0x01] 1 := ⟨.last 1, by decide, by decide⟩
  have isThree : IsUnsigned [0x83, 0x00] 3 := ⟨.more 3 (.last 0), by decide, by decide⟩
  have number : Encodes image [0x24, 0xfe, 0xff] (.int (-2)) :=
    .int (.inBytes (by decide : 1 ≤ 2) (by decide) (by decide : fitsBytes (-2 : Int32).toInt 2))
  have element : Encodes image [0x30, 0x80, 0x3f] (.float 0x3f800000) :=
    .float (.inBytes (by decide : 1 ≤ 2) (by decide)
      (by decide : 0x10000 ∣ (0x3f800000 : UInt32).toNat))
  have nested : Encodes image [0x1d, 0x00, 0x01, 0x00, 0x30, 0x80, 0x3f]
      (.nested "La;" [("La;", .float 0x3f800000)]) :=
    .nested isZero typeName_eq isOne (.cons isZero string_eq element .nil)
  have text : Encodes image [0x37, 0x00, 0x00] (.string "La;") :=
    .string (.inBytes (by decide : 1 ≤ 2) (by decide) (by decide : 0 < 0x10000)) string_eq
  exact .array isThree (.cons number (.cons nested (.cons text .nil)))

/-- The other bytes start a value that is refused for its width. -/
theorem breaks : Breaks image 29 refused (.invalidValueSize 3 32) := by
  have isTwo : IsUnsigned [0x02] 2 := ⟨.last 2, by decide, by decide⟩
  exact .array isTwo (.cons .null .nil) (by decide)
    (.tooWide (rfl : storedWidth? 0x03 = some 2) (by decide : 2 < 8) (by decide))

/-- The encoded array is read, and the other one is refused. -/
theorem value_of_stands_arrays :
    (Stands image.bytes 13 encoded
        ∧ Encodes image encoded value
        ∧ image.value image.bytes 13 = .ok (value, 29))
      ∧ Stands image.bytes 29 refused
      ∧ Breaks image 29 refused (.invalidValueSize 3 32)
      ∧ image.value image.bytes 29 = .error (.invalidValueSize 3 32) := by
  have standsEncoded : Stands image.bytes 13 encoded := ⟨tableBytes, refused, by decide, rfl⟩
  have standsRefused : Stands image.bytes 29 refused :=
    ⟨tableBytes ++ encoded, [], by decide, rfl⟩
  have isDecoded := (value_of_stands standsEncoded).1 value encodes
  have isRefused := (value_of_stands standsRefused).2 _ breaks
  exact ⟨⟨standsEncoded, encodes, isDecoded⟩, standsRefused, breaks, isRefused⟩

end EncodedExample

end Dex

end DexSurface
