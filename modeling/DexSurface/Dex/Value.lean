import DexSurface.Annotation
import DexSurface.Dex.Image

/-!
# Encoded values of an image

A value starts with a byte that holds its type code and an argument.  For numbers and indices the
argument is the number of stored bytes less one: integers are extended by their sign, characters and
indices by zeros in front, floating-point numbers by zeros behind.
-/

namespace DexSurface

namespace Dex

namespace Image

/-- The stored bytes of a number, which must not be more than its width. -/
def payload (size width offset : Nat) : Decoder Nat :=
  if size ≤ width then
    Decoder.number size
  else
    throw (.invalidValueSize size offset)

/-- A number of `size` bytes, negative if its highest bit is set. -/
def signExtend (size number : Nat) : Int :=
  if number < Bytes.span size / 2 then
    number
  else
    (number : Int) - Bytes.span size

/-- A number with sign. -/
def signedPayload (size width offset : Nat) : Decoder Int :=
  signExtend size <$> payload size width offset

/-- The bits of a floating-point number, of which the high bytes are stored. -/
def floatingPayload (size width offset : Nat) : Decoder Nat := do
  return (← payload size width offset) * Bytes.span (width - size)

/-- An index into a table. -/
def indexPayload (size offset : Nat) : Decoder Nat :=
  payload size 4 offset

/-- The value with a type code and an argument, once its header at `offset` is read. -/
def scalar (image : Image) (code : UInt8) (argument offset : Nat) : Decoder EncodedValue := do
  let size := argument + 1
  match code with
  | 0x00 => return .byte (Int8.ofInt (← signedPayload size 1 offset))
  | 0x02 => return .short (Int16.ofInt (← signedPayload size 2 offset))
  | 0x03 => return .char (← payload size 2 offset).toUInt16
  | 0x04 => return .int (Int32.ofInt (← signedPayload size 4 offset))
  | 0x06 => return .long (Int64.ofInt (← signedPayload size 8 offset))
  | 0x10 => return .float (← floatingPayload size 4 offset).toUInt32
  | 0x11 => return .double (← floatingPayload size 8 offset).toUInt64
  | 0x15 => throw .methodTypeValue
  | 0x16 => throw .methodHandleValue
  | 0x17 => return .string (← image.string (← indexPayload size offset))
  | 0x18 => return .type (← image.typeName (← indexPayload size offset))
  | 0x19 => return .field (← image.fieldRef (← indexPayload size offset))
  | 0x1a => return .method (← image.methodRef (← indexPayload size offset))
  | 0x1b => return .enum (← image.fieldRef (← indexPayload size offset))
  | 0x1e => return .null
  | 0x1f => return .boolean (argument != 0)
  | _ => throw (.invalidValueType code offset)

/-- The type code of arrays. -/
def arrayCode : UInt8 := 0x1c

/-- The type code of annotations. -/
def annotationCode : UInt8 := 0x1d

/-- A counted list of values, each read by `value`. -/
def valuesOf (value : Decoder EncodedValue) : Decoder (List EncodedValue) := do
  times (← Decoder.uleb128) value

/-- The type and the named elements of an annotation, each element value read by `value`. -/
def annotationOf (image : Image) (value : Decoder EncodedValue) :
    Decoder (TypeDescriptor × List (String × EncodedValue)) := do
  let annotationType ← image.typeName (← Decoder.uleb128)
  let size ← Decoder.uleb128
  let elements ← times size do
    let name ← image.string (← Decoder.uleb128)
    return (name, ← value)
  return (annotationType, elements)

/--
A value with at most `limit` bytes left.  Every nested value stands behind the header of the value
around it, so values cannot be nested deeper than there are bytes.
-/
def valueWithin (image : Image) : (limit : Nat) → Decoder EncodedValue
  | 0 => do throw (.truncated (← Decoder.position) 1)
  | limit + 1 => do
      let offset ← Decoder.position
      let header ← Decoder.u8
      let code := header &&& 0x1f
      if code = arrayCode then
        return .array (← valuesOf (image.valueWithin limit))
      else if code = annotationCode then
        let (annotationType, elements) ← image.annotationOf (image.valueWithin limit)
        return .nested annotationType elements
      else
        image.scalar code (header >>> 5).toNat offset

/-- The next value. -/
def value (image : Image) : Decoder EncodedValue := do
  image.valueWithin (← Decoder.remaining)

/-- The next list of values. -/
def values (image : Image) : Decoder (List EncodedValue) := do
  valuesOf (image.valueWithin (← Decoder.remaining))

/-- The type and the named elements of the next annotation. -/
def annotationParts (image : Image) : Decoder (TypeDescriptor × List (String × EncodedValue)) := do
  image.annotationOf (image.valueWithin (← Decoder.remaining))

end Image

end Dex

end DexSurface
