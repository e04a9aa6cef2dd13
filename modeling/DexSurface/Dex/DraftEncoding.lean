import DexSurface.Bytes.Order
import DexSurface.Dex.Draft
import DexSurface.Dex.Leb128
import DexSurface.Dex.Numbering

/-!
# Writing values, annotations and debug information

Everything in an image that consists of bytes without alignment and without offsets.  Writing it
numbers the entries it mentions, in reading order.
-/

namespace DexSurface

namespace Dex

/-- A value with its type code and the bytes it is stored in, of which there is at least one. -/
def sized (code : Nat) (stored : List UInt8) : List UInt8 :=
  (0x20 * (stored.length - 1) + code).toUInt8 :: stored

/-- A number with sign fits a number of bytes. -/
def fitsBytes (value : Int) (width : Nat) : Prop :=
  -((Bytes.span width / 2 : Nat) : Int) ≤ value ∧ value < ((Bytes.span width / 2 : Nat) : Int)

instance (value : Int) (width : Nat) : Decidable (fitsBytes value width) :=
  inferInstanceAs (Decidable (_ ∧ _))

/-- The least number of bytes from one up to a limit that a number with sign fits. -/
def signedWidth (value : Int) : (limit : Nat) → Nat
  | 0 | 1 => 1
  | limit + 2 => if fitsBytes value (limit + 1) then signedWidth value (limit + 1) else limit + 2

/-- The fewest low bytes, up to a limit, from which a number with sign can be extended. -/
def minimalSigned (value : Int) (limit : Nat) : List UInt8 :=
  let width := signedWidth value limit
  Bytes.littleEndian width (value % (Bytes.span width : Int)).toNat

/-- An index as a value. -/
def indexValue (code index : Nat) : List UInt8 :=
  sized code (Bytes.littleEndian 4 index)

mutual

/-- The bytes of a value. -/
def valueBytes : ValueDraft → Numbering (List UInt8)
  | .boolean value => return [if value then 0x3f else 0x1f]
  | .byte value => return sized 0x00 [value.toUInt8]
  | .char unit => return sized 0x03 (Bytes.littleEndian 2 unit.toNat)
  | .int value => return sized 0x04 (minimalSigned value.toInt 4)
  | .long value => return sized 0x06 (minimalSigned value.toInt 8)
  | .float bits => return sized 0x10 (Bytes.littleEndian 4 bits.toNat)
  | .double bits => return sized 0x11 (Bytes.littleEndian 8 bits.toNat)
  | .methodType => return sized 0x15 [0]
  | .string text => indexValue 0x17 <$> Numbering.string text
  | .type descriptor => indexValue 0x18 <$> Numbering.typeName descriptor
  | .enum constant => indexValue 0x1b <$> Numbering.field constant
  | .array values => do
      let stored ← valuesBytes values
      return 0x1c :: Leb128.encode values.length ++ stored
  | .nested annotationType elements => do
      let typeIndex ← Numbering.typeName annotationType
      let stored ← elementsBytes elements
      return 0x1d :: Leb128.encode typeIndex ++ Leb128.encode elements.length ++ stored
  | .null => return [0x1e]

/-- The bytes of values in a row. -/
def valuesBytes : List ValueDraft → Numbering (List UInt8)
  | [] => return []
  | first :: rest => do
      let stored ← valueBytes first
      return stored ++ (← valuesBytes rest)

/-- The bytes of named values in a row. -/
def elementsBytes : List (String × ValueDraft) → Numbering (List UInt8)
  | [] => return []
  | (name, first) :: rest => do
      let nameIndex ← Numbering.string name
      let stored ← valueBytes first
      return Leb128.encode nameIndex ++ stored ++ (← elementsBytes rest)

end

/-- The bytes of an annotation behind its visibility. -/
def AnnotationDraft.bytes (draft : AnnotationDraft) : Numbering (List UInt8) := do
  let typeIndex ← Numbering.typeName draft.annotationType
  let stored ← elementsBytes draft.elements
  return draft.visibility
    :: Leb128.encode typeIndex ++ Leb128.encode draft.elements.length ++ stored

/-- The number that stands for an index: the index plus one, so that zero stands for none. -/
def presentNumber (index : Nat) : List UInt8 :=
  Leb128.encode (index + 1)

/-- The bytes of a declared parameter name. -/
def parameterNameBytes : Option String → Numbering (List UInt8)
  | none => return Leb128.encode 0
  | some name => presentNumber <$> Numbering.string name

/-- The bytes of a debug event. -/
def DebugEvent.bytes : DebugEvent → Numbering (List UInt8)
  | .advanceAddress amount => return 0x01 :: Leb128.encode amount
  | .endLocal register => return 0x05 :: Leb128.encode register
  | .startLocal register name localType => do
      let nameIndex ← Numbering.string name
      let typeIndex ← Numbering.typeName localType
      return 0x03 :: Leb128.encode register ++ presentNumber nameIndex ++ presentNumber typeIndex
  | .startLocalExtended register name localType signature => do
      let nameIndex ← Numbering.string name
      let typeIndex ← Numbering.typeName localType
      let signatureIndex ← Numbering.string signature
      return 0x04 :: Leb128.encode register ++ presentNumber nameIndex
        ++ presentNumber typeIndex ++ presentNumber signatureIndex

/-- The special opcode that advances the line by one, and the end mark. -/
def debugEnding : List UInt8 := [0x0b, 0x00]

/-- The bytes of debug information whose first line is one. -/
def DebugDraft.bytes (draft : DebugDraft) : Numbering (List UInt8) := do
  let names ← draft.parameterNames.mapM parameterNameBytes
  let events ← draft.events.mapM DebugEvent.bytes
  return Leb128.encode 1 ++ Leb128.encode draft.parameterNames.length ++ names.flatten
    ++ events.flatten ++ debugEnding

/-- What is encoded on its own, apart from the class that holds it. -/
inductive Fragment where
  | value (draft : ValueDraft)
  | note (draft : AnnotationDraft)
  | debugInfo (draft : DebugDraft)

/-- The bytes of a fragment. -/
def Fragment.bytes : Fragment → Numbering (List UInt8)
  | .value draft => valueBytes draft
  | .note draft => draft.bytes
  | .debugInfo draft => draft.bytes

end Dex

end DexSurface
