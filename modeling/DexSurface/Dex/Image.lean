import DexSurface.Dex.Decoder
import DexSurface.EncodedValue
import DexSurface.Text.Utf8

/-!
# Dex images

The header of an image and its index tables.  An entry of a table is read when it is asked for, so
an image can be parsed although some of its entries are malformed.
-/

namespace DexSurface

namespace Dex

/-- A table of entries of a fixed size. -/
structure Table where
  size : Nat
  offset : Nat
  deriving Repr, DecidableEq, Inhabited

/-- The offset of an entry. -/
def Table.entry (table : Table) (kind : TableKind) (index entrySize : Nat) : Except Error Nat :=
  if index < table.size then
    .ok (table.offset + index * entrySize)
  else
    .error (.indexOutOfRange kind index)

/-- The size and the offset of a table in the header. -/
def Table.decode : Decoder Table := do
  let size ← Decoder.u32
  let offset ← Decoder.u32
  return { size, offset }

/-- The tables that the header of an image names. -/
structure Tables where
  strings : Table
  types : Table
  protos : Table
  fields : Table
  methods : Table
  classDefs : Table
  deriving Repr, DecidableEq, Inhabited

/-- The tables in the order of the header. -/
def Tables.decode : Decoder Tables := do
  let strings ← Table.decode
  let types ← Table.decode
  let protos ← Table.decode
  let fields ← Table.decode
  let methods ← Table.decode
  let classDefs ← Table.decode
  return { strings, types, protos, fields, methods, classDefs }

/-- An image whose header has been read. -/
structure Image where
  bytes : ByteArray
  version : Nat
  tables : Tables
  /-- The offset of the section with the restriction flags of members. -/
  restrictions : Option Nat

namespace Image

/-- The size of the header. -/
def headerSize : Nat := 0x70

/-- The bytes that start an image, before its version. -/
def magic : List UInt8 := [0x64, 0x65, 0x78, 0x0a]

/-- The oldest version that is read. -/
def oldestVersion : Nat := 35

/-- The newest version that is read. -/
def newestVersion : Nat := 41

/-- The mark of images whose numbers have their low byte first. -/
def byteOrderMark : Nat := 0x12345678

/-- The kind of the map item that holds restriction flags. -/
def restrictionsItem : Nat := 0xf000

/-- The header field that stands for an absent entry. -/
def noIndex : Nat := 0xffffffff

/-- The index that a header field holds, if it is present. -/
def presentIndex? (index : Nat) : Option Nat :=
  if index = noIndex then none else some index

/-- The offset of the first map item of a kind among the next items. -/
def findItem (kind : Nat) : Nat → Decoder (Option Nat)
  | 0 => return none
  | count + 1 => do
      let itemKind ← Decoder.u16
      let _ ← Decoder.u16
      let _ ← Decoder.u32
      let offset ← Decoder.u32
      if itemKind = kind then
        return some offset
      else
        findItem kind count

/-- The offset of the map item of a kind; an image without a map has none. -/
def mapItem? (bytes : ByteArray) (mapOffset kind : Nat) : Except Error (Option Nat) :=
  if mapOffset = 0 then
    .ok none
  else
    Decoder.runAt (do findItem kind (← Decoder.u32)) bytes mapOffset

/-- A decimal number, with an optional plus sign. -/
def parseVersion? (text : List Char) : Option Nat :=
  let digits := match text with
    | '+' :: rest => rest
    | _ => text
  if digits.isEmpty || !digits.all Char.isDigit then
    none
  else
    some (digits.foldl (fun number digit => 10 * number + (digit.toNat - '0'.toNat)) 0)

/-- The header behind the version: byte order, map, and tables. -/
def decodeHeader (versionText : String) : Decoder (Nat × Tables) := do
  let mark ← Decoder.u32
  if mark ≠ byteOrderMark then
    throw (.byteSwapped versionText)
  let _ ← Decoder.u32
  let _ ← Decoder.u32
  let mapOffset ← Decoder.u32
  return (mapOffset, ← Tables.decode)

/-- The offset of the byte order mark in the header. -/
def byteOrderOffset : Nat := 40

/-- Read the header of an image. -/
def parse (bytes : ByteArray) : Except Error Image := do
  if bytes.size < headerSize then
    throw (.truncated 0 headerSize)
  let start := (bytes.extract 0 8).toList
  if start.take 4 ≠ magic ∨ start.drop 7 ≠ [0] then
    throw .badMagic
  let versionText := Utf8.decodeLossy ((start.drop 4).take 3)
  match parseVersion? versionText.toList with
  | none => throw (.unsupportedVersion versionText)
  | some version =>
      if version < oldestVersion ∨ newestVersion < version then
        throw (.unsupportedVersion versionText)
      let (mapOffset, tables) ← Decoder.runAt (decodeHeader versionText) bytes byteOrderOffset
      let restrictions ← mapItem? bytes mapOffset restrictionsItem
      return { bytes, version, tables, restrictions }

/-- The number of classes. -/
def classCount (image : Image) : Nat :=
  image.tables.classDefs.size

/-- Read from an offset of the image. -/
def readAt (image : Image) (offset : Nat) (item : Decoder α) : Except Error α :=
  Decoder.runAt item image.bytes offset

/-- The string at an index; the length that stands before its text is not used. -/
def string (image : Image) (index : Nat) : Except Error String := do
  let entry ← image.tables.strings.entry .string index 4
  let offset ← image.readAt entry Decoder.u32
  image.readAt offset do
    let _ ← Decoder.uleb128
    Decoder.mutf8

/-- The string at an index that may be absent. -/
def optionalString (image : Image) : Option Nat → Except Error (Option String)
  | none => .ok none
  | some index => some <$> image.string index

/-- The descriptor of the type at an index. -/
def typeName (image : Image) (index : Nat) : Except Error TypeDescriptor := do
  let entry ← image.tables.types.entry .type index 4
  image.string (← image.readAt entry Decoder.u32)

/-- The descriptor of the type at an index that may be absent. -/
def optionalType (image : Image) : Option Nat → Except Error (Option TypeDescriptor)
  | none => .ok none
  | some index => some <$> image.typeName index

/-- The descriptors of a list of types; offset zero stands for the empty list. -/
def typeList (image : Image) (offset : Nat) : Except Error (List TypeDescriptor) :=
  if offset = 0 then
    .ok []
  else
    image.readAt offset do
      let size ← Decoder.u32
      times size (do image.typeName (← Decoder.u16))

/-- The parameter types and the return type of a prototype; its short form is not used. -/
def proto (image : Image) (index : Nat) :
    Except Error (List TypeDescriptor × TypeDescriptor) := do
  let entry ← image.tables.protos.entry .proto index 12
  image.readAt entry do
    let _ ← Decoder.u32
    let returnType ← image.typeName (← Decoder.u32)
    let parameterTypes ← image.typeList (← Decoder.u32)
    return (parameterTypes, returnType)

/-- The field at an index. -/
def fieldRef (image : Image) (index : Nat) : Except Error FieldRef := do
  let entry ← image.tables.fields.entry .field index 8
  image.readAt entry do
    let definingClass ← image.typeName (← Decoder.u16)
    let fieldType ← image.typeName (← Decoder.u16)
    let name ← image.string (← Decoder.u32)
    return { definingClass, name, fieldType }

/-- The method at an index. -/
def methodRef (image : Image) (index : Nat) : Except Error MethodRef := do
  let entry ← image.tables.methods.entry .method index 8
  image.readAt entry do
    let definingClass ← image.typeName (← Decoder.u16)
    let (parameterTypes, returnType) ← image.proto (← Decoder.u16)
    let name ← image.string (← Decoder.u32)
    return { definingClass, name, parameterTypes, returnType }

end Image

end Dex

end DexSurface
