import DexSurface.Dex.NumberedClass

/-!
# Placing items in an image

The data of an image stand behind its tables.  An item is placed at the end of the data so far, some
items at a multiple of four, and other items refer to it by its offset.  Offset zero stands for an
empty item, which is not placed.
-/

namespace DexSurface

namespace Dex

/-- A computation that places items behind the offset at which the data start. -/
abbrev Layout := ReaderT Nat (StateM ByteArray)

/-- A number in four bytes. -/
def word (number : Nat) : List UInt8 :=
  Bytes.littleEndian 4 number

/-- A number in two bytes. -/
def halfWord (number : Nat) : List UInt8 :=
  Bytes.littleEndian 2 number

namespace Layout

/-- The offset of the next item. -/
def offset : Layout Nat := do
  return (← read) + (← get).size

/-- Place an item and answer its offset. -/
def place (item : Item) : Layout Nat := do
  let start ← offset
  modify fun data => data ++ item.toByteArray
  return start

/-- Fill up with zeros to the next multiple of four. -/
def align : Layout Unit := do
  let start ← offset
  modify fun data => data ++ (List.replicate ((4 - start % 4) % 4) 0).toByteArray

/-- Place an item at a multiple of four and answer its offset. -/
def placeAligned (item : Item) : Layout Nat := do
  align
  place item

/-- Place a counted list of type numbers. -/
def typeList (types : List Nat) : Layout Nat :=
  if types.isEmpty then
    return 0
  else
    placeAligned (word types.length ++ types.flatMap halfWord)

/-- Place a counted list of offsets. -/
def offsetList (offsets : List Nat) : Layout Nat :=
  placeAligned (word offsets.length ++ offsets.flatMap word)

/-- Place annotations, then the list of their offsets. -/
def annotationSet (annotations : List Item) : Layout Nat := do
  if annotations.isEmpty then
    return 0
  else
    offsetList (← annotations.mapM place)

/-- Place the annotation sets of parameters, then the list of their offsets. -/
def annotationSets (sets : List (List Item)) : Layout Nat := do
  offsetList (← sets.mapM annotationSet)

/-- A number and an offset as an entry of an annotation directory. -/
def directoryEntry (entry : Nat × Nat) : Item :=
  word entry.1 ++ word entry.2

/-- Place the annotations of a class and its members, then the directory of their offsets. -/
def annotationDirectory (entry : NumberedClass) : Layout Nat := do
  let fields := entry.fields.filter fun field => !field.annotations.isEmpty
  let methods := entry.methods.filter fun method => !method.annotations.isEmpty
  let parameters := entry.methods.filter fun method => !method.parameterAnnotations.isEmpty
  if entry.annotations.isEmpty && fields.isEmpty && methods.isEmpty && parameters.isEmpty then
    return 0
  else
    let ofClass ← annotationSet entry.annotations
    let ofFields ← fields.mapM fun field =>
      return (field.index, ← annotationSet field.annotations)
    let ofMethods ← methods.mapM fun method =>
      return (method.index, ← annotationSet method.annotations)
    let ofParameters ← parameters.mapM fun method =>
      return (method.index, ← annotationSets method.parameterAnnotations)
    placeAligned
      (word ofClass ++ word ofFields.length ++ word ofMethods.length ++ word ofParameters.length
        ++ (ofFields ++ ofMethods ++ ofParameters).flatMap directoryEntry)

/-- Place a counted list of values. -/
def staticValues (values : List Item) : Layout Nat :=
  if values.isEmpty then
    return 0
  else
    placeAligned (Leb128.encode values.length ++ values.flatten)

/-- Place debug information, if there is any. -/
def debugInfo : Option Item → Layout Nat
  | none => return 0
  | some item => place item

/-- Place a body behind its debug information; its argument and handler counts are zero. -/
def body (body : NumberedBody) : Layout Nat := do
  let debugOffset ← debugInfo body.debug
  placeAligned
    (halfWord body.registerCount.toNat ++ halfWord 0 ++ halfWord 0 ++ halfWord 0
      ++ word debugOffset ++ word body.units.length
      ++ body.units.flatMap fun unit => halfWord unit.toNat)

/-- Place the body of a method, if it has one. -/
def optionalBody : Option NumberedBody → Layout Nat
  | none => return 0
  | some present => body present

end Layout

/-- A member as the data of its class store it. -/
structure StoredMember where
  index : Nat
  flags : Nat
  bodyOffset : Nat
  deriving Repr, DecidableEq

namespace StoredMember

/-- A field, which has no body. -/
def ofField (field : NumberedField) : StoredMember where
  index := field.index
  flags := field.flags.toNat
  bodyOffset := 0

/-- A method with the offset of its body. -/
def ofMethod (method : NumberedMethod) (bodyOffset : Nat) : StoredMember where
  index := method.index
  flags := method.flags.toNat
  bodyOffset

/-- Members are ordered by their numbers, then their flags, then the offsets of their bodies. -/
def precedes (left right : StoredMember) : Bool :=
  if left.index = right.index then
    if left.flags = right.flags then
      left.bodyOffset ≤ right.bodyOffset
    else
      left.flags < right.flags
  else
    left.index < right.index

/-- Members in ascending order. -/
def sorted (members : List StoredMember) : List StoredMember :=
  members.mergeSort precedes

/-- The bytes of a field behind its number. -/
def fieldTail (member : StoredMember) : List UInt8 :=
  Leb128.encode member.flags

/-- The bytes of a method behind its number. -/
def methodTail (member : StoredMember) : List UInt8 :=
  Leb128.encode member.flags ++ Leb128.encode member.bodyOffset

/-- The bytes of members in ascending order, each number as the difference to the one before. -/
def bytesFrom (tail : StoredMember → List UInt8) (previous : Nat) :
    List StoredMember → List UInt8
  | [] => []
  | member :: rest =>
      Leb128.encode (member.index - previous) ++ tail member
        ++ bytesFrom tail member.index rest

end StoredMember

namespace Layout

/-- Place the data of a class, with the offsets of the bodies of its methods. -/
def classData (entry : NumberedClass) (directOffsets virtualOffsets : List Nat) : Layout Nat := do
  let staticFields := StoredMember.sorted (entry.staticFields.map .ofField)
  let instanceFields := StoredMember.sorted (entry.instanceFields.map .ofField)
  let directMethods :=
    StoredMember.sorted (entry.directMethods.zipWith .ofMethod directOffsets)
  let virtualMethods :=
    StoredMember.sorted (entry.virtualMethods.zipWith .ofMethod virtualOffsets)
  if entry.fields.isEmpty && entry.methods.isEmpty then
    return 0
  else
    place
      ([staticFields, instanceFields, directMethods, virtualMethods].flatMap
          (fun members => Leb128.encode members.length)
        ++ StoredMember.bytesFrom StoredMember.fieldTail 0 staticFields
        ++ StoredMember.bytesFrom StoredMember.fieldTail 0 instanceFields
        ++ StoredMember.bytesFrom StoredMember.methodTail 0 directMethods
        ++ StoredMember.bytesFrom StoredMember.methodTail 0 virtualMethods)

end Layout

end Dex

end DexSurface
