import DexSurface.Dex.Image
import DexSurface.Dex.Layout

/-!
# Assembling images

An image consists of its header, its tables and its data.  The data hold the strings, the parameter
lists of prototypes, the parts of the classes, the restriction flags and the map, in this order.
-/

namespace DexSurface

namespace Dex

namespace Assembly

/-- The sizes of table entries in the order of the header. -/
def entrySizes : List Nat := [4, 4, 12, 8, 8, 32]

/-- The numbers of table entries in the order of the header. -/
def entryCounts (tables : EntryTables) (classCount : Nat) : List Nat :=
  [tables.strings.size, tables.types.size, tables.protos.size, tables.fields.size,
    tables.methods.size, classCount]

/-- The counts and offsets of tables that stand one behind the other. -/
def tablePlaces (offset : Nat) : List Nat → List Nat → List (Nat × Nat)
  | count :: counts, size :: sizes =>
      (count, offset) :: tablePlaces (offset + count * size) counts sizes
  | _, _ => []

/-- The offset behind tables that stand one behind the other. -/
def dataOffset (offset : Nat) : List Nat → List Nat → Nat
  | count :: counts, size :: sizes => dataOffset (offset + count * size) counts sizes
  | _, _ => offset

/-- Place a string behind the number of its UTF-16 units; a zero byte ends it. -/
def placeString (text : String) : Layout Nat :=
  Layout.place
    (Leb128.encode (ModifiedUtf8.unitsOfChars text.toList).length ++ text.toUTF8.toList ++ [0])

/-- The table entry of a prototype, whose parameter types are placed in the data. -/
def protoEntry (entry : ProtoEntry) : Layout Item := do
  let parametersOffset ← Layout.typeList entry.parameterTypes
  return word entry.shortForm ++ word entry.returnType ++ word parametersOffset

/-- The table entry of a field or a method. -/
def memberEntry (entry : MemberEntry) : Item :=
  halfWord entry.definingClass ++ halfWord entry.shape ++ word entry.name

/-- A number that may be absent. -/
def optionalWord (index : Option Nat) : Item :=
  word (index.getD Image.noIndex)

/-- The table entry of a class, whose parts are placed in the data. -/
def classEntry (entry : NumberedClass) : Layout Item := do
  let interfaces ← Layout.typeList entry.interfaces
  let annotations ← Layout.annotationDirectory entry
  let values ← Layout.staticValues entry.staticValues
  let directOffsets ← entry.directMethods.mapM fun method => Layout.optionalBody method.body
  let virtualOffsets ← entry.virtualMethods.mapM fun method => Layout.optionalBody method.body
  let data ← Layout.classData entry directOffsets virtualOffsets
  return word entry.typeIndex ++ word entry.flags.toNat ++ optionalWord entry.superclass
    ++ word interfaces ++ optionalWord entry.sourceFile ++ word annotations ++ word data
    ++ word values

/-- The restriction flags of the members of a class. -/
def restrictionItem (flags : List UInt32) : Item :=
  flags.flatMap fun flag => Leb128.encode flag.toNat

/-- The offsets of the flags of classes in their section, zero for a class without flags. -/
def restrictionOffsets (offset : Nat) : List (Option (List UInt32)) → List Nat
  | [] => []
  | none :: rest => 0 :: restrictionOffsets offset rest
  | some flags :: rest =>
      offset :: restrictionOffsets (offset + (restrictionItem flags).length) rest

/-- The section of restriction flags: its size, an offset for every class, the flags. -/
def restrictionSection (restrictions : List (Option (List UInt32))) : Item :=
  let flags := (restrictions.filterMap id).flatMap restrictionItem
  let start := 4 + 4 * restrictions.length
  word (start + flags.length) ++ (restrictionOffsets start restrictions).flatMap word ++ flags

/-- Place the section of restriction flags if some class has flags. -/
def placeRestrictions (restrictions : List (Option (List UInt32))) : Layout (Option Nat) := do
  if restrictions.any Option.isSome then
    some <$> Layout.placeAligned (restrictionSection restrictions)
  else
    return none

/-- The map item of a single part of an image. -/
def mapItem (kind offset : Nat) : Item :=
  halfWord kind ++ halfWord 0 ++ word 1 ++ word offset

/-- The kind of the map item of the header. -/
def headerItem : Nat := 0x0000

/-- The kind of the map item of the map. -/
def mapListItem : Nat := 0x1000

/-- Place the map: the header, the restriction flags and the map itself. -/
def placeMap (restrictions : Option Nat) : Layout Nat := do
  Layout.align
  let offset ← Layout.offset
  let items := mapItem headerItem 0
    :: (restrictions.map (mapItem Image.restrictionsItem)).toList ++ [mapItem mapListItem offset]
  Layout.place (word items.length ++ items.flatten)

/-- What the tables and the header say about the data. -/
structure Placed where
  strings : List Nat
  protos : List Item
  classes : List Item
  map : Nat

/-- Place all data of an image. -/
def placeData (tables : EntryTables) (classes : List NumberedClass) : Layout Placed := do
  let strings ← tables.strings.toList.mapM placeString
  let protos ← tables.protos.toList.mapM protoEntry
  let classEntries ← classes.mapM classEntry
  let restrictions ← placeRestrictions (classes.map (·.restrictions))
  let map ← placeMap restrictions
  return { strings, protos, classes := classEntries, map }

/-- The version of assembled images. -/
def versionText : List UInt8 := [0x30, 0x33, 0x39]

/-- The header of an image; checksum, signature and link section are zero. -/
def header (fileSize map dataStart : Nat) (places : List (Nat × Nat)) : Item :=
  Image.magic ++ versionText ++ [0] ++ List.replicate 24 0
    ++ word fileSize ++ word Image.headerSize ++ word Image.byteOrderMark
    ++ word 0 ++ word 0 ++ word map
    ++ places.flatMap (fun place => word place.1 ++ word place.2)
    ++ word (fileSize - dataStart) ++ word dataStart

/-- The image of numbered classes. -/
def imageOf (tables : EntryTables) (classes : List NumberedClass) : ByteArray :=
  let counts := entryCounts tables classes.length
  let dataStart := dataOffset Image.headerSize counts entrySizes
  let (placed, data) := (placeData tables classes).run dataStart |>.run ByteArray.empty
  let places := tablePlaces Image.headerSize counts entrySizes
  let index :=
    header (dataStart + data.size) placed.map dataStart places
      ++ placed.strings.flatMap word
      ++ tables.types.toList.flatMap word
      ++ placed.protos.flatten
      ++ tables.fields.toList.flatMap memberEntry
      ++ tables.methods.toList.flatMap memberEntry
      ++ placed.classes.flatten
  index.toByteArray ++ data

end Assembly

/-- The image of classes, numbered in order. -/
def Image.assemble (drafts : List ClassDraft) : ByteArray :=
  let (classes, tables) := (drafts.mapM Numbering.numberedClass).run EntryTables.empty
  Assembly.imageOf tables classes

end Dex

end DexSurface
