import DexSurface.Proofs.Dex.PlacedSections

namespace DexSurface

namespace Dex

open Decoder (Reads reads_pure reads_uleb128 reads_of_length_le)
open Layout (Yields yields_pure yields_bind yields_mapM yields_place)

/-!
# The tables are read back

The entries of a table stand side by side.  An image in which all tables stand, together with the
strings and the parameter lists that they name, shows the tables.
-/

/-- The entries of a table stand where the table says, each as wide as the others. -/
structure Table.Holds
    (table : Table)
    (bytes : ByteArray)
    (width : Nat)
    (items : List Item) : Prop where
  size : table.size = items.length
  sameWidth : ∀ item ∈ items, item.length = width
  stands : Stands bytes table.offset items.flatten

namespace Table

variable {table : Table} {bytes : ByteArray} {width index : Nat} {items : List Item}

/-- The entry of a table at an index is found and stands there. -/
theorem Holds.entry
    {item : Item}
    (holds : table.Holds bytes width items)
    (found : items[index]? = some item)
    (kind : TableKind) :
    table.entry kind index width = .ok (table.offset + index * width)
      ∧ Stands bytes (table.offset + index * width) item := by
  have inRange : index < table.size := by
    rw [holds.size]
    exact (List.getElem?_eq_some_iff.mp found).1
  exact ⟨if_pos inRange, stands_flatten_getElem holds.sameWidth found holds.stands⟩

/-- The written entry of an element is found at its index and stands there. -/
theorem Holds.entry_map
    {elements : List α}
    {write : α → Item}
    {element : α}
    (holds : table.Holds bytes width (elements.map write))
    (found : elements[index]? = some element)
    (kind : TableKind) :
    table.entry kind index width = .ok (table.offset + index * width)
      ∧ Stands bytes (table.offset + index * width) (write element) := by
  apply holds.entry
  rw [List.getElem?_map, found]
  rfl

/-- A table holds the entries of elements if their bytes stand side by side. -/
theorem holds_map
    {elements : List α}
    {write : α → Item}
    (sameSize : table.size = elements.length)
    (sameWidth : ∀ element, (write element).length = width)
    (stands : Stands bytes table.offset (elements.flatMap write)) :
    table.Holds bytes width (elements.map write) := by
  rw [List.flatMap_def] at stands
  refine ⟨?_, ?_, stands⟩
  · rw [sameSize, List.length_map]
  · intro item member
    obtain ⟨element, -, rfl⟩ := List.mem_map.mp member
    exact sameWidth element

/-- A table in an image of less than 32 bits has fewer entries than that. -/
theorem Holds.size_lt
    (holds : table.Holds bytes width items)
    (fits : bytes.size < Bytes.span 4)
    (positive : 0 < width) :
    table.size < Bytes.span 4 := by
  have bound := holds.stands.le_size
  have atLeast := Nat.le_mul_of_pos_right items.length positive
  rw [length_flatten_of_same holds.sameWidth] at bound
  rw [holds.size]
  omega

end Table

/-- The bytes of a string: its number of units, its text, a zero byte. -/
def stringItem (text : String) : Item :=
  Leb128.encode (ModifiedUtf8.unitsOfChars text.toList).length ++ text.toUTF8.toList ++ [0]

/-- Plain characters have one unit each. -/
theorem length_unitsOfChars
    {chars : List Char}
    (plain : ∀ char ∈ chars, IsPlainChar char) :
    (ModifiedUtf8.unitsOfChars chars).length = chars.length := by
  induction chars with
  | nil => rfl
  | cons first rest inductionHypothesis =>
      have restLength := inductionHypothesis
        fun other member => plain other (List.mem_cons_of_mem _ member)
      have oneUnit : ModifiedUtf8.unitsOfChar first = [first.toNat.toUInt16] :=
        if_pos (plain first List.mem_cons_self).2
      rw [ModifiedUtf8.unitsOfChars, List.flatMap_cons, oneUnit]
      exact congrArg Nat.succ restLength

/-- A plain text is read where its bytes stand. -/
theorem reads_stringItem
    {bytes : ByteArray}
    {text : String}
    (fits : bytes.size < Bytes.span 4)
    (plain : IsPlain text) :
    Reads bytes (do
      let _ ← Decoder.uleb128
      Decoder.mutf8) (stringItem text) text := by
  refine reads_of_length_le fun bound => ?_
  have few : text.toList.length ≤ text.toUTF8.toList.length := by
    rw [toUTF8_toList]
    exact length_le_length_flatMap (fun char => List.length_pos_iff.mpr
      String.utf8EncodeChar_ne_nil) text.toList
  rw [stringItem, List.append_assoc] at bound ⊢
  rw [length_unitsOfChars plain, List.length_append, List.length_append] at bound
  rw [length_unitsOfChars plain]
  exact (reads_uleb128 (by omega)).bind (Decoder.reads_mutf8 plain)

/-- The table entry of a prototype names the list of its parameter types. -/
structure HoldsProto (image : Image) (entry : ProtoEntry) (item : Item) : Prop where
  isEntry :
    ∃ parametersOffset,
      item = word entry.shortForm ++ word entry.returnType ++ word parametersOffset
        ∧ ∀ descriptors,
          List.Forall₂ (fun index descriptor => image.typeName index = .ok descriptor)
            entry.parameterTypes descriptors →
          IsReadAt image.typeList parametersOffset descriptors

section Placing

variable {image : Image} {start : Nat}

/-- Strings stand where they are placed. -/
theorem yields_strings
    (positive : 0 < start)
    (fits : image.bytes.size < Bytes.span 4)
    (texts : List String) :
    Yields image.bytes start (texts.mapM Assembly.placeString)
      (List.Forall₂ (fun text offset => IsPlaced image.bytes offset (stringItem text)) texts) :=
  yields_mapM (List.forall₂_same.mpr fun text _ => yields_place positive fits (stringItem text))

/-- The entries of prototypes name lists of types that stand where they are placed. -/
theorem yields_protos
    (positive : 0 < start)
    (fits : image.bytes.size < Bytes.span 4)
    (typesFit : image.tables.types.size < Bytes.span 2)
    (entries : List ProtoEntry) :
    Yields image.bytes start (entries.mapM Assembly.protoEntry)
      (List.Forall₂ (HoldsProto image) entries) := by
  refine yields_mapM (List.forall₂_same.mpr fun entry _ => ?_)
  refine yields_bind (yields_typeList positive fits typesFit _) fun offset => ?_
  exact yields_pure fun isRead => ⟨offset, rfl, isRead⟩

end Placing

/-- The tables stand where the image looks for them. -/
structure HoldsTables
    (image : Image)
    (tables : EntryTables)
    (strings : List Nat)
    (protos : List Item) : Prop where
  strings : image.tables.strings.Holds image.bytes 4 (strings.map word)
  types : image.tables.types.Holds image.bytes 4 (tables.types.toList.map word)
  protos : image.tables.protos.Holds image.bytes 12 protos
  fields :
    image.tables.fields.Holds image.bytes 8 (tables.fields.toList.map Assembly.memberEntry)
  methods :
    image.tables.methods.Holds image.bytes 8 (tables.methods.toList.map Assembly.memberEntry)

section Showing

variable {image : Image} {tables : EntryTables} {index position : Nat}

/-- A string is read through its table entry. -/
theorem string_eq
    {offset : Nat}
    {text : String}
    (fits : image.bytes.size < Bytes.span 4)
    (found : image.tables.strings.entry .string index 4 = .ok position)
    (stands : Stands image.bytes position (word offset))
    (placed : IsPlaced image.bytes offset (stringItem text))
    (plain : IsPlain text) :
    image.string index = .ok text := by
  have readOffset : image.readAt position Decoder.u32 = .ok offset :=
    Decoder.runAt_eq_ok (reads_word placed.fits) stands
  rw [Image.string, found]
  change (image.readAt _ _ >>= fun _ => _) = _
  rw [readOffset]
  exact Decoder.runAt_eq_ok (reads_stringItem fits plain) placed.stands

/-- A type is the string that its table entry names. -/
theorem typeName_eq_string
    {text : Nat}
    (textFits : text < Bytes.span 4)
    (found : image.tables.types.entry .type index 4 = .ok position)
    (stands : Stands image.bytes position (word text)) :
    image.typeName index = image.string text := by
  have readText : image.readAt position Decoder.u32 = .ok text :=
    Decoder.runAt_eq_ok (reads_word textFits) stands
  rw [Image.typeName, found]
  change (image.readAt _ _ >>= fun _ => _) = _
  rw [readText]
  rfl

/-- A prototype is read from its entry if its types are. -/
theorem proto_eq
    {entry : ProtoEntry}
    {item : Item}
    {parameterTypes : List TypeDescriptor}
    {returnType : TypeDescriptor}
    (typesFit : image.tables.types.size < Bytes.span 2)
    (found : image.tables.protos.entry .proto index 12 = .ok position)
    (stands : Stands image.bytes position item)
    (holds : HoldsProto image entry item)
    (returnRead : image.typeName entry.returnType = .ok returnType)
    (parametersRead :
      List.Forall₂ (fun index descriptor => image.typeName index = .ok descriptor)
        entry.parameterTypes parameterTypes) :
    image.proto index = .ok (parameterTypes, returnType) := by
  obtain ⟨parametersOffset, rfl, isList⟩ := holds.isEntry
  have listRead := isList parameterTypes parametersRead
  have returnFits : entry.returnType < Bytes.span 4 :=
    Nat.lt_trans (Image.lt_of_typeName_eq_ok returnRead) (Nat.lt_trans typesFit (by decide))
  rw [List.append_assoc] at stands
  rw [Image.proto, found]
  refine Decoder.runAt_eq_ok ?_ stands
  refine (reads_word_mod _).bind ?_
  refine (reads_word returnFits).bind ?_
  refine Reads.lift_bind returnRead ?_
  rw [← List.append_nil (word parametersOffset)]
  refine (reads_word listRead.fits).bind ?_
  exact Reads.lift_bind listRead.reads (reads_pure _)

/-- A field is read from its entry if its class, its type and its name are. -/
theorem fieldRef_eq
    {entry : MemberEntry}
    {definingClass fieldType : TypeDescriptor}
    {name : String}
    (typesFit : image.tables.types.size < Bytes.span 2)
    (stringsFit : image.tables.strings.size < Bytes.span 4)
    (found : image.tables.fields.entry .field index 8 = .ok position)
    (stands : Stands image.bytes position (Assembly.memberEntry entry))
    (classRead : image.typeName entry.definingClass = .ok definingClass)
    (typeRead : image.typeName entry.shape = .ok fieldType)
    (nameRead : image.string entry.name = .ok name) :
    image.fieldRef index = .ok { definingClass, name, fieldType } := by
  have classFits := Nat.lt_trans (Image.lt_of_typeName_eq_ok classRead) typesFit
  have typeFits := Nat.lt_trans (Image.lt_of_typeName_eq_ok typeRead) typesFit
  have nameFits := Nat.lt_trans (Image.lt_of_string_eq_ok nameRead) stringsFit
  rw [Assembly.memberEntry, List.append_assoc] at stands
  rw [Image.fieldRef, found]
  refine Decoder.runAt_eq_ok ?_ stands
  refine (reads_halfWord classFits).bind ?_
  refine Reads.lift_bind classRead ?_
  refine (reads_halfWord typeFits).bind ?_
  refine Reads.lift_bind typeRead ?_
  rw [← List.append_nil (word entry.name)]
  refine (reads_word nameFits).bind ?_
  exact Reads.lift_bind nameRead (reads_pure _)

/-- A method is read from its entry if its class, its prototype and its name are. -/
theorem methodRef_eq
    {entry : MemberEntry}
    {definingClass returnType : TypeDescriptor}
    {parameterTypes : List TypeDescriptor}
    {name : String}
    (typesFit : image.tables.types.size < Bytes.span 2)
    (protosFit : image.tables.protos.size < Bytes.span 2)
    (stringsFit : image.tables.strings.size < Bytes.span 4)
    (found : image.tables.methods.entry .method index 8 = .ok position)
    (stands : Stands image.bytes position (Assembly.memberEntry entry))
    (classRead : image.typeName entry.definingClass = .ok definingClass)
    (protoRead : image.proto entry.shape = .ok (parameterTypes, returnType))
    (nameRead : image.string entry.name = .ok name) :
    image.methodRef index = .ok { definingClass, name, parameterTypes, returnType } := by
  have classFits := Nat.lt_trans (Image.lt_of_typeName_eq_ok classRead) typesFit
  have protoFits := Nat.lt_trans (Image.lt_of_proto_eq_ok protoRead) protosFit
  have nameFits := Nat.lt_trans (Image.lt_of_string_eq_ok nameRead) stringsFit
  rw [Assembly.memberEntry, List.append_assoc] at stands
  rw [Image.methodRef, found]
  refine Decoder.runAt_eq_ok ?_ stands
  refine (reads_halfWord classFits).bind ?_
  refine Reads.lift_bind classRead ?_
  refine (reads_halfWord protoFits).bind ?_
  refine Reads.lift_bind protoRead ?_
  rw [← List.append_nil (word entry.name)]
  refine (reads_word nameFits).bind ?_
  exact Reads.lift_bind nameRead (reads_pure _)

/-- The entry of a member has eight bytes. -/
@[simp]
theorem length_memberEntry (entry : MemberEntry) : (Assembly.memberEntry entry).length = 8 := by
  simp [Assembly.memberEntry]

/-- An image in which the tables stand shows them. -/
theorem shows_of_holdsTables
    {strings : List Nat}
    {protos : List Item}
    (imageFits : image.bytes.size < Bytes.span 4)
    (typesFit : tables.types.size < Bytes.span 2)
    (protosFit : tables.protos.size < Bytes.span 2)
    (holds : HoldsTables image tables strings protos)
    (stringsPlaced :
      List.Forall₂ (fun text offset => IsPlaced image.bytes offset (stringItem text))
        tables.strings.toList strings)
    (protosPlaced : List.Forall₂ (HoldsProto image) tables.protos.toList protos) :
    image.Shows tables := by
  have sameStrings : image.tables.strings.size = tables.strings.size := by
    rw [holds.strings.size, List.length_map, ← stringsPlaced.length_eq, Array.length_toList]
  have sameTypes : image.tables.types.size = tables.types.size := by
    rw [holds.types.size, List.length_map, Array.length_toList]
  have sameProtos : image.tables.protos.size = tables.protos.size := by
    rw [holds.protos.size, ← protosPlaced.length_eq, Array.length_toList]
  have sameFields : image.tables.fields.size = tables.fields.size := by
    rw [holds.fields.size, List.length_map, Array.length_toList]
  have sameMethods : image.tables.methods.size = tables.methods.size := by
    rw [holds.methods.size, List.length_map, Array.length_toList]
  have stringsFit := holds.strings.size_lt imageFits (by decide)
  have fieldsFit := holds.fields.size_lt imageFits (by decide)
  have methodsFit := holds.methods.size_lt imageFits (by decide)
  rw [← sameTypes] at typesFit
  rw [← sameProtos] at protosFit
  exact {
    strings := fun {index text} found plain => by
      rw [← Array.getElem?_toList] at found
      obtain ⟨offset, foundOffset, placed⟩ := exists_getElem?_of_forall₂ stringsPlaced found
      obtain ⟨entryFound, stands⟩ := holds.strings.entry_map foundOffset .string
      exact string_eq imageFits entryFound stands placed plain
    types := fun {index text} found textFits => by
      rw [← Array.getElem?_toList] at found
      obtain ⟨entryFound, stands⟩ := holds.types.entry_map found .type
      exact typeName_eq_string textFits entryFound stands
    protos := fun {index entry parameterTypes returnType} found returnRead parametersRead => by
      rw [← Array.getElem?_toList] at found
      obtain ⟨item, foundItem, isProto⟩ := exists_getElem?_of_forall₂ protosPlaced found
      obtain ⟨entryFound, stands⟩ := holds.protos.entry foundItem .proto
      exact proto_eq typesFit entryFound stands isProto returnRead parametersRead
    fields := fun {index entry definingClass fieldType name} found classRead typeRead nameRead => by
      rw [← Array.getElem?_toList] at found
      obtain ⟨entryFound, stands⟩ := holds.fields.entry_map found .field
      exact fieldRef_eq typesFit stringsFit entryFound stands classRead typeRead nameRead
    methods := fun {index entry definingClass returnType parameterTypes name} found classRead
        protoRead nameRead => by
      rw [← Array.getElem?_toList] at found
      obtain ⟨entryFound, stands⟩ := holds.methods.entry_map found .method
      exact methodRef_eq typesFit protosFit stringsFit entryFound stands classRead protoRead
        nameRead
    typeTable := sameTypes
    stringsFit := sameStrings ▸ stringsFit
    typesFit := sameTypes ▸ typesFit
    fieldsFit := sameFields ▸ fieldsFit
    methodsFit := sameMethods ▸ methodsFit
    imageFits
  }

end Showing

end Dex

end DexSurface
