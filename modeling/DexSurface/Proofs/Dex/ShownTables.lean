import DexSurface.Proofs.Dex.DraftMeaning
import DexSurface.Proofs.Dex.StableEntries

namespace DexSurface

namespace Dex

open Dex.Numbering (Settles)

namespace Image

/-!
# Images that show tables

An image shows tables if it answers what their entries say.  In such an image a settled number of a
text, a type, a field or a method is read as what was numbered.
-/

/-- An image answers for every number what the entry of the tables at that number says. -/
structure Shows (image : Image) (tables : EntryTables) : Prop where
  strings :
    ∀ {index : Nat} {text : String},
      tables.strings[index]? = some text → IsPlain text → image.string index = .ok text
  types :
    ∀ {index text : Nat},
      tables.types[index]? = some text → text < Bytes.span 4 →
      image.typeName index = image.string text
  protos :
    ∀ {index : Nat} {entry : ProtoEntry} {parameterTypes : List TypeDescriptor}
      {returnType : TypeDescriptor},
      tables.protos[index]? = some entry →
      image.typeName entry.returnType = .ok returnType →
      List.Forall₂ (fun index descriptor => image.typeName index = .ok descriptor)
        entry.parameterTypes parameterTypes →
      image.proto index = .ok (parameterTypes, returnType)
  fields :
    ∀ {index : Nat} {entry : MemberEntry} {definingClass fieldType : TypeDescriptor}
      {name : String},
      tables.fields[index]? = some entry →
      image.typeName entry.definingClass = .ok definingClass →
      image.typeName entry.shape = .ok fieldType →
      image.string entry.name = .ok name →
      image.fieldRef index = .ok { definingClass, name, fieldType }
  methods :
    ∀ {index : Nat} {entry : MemberEntry} {definingClass returnType : TypeDescriptor}
      {parameterTypes : List TypeDescriptor} {name : String},
      tables.methods[index]? = some entry →
      image.typeName entry.definingClass = .ok definingClass →
      image.proto entry.shape = .ok (parameterTypes, returnType) →
      image.string entry.name = .ok name →
      image.methodRef index = .ok { definingClass, name, parameterTypes, returnType }
  typeTable : image.tables.types.size = tables.types.size
  stringsFit : tables.strings.size < Bytes.span 4
  typesFit : tables.types.size < Bytes.span 2
  fieldsFit : tables.fields.size < Bytes.span 4
  methodsFit : tables.methods.size < Bytes.span 4
  imageFits : image.bytes.size < Bytes.span 4

/-! An entry that is read is in its table. -/

/-- An entry that is found has an index inside the table. -/
theorem lt_of_entry_eq_ok
    {table : Table}
    {kind : TableKind}
    {index entrySize offset : Nat}
    (found : table.entry kind index entrySize = .ok offset) :
    index < table.size := by
  rw [Table.entry] at found
  split at found
  · next inRange => exact inRange
  · cases found

/-- A type that is read has an index inside the type table. -/
theorem lt_of_typeName_eq_ok
    {image : Image}
    {index : Nat}
    {descriptor : TypeDescriptor}
    (isRead : image.typeName index = .ok descriptor) :
    index < image.tables.types.size := by
  rw [typeName] at isRead
  cases found : image.tables.types.entry .type index 4 with
  | error failure =>
      rw [found] at isRead
      cases isRead
  | ok entry => exact lt_of_entry_eq_ok found

/-- A string that is read has an index inside the string table. -/
theorem lt_of_string_eq_ok
    {image : Image}
    {index : Nat}
    {text : String}
    (isRead : image.string index = .ok text) :
    index < image.tables.strings.size := by
  rw [string] at isRead
  cases found : image.tables.strings.entry .string index 4 with
  | error failure =>
      rw [found] at isRead
      cases isRead
  | ok entry => exact lt_of_entry_eq_ok found

/-- A prototype that is read has an index inside the prototype table. -/
theorem lt_of_proto_eq_ok
    {image : Image}
    {index : Nat}
    {shape : List TypeDescriptor × TypeDescriptor}
    (isRead : image.proto index = .ok shape) :
    index < image.tables.protos.size := by
  rw [proto] at isRead
  cases found : image.tables.protos.entry .proto index 12 with
  | error failure =>
      rw [found] at isRead
      cases isRead
  | ok entry => exact lt_of_entry_eq_ok found

/-- The index of an entry is by more than one below a limit that the table is below. -/
theorem succ_lt_of_getElem?_eq_some
    {table : Array α}
    {index limit : Nat}
    {entry : α}
    (fits : table.size < limit)
    (found : table[index]? = some entry) :
    index + 1 < limit := by
  have inRange := (Array.getElem?_eq_some_iff.mp found).1
  omega

namespace Shows

variable {image : Image} {tables : EntryTables} {index : Nat}

/-! Settled numbers fit the fields in which they are stored, also when they are stored plus one. -/

/-- The settled number of a string can be stored one higher. -/
theorem string_succ_lt
    (shown : image.Shows tables)
    {text : String}
    (settled : Settles tables (Numbering.string text) index) :
    index + 1 < Bytes.span 4 :=
  succ_lt_of_getElem?_eq_some shown.stringsFit (Numbering.getElem?_of_settles_string settled)

/-- The settled number of a type can be stored one higher. -/
theorem typeName_succ_lt
    (shown : image.Shows tables)
    {descriptor : TypeDescriptor}
    (settled : Settles tables (Numbering.typeName descriptor) index) :
    index + 1 < Bytes.span 2 := by
  obtain ⟨text, isType, -⟩ := Numbering.exists_of_settles_typeName settled
  exact succ_lt_of_getElem?_eq_some shown.typesFit isType

/-- The settled number of a field can be stored one higher. -/
theorem field_succ_lt
    (shown : image.Shows tables)
    {reference : FieldRef}
    (settled : Settles tables (Numbering.field reference) index) :
    index + 1 < Bytes.span 4 := by
  obtain ⟨entry, isField, -⟩ := Numbering.exists_of_settles_field settled
  exact succ_lt_of_getElem?_eq_some shown.fieldsFit isField

/-- The settled number of a method can be stored one higher. -/
theorem method_succ_lt
    (shown : image.Shows tables)
    {reference : MethodRef}
    (settled : Settles tables (Numbering.method reference) index) :
    index + 1 < Bytes.span 4 := by
  obtain ⟨entry, isMethod, -⟩ := Numbering.exists_of_settles_method settled
  exact succ_lt_of_getElem?_eq_some shown.methodsFit isMethod

/-! Settled numbers are read as what was numbered. -/

/-- The settled number of a plain text is read as the text. -/
theorem string_eq
    (shown : image.Shows tables)
    {text : String}
    (plain : IsPlain text)
    (settled : Settles tables (Numbering.string text) index) :
    image.string index = .ok text :=
  shown.strings (Numbering.getElem?_of_settles_string settled) plain

/-- The settled number of a plain type is read as the type. -/
theorem typeName_eq
    (shown : image.Shows tables)
    {descriptor : TypeDescriptor}
    (plain : IsPlainType descriptor)
    (settled : Settles tables (Numbering.typeName descriptor) index) :
    image.typeName index = .ok descriptor := by
  obtain ⟨text, isType, isText⟩ := Numbering.exists_of_settles_typeName settled
  have textFits := Nat.lt_of_succ_lt (succ_lt_of_getElem?_eq_some shown.stringsFit isText)
  rw [shown.types isType textFits, shown.strings isText plain.plain]

/-- The settled numbers of plain types are read as the types. -/
theorem typeNames_eq
    (shown : image.Shows tables)
    {descriptors : List TypeDescriptor}
    {indices : List Nat}
    (plain : ∀ descriptor ∈ descriptors, IsPlainType descriptor)
    (settled : Settles tables (descriptors.mapM Numbering.typeName) indices) :
    List.Forall₂ (fun index descriptor => image.typeName index = .ok descriptor)
      indices descriptors := by
  rw [Numbering.settles_listMapM_iff fun descriptor _ =>
    Numbering.isStable_typeName descriptor] at settled
  have shownEach :
      List.Forall₂ (fun descriptor index => image.typeName index = .ok descriptor)
        descriptors indices := by
    refine ((List.forall₂_and_left _ _).mpr ⟨plain, settled⟩).imp ?_
    rintro descriptor index ⟨isPlain, isSettled⟩
    exact shown.typeName_eq isPlain isSettled
  exact shownEach.flip

/-- The settled number of a plain field is read as the field. -/
theorem fieldRef_eq
    (shown : image.Shows tables)
    {reference : FieldRef}
    (plain : IsPlainField reference)
    (settled : Settles tables (Numbering.field reference) index) :
    image.fieldRef index = .ok reference := by
  obtain ⟨entry, isField, classSettled, shapeSettled, nameSettled⟩ :=
    Numbering.exists_of_settles_field settled
  exact shown.fields isField (shown.typeName_eq plain.definingClass classSettled)
    (shown.typeName_eq plain.fieldType shapeSettled) (shown.string_eq plain.name nameSettled)

/-- The settled number of a plain method is read as the method. -/
theorem methodRef_eq
    (shown : image.Shows tables)
    {reference : MethodRef}
    (plainClass : IsPlainType reference.definingClass)
    (plainName : IsPlain reference.name)
    (plainParameters : ∀ descriptor ∈ reference.parameterTypes, IsPlainType descriptor)
    (plainReturn : IsPlainType reference.returnType)
    (settled : Settles tables (Numbering.method reference) index) :
    image.methodRef index = .ok reference := by
  obtain ⟨entry, isMethod, classSettled, shapeSettled, nameSettled⟩ :=
    Numbering.exists_of_settles_method settled
  obtain ⟨shape, isProto, returnSettled, parametersSettled⟩ :=
    Numbering.exists_of_settles_proto shapeSettled
  have shapeShown := shown.protos isProto (shown.typeName_eq plainReturn returnSettled)
    (shown.typeNames_eq plainParameters parametersSettled)
  exact shown.methods isMethod (shown.typeName_eq plainClass classSettled) shapeShown
    (shown.string_eq plainName nameSettled)

end Shows

end Image

end Dex

end DexSurface
