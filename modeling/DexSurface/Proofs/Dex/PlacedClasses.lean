import DexSurface.Proofs.Dex.PlacedMembers

namespace DexSurface

namespace Dex

open Dex.Numbering (Settles Denotes)
open Decoder (Reads reads_pure reads_uleb128)
open Layout (Yields yields_pure yields_bind yields_mapM)

/-!
# Class definitions are read back

A class definition names its parts by offsets.  Once all parts stand in the image, the class that is
read at the index of the definition is the one that is meant.
-/

section Head

variable {image : Image} {tables : EntryTables}

/-- An index that may be absent survives its storage as a word. -/
theorem presentIndex?_getD
    {index? : Option Nat}
    (fits : ∀ index ∈ index?, index + 1 < Bytes.span 4) :
    Image.presentIndex? (index?.getD Image.noIndex) = index? := by
  cases index? with
  | none => exact if_pos rfl
  | some index =>
      have bound := fits index rfl
      refine if_neg ?_
      intro isAbsent
      change index = 0xffffffff at isAbsent
      rw [isAbsent] at bound
      exact absurd bound (by decide)

/-- An index that may be absent is read from its word. -/
theorem reads_optionalWord
    {index? : Option Nat}
    (fits : ∀ index ∈ index?, index + 1 < Bytes.span 4) :
    Reads image.bytes Decoder.u32 (Assembly.optionalWord index?)
      (index?.getD Image.noIndex) := by
  apply reads_word
  cases index? with
  | none => decide
  | some index => exact Nat.lt_of_succ_lt (fits index rfl)

/-- What a reader makes of a number that may be absent. -/
structure IsOptionalRead
    (read : Option Nat → Except Error (Option α))
    (index? : Option Nat)
    (value? : Option α) : Prop where
  fits : ∀ index ∈ index?, index + 1 < Bytes.span 4
  reads : read (Image.presentIndex? (index?.getD Image.noIndex)) = .ok value?

/-- The index of a plain type that may be absent is read as this type. -/
theorem isOptionalRead_type
    (shown : image.Shows tables)
    {descriptor? : Option TypeDescriptor}
    {index? : Option Nat}
    (plain : ∀ descriptor ∈ descriptor?, IsPlainType descriptor)
    (settled :
      Option.Rel (fun descriptor index => Settles tables (Numbering.typeName descriptor) index)
        descriptor? index?) :
    IsOptionalRead image.optionalType index? descriptor? := by
  have fits : ∀ index ∈ index?, index + 1 < Bytes.span 4 := by
    rintro index rfl
    cases settled with
    | some isSettled =>
        exact Nat.lt_trans (shown.typeName_succ_lt isSettled) (by decide)
  refine ⟨fits, ?_⟩
  rw [presentIndex?_getD fits]
  rcases settled with ⟨isSettled⟩ | _
  · exact optionalType_eq shown (plain _ rfl) isSettled
  · rfl

/-- The index of a plain text that may be absent is read as this text. -/
theorem isOptionalRead_string
    (shown : image.Shows tables)
    {text? : Option String}
    {index? : Option Nat}
    (plain : ∀ text ∈ text?, IsPlain text)
    (settled :
      Option.Rel (fun text index => Settles tables (Numbering.string text) index)
        text? index?) :
    IsOptionalRead image.optionalString index? text? := by
  have fits : ∀ index ∈ index?, index + 1 < Bytes.span 4 := by
    rintro index rfl
    cases settled with
    | some isSettled => exact shown.string_succ_lt isSettled
  refine ⟨fits, ?_⟩
  rw [presentIndex?_getD fits]
  rcases settled with ⟨isSettled⟩ | _
  · exact optionalString_eq shown (plain _ rfl) isSettled
  · rfl

/-- A class definition whose parts are read gives the head of the class. -/
theorem classHead_eq
    {draft : ClassDraft}
    {typeIndex interfaces annotations data values index offset : Nat}
    {superclass sourceFile : Option Nat}
    (typeFits : typeIndex < Bytes.span 4)
    (typeRead : image.typeName typeIndex = .ok draft.typeName)
    (superclassRead : IsOptionalRead image.optionalType superclass draft.superclass)
    (interfacesRead : IsReadAt image.typeList interfaces draft.interfaces)
    (sourceRead : IsOptionalRead image.optionalString sourceFile draft.sourceFile)
    (annotationsFit : annotations < Bytes.span 4)
    (dataFits : data < Bytes.span 4)
    (valuesFit : values < Bytes.span 4)
    (found : image.tables.classDefs.entry .classDef index 32 = .ok offset)
    (stands : Stands image.bytes offset
      (word typeIndex ++ word draft.flags.toNat ++ Assembly.optionalWord superclass
        ++ word interfaces ++ Assembly.optionalWord sourceFile ++ word annotations ++ word data
        ++ word values)) :
    image.classHead index = .ok {
      typeName := draft.typeName
      flags := draft.flags
      superclass := draft.superclass
      interfaces := draft.interfaces
      sourceFile := draft.sourceFile
      annotationsOffset := annotations
      dataOffset := data
      valuesOffset := values
    } := by
  have sameFlags : draft.flags.toNat.toUInt32 = draft.flags := UInt32.ofNat_toNat
  repeat rw [List.append_assoc] at stands
  rw [Image.classHead, found]
  refine Decoder.runAt_eq_ok ?_ stands
  refine (reads_word typeFits).bind ?_
  refine Reads.lift_bind typeRead ?_
  refine (reads_word draft.flags.toNat_lt).bind ?_
  refine (reads_optionalWord superclassRead.fits).bind ?_
  refine Reads.lift_bind superclassRead.reads ?_
  refine (reads_word interfacesRead.fits).bind ?_
  refine Reads.lift_bind interfacesRead.reads ?_
  refine (reads_optionalWord sourceRead.fits).bind ?_
  refine Reads.lift_bind sourceRead.reads ?_
  refine (reads_word annotationsFit).bind ?_
  refine (reads_word dataFits).bind ?_
  rw [← List.append_nil (word values)]
  refine (reads_word valuesFit).bind ?_
  rw [sameFlags]
  exact reads_pure _

/-- A class is read from its head, its annotations and its members. -/
theorem classRecord_eq
    {index : Nat}
    {head : Image.ClassHead}
    {directory : AnnotationDirectory}
    {fields : List FieldRecord}
    {methods : List MethodRecord}
    (headRead : image.classHead index = .ok head)
    (directoryRead : image.annotationDirectory head.annotationsOffset = .ok directory)
    (membersRead : image.classMembers index head directory = .ok (fields, methods)) :
    image.classRecord index = .ok {
      typeName := head.typeName
      flags := head.flags
      superclass := head.superclass
      interfaces := head.interfaces
      sourceFile := head.sourceFile
      annotations := directory.ofClass
      fields
      methods
    } := by
  simp only [Image.classRecord, headRead, directoryRead, membersRead, bind, Except.bind, pure,
    Except.pure]

end Head

/-- A class definition is read as the class that is meant. -/
structure HoldsClass
    (image : Image)
    (tables : EntryTables)
    (draft : ClassDraft)
    (item : Item) : Prop where
  reads :
    ∀ {index offset : Nat} {place? : Option Nat},
      image.tables.classDefs.entry .classDef index 32 = .ok offset →
      Stands image.bytes offset item →
      image.restrictionFlags index = .ok place? →
      FlagsStand image.bytes draft 0 place? →
      image.classRecord index = .ok (draft.record tables)

section Classes

variable
  {image : Image}
  {tables : EntryTables}
  {start : Nat}
  (shown : image.Shows tables)
  (positive : 0 < start)

include shown positive

/-- The bodies of readable methods are read where they are placed. -/
theorem yields_bodies
    {definingClass : TypeDescriptor}
    {drafts : List MethodDraft}
    {entries : List NumberedMethod}
    (readable : ∀ draft ∈ drafts, draft.IsReadable)
    (denoted : List.Forall₂ (Numbering.DenotesMethod tables definingClass) drafts entries) :
    Yields image.bytes start
      (entries.mapM fun method => Layout.optionalBody method.body)
      (BodiesRead image drafts) := by
  refine yields_mapM (((List.forall₂_and_left _ _).mpr ⟨readable, denoted⟩).imp ?_)
  rintro draft entry ⟨isReadable, isDenoted⟩
  exact yields_optionalBody shown positive isReadable isDenoted.body

/-- The parts of a class are placed so that the class is read back. -/
theorem yields_classEntry
    {draft : ClassDraft}
    {entry : NumberedClass}
    (readable : draft.IsReadable)
    (denoted : Denotes tables draft entry) :
    Yields image.bytes start (Assembly.classEntry entry) (HoldsClass image tables draft) := by
  have typesFit : image.tables.types.size < Bytes.span 2 := by
    rw [shown.typeTable]
    exact shown.typesFit
  have interfacesNamed := shown.typeNames_eq readable.interfaces denoted.interfaces
  refine yields_bind (yields_typeList positive shown.imageFits typesFit _) fun interfaces => ?_
  refine yields_bind (yields_annotationDirectory shown positive readable denoted)
    fun annotations => ?_
  refine yields_bind (yields_staticValues shown positive readable.staticValues
    denoted.staticValues) fun values => ?_
  refine yields_bind (yields_bodies shown positive
    (fun method member => readable.methods method (List.mem_append_left _ member))
    denoted.directMethods) fun directOffsets => ?_
  refine yields_bind (yields_bodies shown positive
    (fun method member => readable.methods method (List.mem_append_right _ member))
    denoted.virtualMethods) fun virtualOffsets => ?_
  refine yields_bind (yields_classData shown positive readable denoted) fun data => ?_
  refine yields_pure fun dataHolds virtualBodies directBodies valuesRead annotationsRead
    interfacesRead => ?_
  have members := dataHolds virtualBodies directBodies
  have interfacesFound := interfacesRead _ interfacesNamed
  refine ⟨fun found stands flagsRead flagsStand => ?_⟩
  rw [denoted.flags] at stands
  have typeFits := Nat.lt_of_succ_lt (shown.typeName_succ_lt denoted.typeIndex)
  have headRead := classHead_eq (Nat.lt_trans typeFits (by decide))
    (shown.typeName_eq readable.typeName denoted.typeIndex)
    (isOptionalRead_type shown readable.superclass denoted.superclass) interfacesFound
    (isOptionalRead_string shown readable.sourceFile denoted.sourceFile)
    annotationsRead.fits members.fits valuesRead.fits found stands
  have isDirectory := isDirectoryOf_directoryOfDraft (nodup_fields readable denoted)
    (nodup_methods readable denoted)
  exact classRecord_eq headRead annotationsRead.reads
    (members.reads rfl valuesRead.reads flagsRead flagsStand isDirectory)

end Classes

end Dex

end DexSurface
