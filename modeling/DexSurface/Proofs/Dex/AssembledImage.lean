import DexSurface.Proofs.Dex.HeaderReading

namespace DexSurface

namespace Dex

open Layout (Always always_pure always_bind always_mapM Yields yields_pure yields_bind yields_mapM)
open Dex.Numbering (Denotes)

/-!
# What stands in an assembled image

The tables stand behind the header in the order in which it names them, each as long as its entries
are, and the data stand behind the tables.  Whatever placing the data yields therefore holds of the
assembled image.
-/

/-- The table that stands behind a table with entries of a width. -/
def Table.after (table : Table) (width size : Nat) : Table where
  size
  offset := table.offset + table.size * width

namespace Assembly

/-- The tables of an assembled image. -/
def indexTables (tables : EntryTables) (classCount : Nat) : Tables :=
  let strings : Table := { size := tables.strings.size, offset := Image.headerSize }
  let types := strings.after 4 tables.types.size
  let protos := types.after 4 tables.protos.size
  let fields := protos.after 12 tables.fields.size
  let methods := fields.after 8 tables.methods.size
  { strings, types, protos, fields, methods, classDefs := methods.after 8 classCount }

/-- The offset at which the data of an assembled image start. -/
def dataStart (tables : EntryTables) (classCount : Nat) : Nat :=
  (indexTables tables classCount).classDefs.offset + classCount * 32

/-- The bytes of an assembled image before its data. -/
def indexOf (tables : EntryTables) (classCount fileSize : Nat) (placed : Placed) : Item :=
  header fileSize placed.map (dataStart tables classCount)
      ((indexTables tables classCount).inOrder.map Table.place)
    ++ placed.strings.flatMap word
    ++ tables.types.toList.flatMap word
    ++ placed.protos.flatten
    ++ tables.fields.toList.flatMap memberEntry
    ++ tables.methods.toList.flatMap memberEntry
    ++ placed.classes.flatten

/-- An image is its index followed by the data that were placed. -/
theorem imageOf_eq
    {tables : EntryTables}
    {classes : List NumberedClass}
    {placed : Placed}
    {data : ByteArray}
    (run : placeData tables classes (dataStart tables classes.length) .empty = (placed, data)) :
    imageOf tables classes =
      (indexOf tables classes.length (dataStart tables classes.length + data.size)
        placed).toByteArray ++ data := by
  have sameRun :
      ((placeData tables classes).run
          (dataOffset Image.headerSize (entryCounts tables classes.length) entrySizes)).run .empty =
        (placed, data) :=
    run
  rw [imageOf, sameRun]
  rfl

/-! The tables are as long as the header says. -/

/-- What is placed has as many table entries as there are entries. -/
structure IsCounted (tables : EntryTables) (classCount : Nat) (placed : Placed) : Prop where
  strings : placed.strings.length = tables.strings.size
  protos : placed.protos.length = tables.protos.size
  protoWidth : ∀ item ∈ placed.protos, item.length = 12
  classes : placed.classes.length = classCount
  classWidth : ∀ item ∈ placed.classes, item.length = 32

/-- Placing data yields as many table entries as there are entries. -/
theorem always_placeData (tables : EntryTables) (classes : List NumberedClass) :
    Always (placeData tables classes) (IsCounted tables classes.length) := by
  refine always_bind (always_mapM _ fun _ => Layout.grows_place _) fun strings stringsCounted => ?_
  refine always_bind (always_mapM _ always_protoEntry) fun protos protosCounted => ?_
  refine always_bind (always_mapM _ always_classEntry) fun classItems classesCounted => ?_
  refine always_bind (grows_placeRestrictions _) fun _ _ => ?_
  refine always_bind (grows_placeMap _) fun _ _ => always_pure ?_
  exact ⟨stringsCounted.1, protosCounted.1, protosCounted.2, classesCounted.1, classesCounted.2⟩

section Index

variable
  {tables : EntryTables}
  {classCount fileSize : Nat}
  {placed : Placed}
  (isCounted : IsCounted tables classCount placed)

include isCounted

/-- The string table has four bytes for each string. -/
theorem length_strings :
    (placed.strings.flatMap word).length = tables.strings.size * 4 := by
  rw [length_flatMap_of_same fun offset _ => length_word offset, isCounted.strings]

omit isCounted in
/-- The type table has four bytes for each type. -/
theorem length_types : (tables.types.toList.flatMap word).length = tables.types.size * 4 := by
  rw [length_flatMap_of_same fun text _ => length_word text, Array.length_toList]

omit isCounted in
/-- A member table has eight bytes for each member. -/
theorem length_members (entries : Array MemberEntry) :
    (entries.toList.flatMap memberEntry).length = entries.size * 8 := by
  rw [length_flatMap_of_same fun entry _ => length_memberEntry entry, Array.length_toList]

/-- The prototype table has twelve bytes for each prototype. -/
theorem length_protos : placed.protos.flatten.length = tables.protos.size * 12 := by
  rw [length_flatten_of_same isCounted.protoWidth, isCounted.protos]

/-- The class table has thirty-two bytes for each class. -/
theorem length_classes : placed.classes.flatten.length = classCount * 32 := by
  rw [length_flatten_of_same isCounted.classWidth, isCounted.classes]

/-- The index of an image ends where its data start. -/
theorem length_indexOf :
    (indexOf tables classCount fileSize placed).length = dataStart tables classCount := by
  simp only [indexOf, List.length_append, length_header, length_strings isCounted, length_types,
    length_members, length_protos isCounted, length_classes isCounted]
  rfl

/-- The bytes of the index end where the data start. -/
theorem size_indexOf :
    (indexOf tables classCount fileSize placed).toByteArray.size =
      dataStart tables classCount := by
  rw [List.size_toByteArray, length_indexOf isCounted]

/-- The tables stand where the header says. -/
theorem holdsTables_of_stands
    {image : Image}
    (sameTables : image.tables = indexTables tables classCount)
    (stands : Stands image.bytes 0 (indexOf tables classCount fileSize placed)) :
    HoldsTables image tables placed.strings placed.protos
      ∧ image.tables.classDefs.Holds image.bytes 32 placed.classes := by
  have classesStand := stands.right
  have methodsStand := stands.left.right
  have fieldsStand := stands.left.left.right
  have protosStand := stands.left.left.left.right
  have typesStand := stands.left.left.left.left.right
  have stringsStand := stands.left.left.left.left.left.right
  simp only [List.length_append, length_header, length_strings isCounted, length_types,
    length_members, length_protos isCounted, Nat.zero_add]
    at stringsStand typesStand protosStand fieldsStand methodsStand classesStand
  rw [sameTables]
  exact ⟨{
    strings := by
      rw [sameTables]
      exact Table.holds_map isCounted.strings.symm length_word stringsStand
    types := by
      rw [sameTables]
      exact Table.holds_map Array.length_toList.symm length_word typesStand
    protos := by
      rw [sameTables]
      exact ⟨isCounted.protos.symm, isCounted.protoWidth, protosStand⟩
    fields := by
      rw [sameTables]
      exact Table.holds_map Array.length_toList.symm length_memberEntry fieldsStand
    methods := by
      rw [sameTables]
      exact Table.holds_map Array.length_toList.symm length_memberEntry methodsStand
  }, isCounted.classes.symm, isCounted.classWidth, classesStand⟩

end Index

/-! What placing the data yields. -/

section Data

variable
  {image : Image}
  {tables : EntryTables}
  {classes : List NumberedClass}
  {start : Nat}
  (positive : 0 < start)

include positive

/-- The map leads to the section of restriction flags. -/
theorem yields_map
    {bytes : ByteArray}
    (fits : bytes.size < Bytes.span 4)
    (tables : EntryTables)
    (classes : List NumberedClass) :
    Yields bytes start (placeData tables classes) fun placed =>
      ∃ section?,
        HoldsRestrictions bytes (classes.map (·.restrictions)) section?
          ∧ ∃ offset, IsPlaced bytes placed.map (mapBytes section? offset) := by
  refine yields_bind ((Layout.grows_mapM _ fun _ => Layout.grows_place _).yields bytes start)
    fun strings => ?_
  refine yields_bind ((always_mapM _ always_protoEntry).grows.yields bytes start)
    fun protos => ?_
  refine yields_bind ((always_mapM _ always_classEntry).grows.yields bytes start)
    fun classItems => ?_
  refine yields_bind (yields_placeRestrictions positive fits _) fun section? => ?_
  refine yields_bind (yields_placeMap positive fits section?) fun map => ?_
  exact yields_pure fun mapPlaced restrictionsHold _ _ _ =>
    ⟨section?, restrictionsHold, mapPlaced⟩

/-- The strings and the parameter lists stand where the tables say. -/
theorem yields_entries
    (fits : image.bytes.size < Bytes.span 4)
    (typesFit : image.tables.types.size < Bytes.span 2)
    (tables : EntryTables)
    (classes : List NumberedClass) :
    Yields image.bytes start (placeData tables classes) fun placed =>
      List.Forall₂ (fun text offset => IsPlaced image.bytes offset (stringItem text))
          tables.strings.toList placed.strings
        ∧ List.Forall₂ (HoldsProto image) tables.protos.toList placed.protos := by
  refine yields_bind (yields_strings positive fits _) fun strings => ?_
  refine yields_bind (yields_protos positive fits typesFit _) fun protos => ?_
  refine yields_bind ((always_mapM _ always_classEntry).grows.yields _ start)
    fun classItems => ?_
  refine yields_bind ((grows_placeRestrictions _).yields _ start) fun section? => ?_
  refine yields_bind ((grows_placeMap _).yields _ start) fun map => ?_
  exact yields_pure fun _ _ _ protosHold stringsPlaced => ⟨stringsPlaced, protosHold⟩

/-- The classes are read as what the drafts mean. -/
theorem yields_classes
    {drafts : List ClassDraft}
    (shown : image.Shows tables)
    (readable : ∀ draft ∈ drafts, draft.IsReadable)
    (denoted : List.Forall₂ (Denotes tables) drafts classes) :
    Yields image.bytes start (placeData tables classes) fun placed =>
      List.Forall₂ (HoldsClass image tables) drafts placed.classes := by
  have yieldsClasses :
      Yields image.bytes start (classes.mapM classEntry)
        (List.Forall₂ (HoldsClass image tables) drafts) := by
    refine yields_mapM (((List.forall₂_and_left _ _).mpr ⟨readable, denoted⟩).imp ?_)
    rintro draft entry ⟨isReadable, isDenoted⟩
    exact yields_classEntry shown positive isReadable isDenoted
  refine yields_bind ((Layout.grows_mapM _ fun _ => Layout.grows_place _).yields _ start)
    fun strings => ?_
  refine yields_bind ((always_mapM _ always_protoEntry).grows.yields _ start) fun protos => ?_
  refine yields_bind yieldsClasses fun classItems => ?_
  refine yields_bind ((grows_placeRestrictions _).yields _ start) fun section? => ?_
  refine yields_bind ((grows_placeMap _).yields _ start) fun map => ?_
  exact yields_pure fun _ _ classesHold _ _ => classesHold

end Data

/-- An assembled image starts with its index, and all that was placed stands behind it. -/
theorem exists_placed (tables : EntryTables) (classes : List NumberedClass) :
    ∃ fileSize placed,
      IsCounted tables classes.length placed
        ∧ Stands (imageOf tables classes) 0 (indexOf tables classes.length fileSize placed)
        ∧ ∀ holds,
          Yields (imageOf tables classes) (dataStart tables classes.length)
            (placeData tables classes) holds →
          holds placed := by
  have always := always_placeData tables classes (dataStart tables classes.length) .empty
  cases run : placeData tables classes (dataStart tables classes.length) .empty with
  | mk placed data =>
      rw [run] at always
      obtain ⟨-, -, (isCounted : IsCounted tables classes.length placed)⟩ := always
      refine ⟨dataStart tables classes.length + data.size, placed, isCounted, ?_,
        fun holds yields => ?_⟩
      · rw [imageOf_eq run]
        exact stands_toByteArray_append _ data
      · obtain ⟨more, grown, isHeld⟩ := yields .empty
        rw [run] at grown isHeld
        apply isHeld
        obtain rfl : data = more.toByteArray := grown.trans ByteArray.empty_append
        have stands := stands_of_append (indexOf tables classes.length
          (dataStart tables classes.length + (more.toByteArray).size) placed).toByteArray more
        rw [size_indexOf isCounted] at stands
        rw [imageOf_eq run]
        exact stands

end Assembly

end Dex

end DexSurface
