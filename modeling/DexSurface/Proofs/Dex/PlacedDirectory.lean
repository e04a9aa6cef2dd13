import Mathlib.Data.List.Nodup
import Std.Data.TreeMap.Lemmas
import DexSurface.Proofs.Dex.PlacedItems
import DexSurface.Proofs.GivenValues

namespace DexSurface

namespace Dex

open Dex.Numbering (Settles Denotes DenotesField DenotesMethod)
open Decoder (Reads reads_pure)
open Layout (Yields yields_pure yields_bind yields_mapM yields_place yields_placeAligned)

/-!
# The annotation directory of a class is read back

Members are named in a directory by their numbers.  Different members of a class have different
numbers, so every member finds its own annotations.
-/

namespace EntryTables

variable {tables : EntryTables} {definingClass : TypeDescriptor}

/-- The number of a field is settled. -/
def NumbersField
    (tables : EntryTables)
    (definingClass : TypeDescriptor)
    (draft : FieldDraft) : Prop :=
  Settles tables (Numbering.field (draft.reference definingClass))
    (tables.fieldNumber definingClass draft)

/-- The number of a method is settled. -/
def NumbersMethod
    (tables : EntryTables)
    (definingClass : TypeDescriptor)
    (draft : MethodDraft) : Prop :=
  Settles tables (Numbering.method (draft.reference definingClass))
    (tables.methodNumber definingClass draft)

/-- The number of a field is the index of the entry that denotes it. -/
theorem fieldNumber_eq
    {draft : FieldDraft}
    {entry : NumberedField}
    (denoted : DenotesField tables definingClass draft entry) :
    tables.fieldNumber definingClass draft = entry.index :=
  congrArg Prod.fst denoted.index

/-- The number of a field that an entry denotes is settled. -/
theorem numbersField_of_denotes
    {draft : FieldDraft}
    {entry : NumberedField}
    (denoted : DenotesField tables definingClass draft entry) :
    tables.NumbersField definingClass draft := by
  rw [NumbersField, fieldNumber_eq denoted]
  exact denoted.index

/-- The number of a method is the index of the entry that denotes it. -/
theorem methodNumber_eq
    {draft : MethodDraft}
    {entry : NumberedMethod}
    (denoted : DenotesMethod tables definingClass draft entry) :
    tables.methodNumber definingClass draft = entry.index :=
  congrArg Prod.fst denoted.index

/-- The number of a method that an entry denotes is settled. -/
theorem numbersMethod_of_denotes
    {draft : MethodDraft}
    {entry : NumberedMethod}
    (denoted : DenotesMethod tables definingClass draft entry) :
    tables.NumbersMethod definingClass draft := by
  rw [NumbersMethod, methodNumber_eq denoted]
  exact denoted.index

/-- Elements with different keys have different numbers, if equal numbers mean equal keys. -/
theorem nodup_map_of_nodup_map
    {elements : List α}
    {key : α → β}
    {number : α → γ}
    (distinct : (elements.map key).Nodup)
    (sameKey : ∀ first ∈ elements, ∀ second ∈ elements,
      number first = number second → key first = key second) :
    (elements.map number).Nodup := by
  apply List.Nodup.map_on _ distinct.of_map
  intro first firstMember second secondMember sameNumber
  exact List.inj_on_of_nodup_map distinct firstMember secondMember
    (sameKey first firstMember second secondMember sameNumber)

/-- Fields of a class with different names or types have different numbers. -/
theorem nodup_fieldNumbers
    {drafts : List FieldDraft}
    (numbered : ∀ draft ∈ drafts, tables.NumbersField definingClass draft)
    (distinct : (drafts.map fun draft => (draft.name, draft.fieldType)).Nodup) :
    (drafts.map (tables.fieldNumber definingClass)).Nodup := by
  apply nodup_map_of_nodup_map distinct
  intro first firstMember second secondMember sameNumber
  have firstNumbered := numbered first firstMember
  have secondNumbered := numbered second secondMember
  rw [NumbersField, sameNumber] at firstNumbered
  have sameReference := Numbering.eq_of_settles_field firstNumbered secondNumbered
  obtain ⟨-, sameName, sameType⟩ := FieldRef.mk.inj sameReference
  exact Prod.ext sameName sameType

/-- Methods of a class with different names or prototypes have different numbers. -/
theorem nodup_methodNumbers
    {drafts : List MethodDraft}
    (numbered : ∀ draft ∈ drafts, tables.NumbersMethod definingClass draft)
    (distinct :
      (drafts.map fun draft => (draft.name, draft.parameterTypes, draft.returnType)).Nodup) :
    (drafts.map (tables.methodNumber definingClass)).Nodup := by
  apply nodup_map_of_nodup_map distinct
  intro first firstMember second secondMember sameNumber
  have firstNumbered := numbered first firstMember
  have secondNumbered := numbered second secondMember
  rw [NumbersMethod, sameNumber] at firstNumbered
  have sameReference := Numbering.eq_of_settles_method firstNumbered secondNumbered
  obtain ⟨-, sameName, sameParameters, sameReturn⟩ := MethodRef.mk.inj sameReference
  exact Prod.ext sameName (Prod.ext sameParameters sameReturn)

end EntryTables

/-! Maps that are filled entry by entry. -/

/-- What was stored for elements with different numbers is found at the number of each. -/
theorem getD_foldl_insert_map
    {members : List α}
    {number : α → Nat}
    {value : α → β}
    {listed : α → Bool}
    {fallback : β}
    (distinct : (members.map number).Nodup)
    (unlisted : ∀ element ∈ members, listed element = false → value element = fallback)
    {element : α}
    (member : element ∈ members) :
    (((members.filter listed).map fun element => (number element, value element)).foldl
        (fun directory entry => directory.insert entry.1 entry.2)
        (∅ : Std.TreeMap Nat β)).getD (number element) fallback =
      value element := by
  rw [← Std.TreeMap.insertMany_list_equiv_foldl.getD_eq]
  cases isListed : listed element with
  | true =>
      apply Std.TreeMap.getD_insertMany_list_of_mem (Nat.compare_eq_eq.mpr rfl)
      · have fewer : (members.filter listed).Sublist members := List.filter_sublist
        have distinctListed := distinct.sublist (fewer.map number)
        rw [List.pairwise_map]
        refine (List.pairwise_map.mp distinctListed).imp ?_
        intro first second different same
        exact different (Nat.compare_eq_eq.mp same)
      · exact List.mem_map_of_mem (List.mem_filter.mpr ⟨member, isListed⟩)
  | false =>
      rw [Std.TreeMap.getD_insertMany_list_of_contains_eq_false]
      · rw [unlisted element member isListed]
        exact Std.TreeMap.getD_emptyc
      · rw [List.contains_eq_mem, decide_eq_false_iff_not, List.map_map]
        intro isStored
        obtain ⟨other, inListed, sameNumber⟩ := List.mem_map.mp isStored
        obtain ⟨otherMember, otherListed⟩ := List.mem_filter.mp inListed
        obtain rfl := List.inj_on_of_nodup_map distinct otherMember member sameNumber
        rw [isListed] at otherListed
        cases otherListed

section Directory

variable {image : Image} {tables : EntryTables} {start offset : Nat}

/-- An entry of a directory names a number and an offset at which a value is read. -/
structure IsEntry
    (read : Nat → Except Error α)
    (number : Nat)
    (value : α)
    (entry : Nat × Nat) : Prop where
  isNamed : entry.1 = number
  fits : number < Bytes.span 4
  isRead : IsReadAt read entry.2 value

/-- An entry of a directory has eight bytes. -/
@[simp]
theorem length_directoryEntry (entry : Nat × Nat) : (Layout.directoryEntry entry).length = 8 := by
  simp [Layout.directoryEntry]

/-- Entries are read as the map of what stands at their offsets. -/
theorem reads_directoryEntries
    {read : Nat → Except Error α}
    {number : β → Nat}
    {value : β → α}
    {drafts : List β}
    {entries : List (Nat × Nat)}
    (named : List.Forall₂ (fun draft entry => IsEntry read (number draft) (value draft) entry)
      drafts entries) :
    Reads image.bytes (Image.directoryEntries entries.length read)
      (entries.flatMap Layout.directoryEntry)
      ((drafts.map fun draft => (number draft, value draft)).foldl
        (fun directory entry => directory.insert entry.1 entry.2) ∅) := by
  have readEach :
      List.Forall₂
        (fun entry pair =>
          Reads image.bytes
            (do
              let index ← Decoder.u32
              let offset ← Decoder.u32
              return (index, ← read offset))
            (Layout.directoryEntry entry) pair)
        entries (drafts.map fun draft => (number draft, value draft)) := by
    rw [List.forall₂_map_right_iff]
    refine named.flip.imp ?_
    intro entry draft (isEntry : IsEntry read (number draft) (value draft) entry)
    rw [← isEntry.isNamed]
    refine (reads_word ?_).bind ?_
    · rw [isEntry.isNamed]
      exact isEntry.fits
    · rw [← List.append_nil (word entry.2)]
      refine (reads_word isEntry.isRead.fits).bind ?_
      exact Reads.lift_bind isEntry.isRead.reads (reads_pure _)
  exact (reads_times_flatMap readEach).bind_pure _

/-- Filtering related lists alike keeps them related. -/
theorem forall₂_filter
    {related : α → β → Prop}
    {keepFirst : α → Bool}
    {keepSecond : β → Bool}
    {first : List α}
    {second : List β}
    (relates : List.Forall₂
      (fun element other => keepFirst element = keepSecond other ∧ related element other)
      first second) :
    List.Forall₂ related (first.filter keepFirst) (second.filter keepSecond) := by
  refine (List.rel_filter ?_ relates).imp fun element other both => both.2
  rintro element other ⟨sameKept, -⟩
  change keepFirst element = true ↔ keepSecond other = true
  rw [sameKept]

/-- The listed elements are placed and named by their numbers. -/
theorem yields_entries
    {read : Nat → Except Error α}
    {listed : β → Bool}
    {number : β → Nat}
    {value : β → α}
    {stored : γ → Bool}
    {index : γ → Nat}
    {place : γ → Layout Nat}
    {drafts : List β}
    {elements : List γ}
    (yields :
      List.Forall₂
        (fun draft element =>
          listed draft = stored element
            ∧ index element = number draft
            ∧ number draft < Bytes.span 4
            ∧ Yields image.bytes start (place element) fun offset =>
                IsReadAt read offset (value draft))
        drafts elements) :
    Yields image.bytes start
      ((elements.filter stored).mapM fun element => do
        return (index element, ← place element))
      (List.Forall₂ (fun draft entry => IsEntry read (number draft) (value draft) entry)
        (drafts.filter listed)) := by
  refine yields_mapM ((forall₂_filter yields).imp ?_)
  rintro draft element ⟨sameIndex, fits, placed⟩
  refine yields_bind placed fun offset => ?_
  exact yields_pure fun isRead => ⟨sameIndex, fits, isRead⟩

/-- A directory holds the annotations of a class and those of its members by their numbers. -/
structure IsDirectoryOf
    (tables : EntryTables)
    (draft : ClassDraft)
    (directory : AnnotationDirectory) : Prop where
  ofClass : directory.ofClass = notes draft.annotations
  ofFields :
    ∀ field ∈ draft.fields,
      directory.ofFields.getD (tables.fieldNumber draft.typeName field) [] =
        notes field.annotations
  ofMethods :
    ∀ method ∈ draft.methods,
      directory.ofMethods.getD (tables.methodNumber draft.typeName method) [] =
        notes method.annotations
  ofParameters :
    ∀ method ∈ draft.methods,
      directory.ofParameters.getD (tables.methodNumber draft.typeName method) [] =
        method.parameterAnnotations.map notes

/-- The fields of an entry denote those of its class, static ones first. -/
theorem forall₂_fields
    {draft : ClassDraft}
    {entry : NumberedClass}
    (denoted : Denotes tables draft entry) :
    List.Forall₂ (DenotesField tables draft.typeName) draft.fields entry.fields :=
  List.rel_append denoted.staticFields denoted.instanceFields

/-- The methods of an entry denote those of its class, direct ones first. -/
theorem forall₂_methods
    {draft : ClassDraft}
    {entry : NumberedClass}
    (denoted : Denotes tables draft entry) :
    List.Forall₂ (DenotesMethod tables draft.typeName) draft.methods entry.methods :=
  List.rel_append denoted.directMethods denoted.virtualMethods

/-! Which members a directory lists. -/

/-- Of two related lists both are empty, or none is. -/
theorem isEmpty_eq_of_forall₂
    {related : α → β → Prop}
    {first : List α}
    {second : List β}
    (relates : List.Forall₂ related first second) :
    first.isEmpty = second.isEmpty := by
  cases relates <;> rfl

/-- Lists that are filtered alike both keep something, or none does. -/
theorem filter_eq_nil_of_forall₂
    {keepFirst : α → Bool}
    {keepSecond : β → Bool}
    {first : List α}
    {second : List β}
    (sameKept : List.Forall₂ (fun element other => keepFirst element = keepSecond other)
      first second)
    (isEmpty : (second.filter keepSecond).isEmpty = true) :
    first.filter keepFirst = [] := by
  have kept : List.Forall₂ (fun _ _ => True) (first.filter keepFirst)
      (second.filter keepSecond) :=
    forall₂_filter (sameKept.imp fun element other same => ⟨same, trivial⟩)
  rw [← isEmpty_eq_of_forall₂ kept, List.isEmpty_iff] at isEmpty
  exact isEmpty

/-- A list that counts as empty has no elements. -/
theorem eq_nil_of_not_isEmpty {elements : List α} (unlisted : (!elements.isEmpty) = false) :
    elements = [] := by
  rw [Bool.not_eq_false', List.isEmpty_iff] at unlisted
  exact unlisted

/-- A field has annotations of its own. -/
def fieldHasNotes (draft : FieldDraft) : Bool :=
  !draft.annotations.isEmpty

/-- A method has annotations of its own. -/
def methodHasNotes (draft : MethodDraft) : Bool :=
  !draft.annotations.isEmpty

/-- A method has annotations of its parameters. -/
def hasParameterNotes (draft : MethodDraft) : Bool :=
  !draft.parameterAnnotations.isEmpty

section Listed

variable
  {definingClass : TypeDescriptor}
  (shown : image.Shows tables)
  (positive : 0 < start)

include shown positive

/-- The entries of a directory for fields are read where they are placed. -/
theorem yields_fieldEntries
    {drafts : List FieldDraft}
    {entries : List NumberedField}
    (readable : ∀ draft ∈ drafts, draft.IsReadable)
    (denoted : List.Forall₂ (DenotesField tables definingClass) drafts entries) :
    Yields image.bytes start
      ((entries.filter fun field => !field.annotations.isEmpty).mapM fun field => do
        return (field.index, ← Layout.annotationSet field.annotations))
      (List.Forall₂
        (fun draft entry =>
          IsEntry image.annotationSet (tables.fieldNumber definingClass draft)
            (notes draft.annotations) entry)
        (drafts.filter fieldHasNotes)) := by
  refine yields_entries (((List.forall₂_and_left _ _).mpr ⟨readable, denoted⟩).imp ?_)
  rintro draft entry ⟨isReadable, isDenoted⟩
  have sameNumber := EntryTables.fieldNumber_eq isDenoted
  refine ⟨?_, sameNumber.symm, ?_, ?_⟩
  · rw [fieldHasNotes, isEmpty_eq_of_forall₂ isDenoted.annotations]
  · rw [sameNumber]
    exact Nat.lt_of_succ_lt (shown.field_succ_lt isDenoted.index)
  · exact yields_annotationSet shown positive isReadable.annotations isDenoted.annotations

/-- The entries of a directory for methods are read where they are placed. -/
theorem yields_methodEntries
    {drafts : List MethodDraft}
    {entries : List NumberedMethod}
    (readable : ∀ draft ∈ drafts, draft.IsReadable)
    (denoted : List.Forall₂ (DenotesMethod tables definingClass) drafts entries) :
    Yields image.bytes start
      ((entries.filter fun method => !method.annotations.isEmpty).mapM fun method => do
        return (method.index, ← Layout.annotationSet method.annotations))
      (List.Forall₂
        (fun draft entry =>
          IsEntry image.annotationSet (tables.methodNumber definingClass draft)
            (notes draft.annotations) entry)
        (drafts.filter methodHasNotes)) := by
  refine yields_entries (((List.forall₂_and_left _ _).mpr ⟨readable, denoted⟩).imp ?_)
  rintro draft entry ⟨isReadable, isDenoted⟩
  have sameNumber := EntryTables.methodNumber_eq isDenoted
  refine ⟨?_, sameNumber.symm, ?_, ?_⟩
  · rw [methodHasNotes, isEmpty_eq_of_forall₂ isDenoted.annotations]
  · rw [sameNumber]
    exact Nat.lt_of_succ_lt (shown.method_succ_lt isDenoted.index)
  · exact yields_annotationSet shown positive isReadable.annotations isDenoted.annotations

/-- The entries of a directory for parameters are read where they are placed. -/
theorem yields_parameterEntries
    {drafts : List MethodDraft}
    {entries : List NumberedMethod}
    (readable : ∀ draft ∈ drafts, draft.IsReadable)
    (denoted : List.Forall₂ (DenotesMethod tables definingClass) drafts entries) :
    Yields image.bytes start
      ((entries.filter fun method => !method.parameterAnnotations.isEmpty).mapM fun method => do
        return (method.index, ← Layout.annotationSets method.parameterAnnotations))
      (List.Forall₂
        (fun draft entry =>
          IsEntry image.annotationSets (tables.methodNumber definingClass draft)
            (draft.parameterAnnotations.map notes) entry)
        (drafts.filter hasParameterNotes)) := by
  refine yields_entries (((List.forall₂_and_left _ _).mpr ⟨readable, denoted⟩).imp ?_)
  rintro draft entry ⟨isReadable, isDenoted⟩
  have sameNumber := EntryTables.methodNumber_eq isDenoted
  refine ⟨?_, sameNumber.symm, ?_, ?_⟩
  · rw [hasParameterNotes, isEmpty_eq_of_forall₂ isDenoted.parameterAnnotations]
  · rw [sameNumber]
    exact Nat.lt_of_succ_lt (shown.method_succ_lt isDenoted.index)
  · exact yields_annotationSets shown positive isReadable.parameterAnnotations
      isDenoted.parameterAnnotations

end Listed

/-- The map of what entries stand for. -/
def directoryOf (number : β → Nat) (value : β → α) (drafts : List β) : Std.TreeMap Nat α :=
  (drafts.map fun draft => (number draft, value draft)).foldl
    (fun directory entry => directory.insert entry.1 entry.2) ∅

/-- A directory is read where its four counts, offsets and entries stand. -/
theorem annotationDirectory_eq
    {classOffset : Nat}
    {ofClass : Annotations}
    {fieldNumber : α → Nat}
    {methodNumber : β → Nat}
    {fieldNotes : α → Annotations}
    {methodNotes : β → Annotations}
    {parameterNotes : β → List Annotations}
    {fields : List α}
    {methods parameters : List β}
    {ofFields ofMethods ofParameters : List (Nat × Nat)}
    (imageFits : image.bytes.size < Bytes.span 4)
    (classRead : IsReadAt image.annotationSet classOffset ofClass)
    (fieldsRead : List.Forall₂
      (fun draft entry => IsEntry image.annotationSet (fieldNumber draft) (fieldNotes draft) entry)
      fields ofFields)
    (methodsRead : List.Forall₂
      (fun draft entry =>
        IsEntry image.annotationSet (methodNumber draft) (methodNotes draft) entry)
      methods ofMethods)
    (parametersRead : List.Forall₂
      (fun draft entry =>
        IsEntry image.annotationSets (methodNumber draft) (parameterNotes draft) entry)
      parameters ofParameters)
    (placed : IsPlaced image.bytes offset
      (word classOffset ++ word ofFields.length ++ word ofMethods.length
        ++ word ofParameters.length
        ++ (ofFields ++ ofMethods ++ ofParameters).flatMap Layout.directoryEntry)) :
    IsReadAt image.annotationDirectory offset {
      ofClass
      ofFields := directoryOf fieldNumber fieldNotes fields
      ofMethods := directoryOf methodNumber methodNotes methods
      ofParameters := directoryOf methodNumber parameterNotes parameters
    } := by
  have nonempty (entry : Nat × Nat) : 1 ≤ (Layout.directoryEntry entry).length := by
    rw [length_directoryEntry]
    decide
  have few := length_le_length_flatMap nonempty (ofFields ++ ofMethods ++ ofParameters)
  have stands := placed.stands
  have bound := stands.le_size
  rw [List.length_append] at bound
  rw [List.length_append, List.length_append] at few
  rw [List.flatMap_append, List.flatMap_append] at stands
  repeat rw [List.append_assoc] at stands
  refine ⟨?_, placed.fits⟩
  rw [Image.annotationDirectory, if_neg placed.notZero]
  refine Decoder.runAt_eq_ok ?_ stands
  refine (reads_word classRead.fits).bind ?_
  refine (reads_word (by omega)).bind ?_
  refine (reads_word (by omega)).bind ?_
  refine (reads_word (by omega)).bind ?_
  refine Reads.lift_bind classRead.reads ?_
  refine (reads_directoryEntries fieldsRead).bind ?_
  refine (reads_directoryEntries methodsRead).bind ?_
  exact (reads_directoryEntries parametersRead).bind_pure _

/-- The directory that is meant by a class. -/
def directoryOfDraft (tables : EntryTables) (draft : ClassDraft) : AnnotationDirectory where
  ofClass := notes draft.annotations
  ofFields :=
    directoryOf (tables.fieldNumber draft.typeName) (fun field => notes field.annotations)
      (draft.fields.filter fieldHasNotes)
  ofMethods :=
    directoryOf (tables.methodNumber draft.typeName) (fun method => notes method.annotations)
      (draft.methods.filter methodHasNotes)
  ofParameters :=
    directoryOf (tables.methodNumber draft.typeName)
      (fun method => method.parameterAnnotations.map notes)
      (draft.methods.filter hasParameterNotes)

/-- The directory that a class means holds its annotations and those of its members. -/
theorem isDirectoryOf_directoryOfDraft
    {draft : ClassDraft}
    (distinctFields : (draft.fields.map (tables.fieldNumber draft.typeName)).Nodup)
    (distinctMethods : (draft.methods.map (tables.methodNumber draft.typeName)).Nodup) :
    IsDirectoryOf tables draft (directoryOfDraft tables draft) where
  ofClass := rfl
  ofFields := fun _ => getD_foldl_insert_map distinctFields fun field _ unlisted => by
    rw [eq_nil_of_not_isEmpty unlisted]
    rfl
  ofMethods := fun _ => getD_foldl_insert_map distinctMethods fun method _ unlisted => by
    rw [eq_nil_of_not_isEmpty unlisted]
    rfl
  ofParameters := fun _ => getD_foldl_insert_map distinctMethods fun method _ unlisted => by
    rw [eq_nil_of_not_isEmpty unlisted]
    rfl

/-- The annotations of a class and its members are placed so that their directory is read back. -/
theorem yields_annotationDirectory
    (shown : image.Shows tables)
    (positive : 0 < start)
    {draft : ClassDraft}
    {entry : NumberedClass}
    (readable : draft.IsReadable)
    (denoted : Denotes tables draft entry) :
    Yields image.bytes start (Layout.annotationDirectory entry) fun offset =>
      IsReadAt image.annotationDirectory offset (directoryOfDraft tables draft) := by
  have fieldsDenoted := forall₂_fields denoted
  have methodsDenoted := forall₂_methods denoted
  by_cases isEmpty :
      (entry.annotations.isEmpty
        && (entry.fields.filter fun field => !field.annotations.isEmpty).isEmpty
        && (entry.methods.filter fun method => !method.annotations.isEmpty).isEmpty
        && (entry.methods.filter fun method => !method.parameterAnnotations.isEmpty).isEmpty) = true
  · rw [Layout.annotationDirectory, if_pos isEmpty]
    simp only [Bool.and_eq_true] at isEmpty
    obtain ⟨⟨⟨noNotes, noFields⟩, noMethods⟩, noParameters⟩ := isEmpty
    have noFieldNotes : draft.fields.filter fieldHasNotes = [] := by
      refine filter_eq_nil_of_forall₂ (fieldsDenoted.imp fun field entry isDenoted => ?_) noFields
      rw [fieldHasNotes, isEmpty_eq_of_forall₂ isDenoted.annotations]
    have noMethodNotes : draft.methods.filter methodHasNotes = [] := by
      refine filter_eq_nil_of_forall₂ (methodsDenoted.imp fun method entry isDenoted => ?_)
        noMethods
      rw [methodHasNotes, isEmpty_eq_of_forall₂ isDenoted.annotations]
    have noParameterNotes : draft.methods.filter hasParameterNotes = [] := by
      refine filter_eq_nil_of_forall₂ (methodsDenoted.imp fun method entry isDenoted => ?_)
        noParameters
      rw [hasParameterNotes, isEmpty_eq_of_forall₂ isDenoted.parameterAnnotations]
    have noClassNotes : draft.annotations = [] := by
      rw [← isEmpty_eq_of_forall₂ denoted.annotations, List.isEmpty_iff] at noNotes
      exact noNotes
    refine yields_pure (isReadAt_zero ?_)
    rw [directoryOfDraft, noFieldNotes, noMethodNotes, noParameterNotes, noClassNotes]
    rfl
  · rw [Layout.annotationDirectory, if_neg isEmpty]
    refine yields_bind
      (yields_annotationSet shown positive readable.annotations denoted.annotations)
      fun classOffset => ?_
    refine yields_bind (yields_fieldEntries shown positive readable.fields fieldsDenoted)
      fun ofFields => ?_
    refine yields_bind (yields_methodEntries shown positive readable.methods methodsDenoted)
      fun ofMethods => ?_
    refine yields_bind (yields_parameterEntries shown positive readable.methods methodsDenoted)
      fun ofParameters => ?_
    refine (yields_placeAligned positive shown.imageFits _).imp ?_
    intro offset placed parametersRead methodsRead fieldsRead classRead
    exact annotationDirectory_eq shown.imageFits classRead fieldsRead methodsRead parametersRead
      placed

end Directory

/-! The numbers of the members of a class. -/

section Numbers

variable {tables : EntryTables} {draft : ClassDraft} {entry : NumberedClass}

/-- The number of every field of a class is settled. -/
theorem numbersField_of_mem
    (denoted : Denotes tables draft entry)
    {field : FieldDraft}
    (member : field ∈ draft.fields) :
    tables.NumbersField draft.typeName field := by
  obtain ⟨numbered, isDenoted⟩ := exists_of_mem_of_forall₂ (forall₂_fields denoted) member
  exact EntryTables.numbersField_of_denotes isDenoted

/-- The number of every method of a class is settled. -/
theorem numbersMethod_of_mem
    (denoted : Denotes tables draft entry)
    {method : MethodDraft}
    (member : method ∈ draft.methods) :
    tables.NumbersMethod draft.typeName method := by
  obtain ⟨numbered, isDenoted⟩ := exists_of_mem_of_forall₂ (forall₂_methods denoted) member
  exact EntryTables.numbersMethod_of_denotes isDenoted

/-- The fields of a readable class have different numbers. -/
theorem nodup_fields
    (readable : draft.IsReadable)
    (denoted : Denotes tables draft entry) :
    (draft.fields.map (tables.fieldNumber draft.typeName)).Nodup :=
  EntryTables.nodup_fieldNumbers (fun _ member => numbersField_of_mem denoted member)
    readable.distinctFields

/-- The methods of a readable class have different numbers. -/
theorem nodup_methods
    (readable : draft.IsReadable)
    (denoted : Denotes tables draft entry) :
    (draft.methods.map (tables.methodNumber draft.typeName)).Nodup :=
  EntryTables.nodup_methodNumbers (fun _ member => numbersMethod_of_mem denoted member)
    readable.distinctMethods

end Numbers

end Dex

end DexSurface
