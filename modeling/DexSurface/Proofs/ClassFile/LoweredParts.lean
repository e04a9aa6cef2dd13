import Mathlib.Data.Nat.Bitwise
import DexSurface.ClassFile.Lowering
import DexSurface.Proofs.ClassFile.EnteredConstants
import DexSurface.Proofs.ClassFile.FileReading
import DexSurface.Proofs.GivenValues

namespace DexSurface

namespace ClassFile

/-!
# Reading lowered parts

What lowering makes of a value or an annotation is read back from every consistent pool that the
constants entered for it are part of.
-/

open Interning (Enters enters_pure enters_throw)

/-! Flags and numbers. -/

/-- Storing flags in sixteen bits keeps the flags of an entry. -/
theorem toUInt32_toUInt16 (flags : AccessFlags) : flags.toUInt16.toUInt32 = entryFlags flags := by
  rw [← UInt32.toNat_inj]
  simp only [entryFlags, AccessFlags.storedMask, UInt16.toNat_toUInt32, UInt32.toNat_toUInt16,
    UInt32.toNat_and]
  exact (Nat.and_two_pow_sub_one_eq_mod flags.toNat 16).symm

/-- The bit for deprecation, taken from the flags, is there if they have it. -/
theorem and_deprecatedBit (flags : AccessFlags) :
    flags &&& AccessFlags.deprecatedBit
      = if AccessFlags.has flags AccessFlags.deprecatedBit
        then AccessFlags.deprecatedBit else 0 := by
  have single :
      flags &&& AccessFlags.deprecatedBit = 0
        ∨ flags &&& AccessFlags.deprecatedBit = AccessFlags.deprecatedBit := by
    simp only [← UInt32.toNat_inj, UInt32.toNat_and]
    have bit := Nat.and_two_pow flags.toNat 17
    cases flagged : flags.toNat.testBit 17 with
    | false => left; simpa [flagged, AccessFlags.deprecatedBit] using bit
    | true => right; simpa [flagged, AccessFlags.deprecatedBit] using bit
  rw [AccessFlags.has]
  rcases single with absent | present
  · simp [absent]
  · rw [present]
    rfl

namespace Interning

variable
  {α β γ : Type}
  {enter : α → Interning β}
  {read? : ConstantPool → β → Option γ}

/-- Parts that mean something one by one do so in order. -/
theorem enters_forall₂
    {related : ConstantPool → α → β → Prop}
    (enters : ∀ item, Enters (enter item) fun pool entry => related pool item entry)
    (items : List α) :
    Enters (items.mapM enter) fun pool entries => List.Forall₂ (related pool) items entries := by
  induction items with
  | nil => exact enters_pure fun _ _ => .nil
  | cons item rest inductionHypothesis =>
      rw [List.mapM_cons]
      refine (enters item).bind fun entry => ?_
      refine inductionHypothesis.bind fun entries => ?_
      exact enters_pure fun _ _ restRelated itemRelated => .cons itemRelated restRelated

/-- Parts that are read back one by one are read back in order. -/
theorem enters_mapM
    {expected : α → γ}
    (enters : ∀ item, Enters (enter item) fun pool entry =>
      read? pool entry = some (expected item))
    (items : List α) :
    Enters (items.mapM enter) fun pool entries =>
      entries.mapM (read? pool) = some (items.map expected) :=
  (enters_forall₂ enters items).imp fun _ _ _ related =>
    mapM_eq_some_iff_forall₂.mpr (List.forall₂_map_right_iff.mpr related.flip)

/-- Entries for a list are read back as the list, if each entry is read back as its item. -/
theorem enters_mapM_self
    {read? : ConstantPool → β → Option α}
    (enters : ∀ item, Enters (enter item) fun pool entry => read? pool entry = some item)
    (items : List α) :
    Enters (items.mapM enter) fun pool entries => entries.mapM (read? pool) = some items :=
  (enters_mapM enters items).imp fun _ _ _ entriesRead => entriesRead.trans (by simp)

/-- Parts of some items only are read back in the order of these items. -/
theorem enters_filterMapM
    {enter? : α → Interning (Option β)}
    {expected? : α → Option γ}
    (enters : ∀ item, Enters (enter? item) fun pool entry? =>
      entry?.mapM (read? pool) = some (expected? item))
    (items : List α) :
    Enters (items.filterMapM enter?) fun pool entries =>
      entries.mapM (read? pool) = some (items.filterMap expected?) := by
  induction items with
  | nil => exact enters_pure fun _ _ => rfl
  | cons item rest inductionHypothesis =>
      rw [List.filterMapM_cons]
      refine (enters item).bind fun entry? => ?_
      cases entry? with
      | none =>
          refine inductionHypothesis.imp fun pool entries _ restRead itemRead => ?_
          have skipped : expected? item = none := by simpa using itemRead.symm
          rw [List.filterMap_cons_none skipped, restRead]
      | some entry =>
          refine inductionHypothesis.bind fun entries => ?_
          refine enters_pure fun pool _ restRead itemRead => ?_
          obtain ⟨value, valueRead, kept⟩ : ∃ value,
              read? pool entry = some value ∧ expected? item = some value := by
            simpa [Option.mapM_some, eq_comm] using itemRead
          rw [List.filterMap_cons_some kept]
          simp [valueRead, restRead]

/-! References to constants. -/

/-- The index given for a text is read as that text. -/
theorem enters_utf8 (text : String) :
    Enters (utf8 text) fun pool index => pool.utf8? index = some text :=
  (Request.enters_utf8 text).imp fun _ _ _ => ConstantPool.request?_eq_utf8_iff.mp

/-- The index given for a class is read as its name. -/
theorem enters_classRef (name : InternalName) :
    Enters (classRef name) fun pool index => pool.className? index = some name :=
  (Request.enters_classRef name).imp fun _ _ _ => ConstantPool.request?_eq_classRef_iff.mp

end Interning

/-- No constant of a consistent pool stands at index zero. -/
theorem ConstantPool.IsConsistent.ne_zero
    {pool : ConstantPool}
    {index : Index}
    {request : Request}
    (consistent : pool.IsConsistent)
    (found : pool.request? index = some request) : index ≠ 0 := by
  rintro rfl
  have absent : pool.get? 0 = none := by
    rw [get?, show (0 : Index).toNat = 0 from rfl, consistent.start]
    rfl
  simp [request?, absent] at found

/-- An index other than zero is read as a constant that is present. -/
theorem ConstantPool.optional?_of_ne_zero
    {read? : Index → Option α}
    {index : Index}
    {value : α}
    (present : index ≠ 0)
    (found : read? index = some value) : optional? read? index = some (some value) := by
  simp [optional?, present, found]

namespace Lowering

/-- The index for a class that may be absent is read as that class, or as none. -/
theorem enters_optionalClass (name? : Option InternalName) :
    Enters (optionalClass name?) fun pool index =>
      ConstantPool.optional? pool.className? index = some name? := by
  cases name? with
  | none => exact enters_pure fun _ _ => rfl
  | some name =>
      refine (Request.enters_classRef name).imp fun pool index consistent found => ?_
      exact ConstantPool.optional?_of_ne_zero (consistent.ne_zero found)
        (ConstantPool.request?_eq_classRef_iff.mp found)

/-- The index for a text that may be absent is read as that text, or as none. -/
theorem enters_optionalUtf8 (text? : Option String) :
    Enters (optionalUtf8 text?) fun pool index =>
      ConstantPool.optional? pool.utf8? index = some text? := by
  cases text? with
  | none => exact enters_pure fun _ _ => rfl
  | some text =>
      refine (Request.enters_utf8 text).imp fun pool index consistent found => ?_
      exact ConstantPool.optional?_of_ne_zero (consistent.ne_zero found)
        (ConstantPool.request?_eq_utf8_iff.mp found)

/-- An attribute made for a content is read as having it. -/
theorem enters_attributeOf (content : AttributeContent) :
    Enters (attributeOf content) fun pool item => item.content? pool = some content := by
  refine (Interning.enters_utf8 content.attributeName).bind fun name => ?_
  refine enters_pure fun pool _ named => ?_
  simp [Attribute.content?, named]

/-! Values and annotations. -/

/-- A value that is one constant is read back from it. -/
theorem enters_constant
    {value : ElementValue}
    {kind : ElementKind}
    (request : Request)
    (shown : kind.value? request = some value) :
    Enters (do return ElementEntry.constant kind (← request.enter)) fun pool entry =>
      entry.read? pool = some value := by
  refine request.enters.bind fun index => ?_
  refine enters_pure fun pool _ found => ?_
  simp [ElementEntry.read?, found, shown]

mutual

/-- The entry for an element value is read back as the value. -/
theorem enters_elementValue :
    ∀ value : ElementValue,
      Enters (elementValue value) fun pool entry => entry.read? pool = some value
  | .boolean value => by
      rw [elementValue]
      exact enters_constant (.integer (if value then 1 else 0)) (by cases value <;> rfl)
  | .byte value => by
      rw [elementValue]
      exact enters_constant (.integer value.toInt32) (by simp [ElementKind.value?])
  | .short value => by
      rw [elementValue]
      exact enters_constant (.integer value.toInt32) (by simp [ElementKind.value?])
  | .char unit => by
      rw [elementValue]
      exact enters_constant (.integer unit.toUInt32.toInt32) (by simp [ElementKind.value?])
  | .int value => by
      rw [elementValue]
      exact enters_constant (.integer value) rfl
  | .long value => by
      rw [elementValue]
      exact enters_constant (.long value) rfl
  | .float bits => by
      rw [elementValue]
      exact enters_constant (.float bits) rfl
  | .double bits => by
      rw [elementValue]
      exact enters_constant (.double bits) rfl
  | .string text => by
      rw [elementValue]
      exact enters_constant (.utf8 text) rfl
  | .classLiteral descriptor => by
      rw [elementValue]
      refine (Interning.enters_utf8 descriptor).bind fun index => ?_
      refine enters_pure fun pool _ found => ?_
      simp [ElementEntry.read?, found]
  | .enum descriptor name => by
      rw [elementValue]
      refine (Interning.enters_utf8 descriptor).bind fun type => ?_
      refine (Interning.enters_utf8 name).bind fun index => ?_
      refine enters_pure fun pool _ named typed => ?_
      simp [ElementEntry.read?, named, typed]
  | .nested descriptor values => by
      rw [elementValue]
      refine (Interning.enters_utf8 descriptor).bind fun type => ?_
      refine (enters_namedValues values).bind fun elements => ?_
      refine enters_pure fun pool _ elementsRead typed => ?_
      simp [ElementEntry.read?, elementsRead, typed]
  | .array values => by
      rw [elementValue]
      refine (enters_elementValues values).bind fun entries => ?_
      refine enters_pure fun pool _ entriesRead => ?_
      simp [ElementEntry.read?, entriesRead]

/-- The entries for the values of an array are read back as the values. -/
theorem enters_elementValues :
    ∀ values : List ElementValue,
      Enters (elementValues values) fun pool entries =>
        ElementEntry.readAll? pool entries = some values
  | [] => by
      rw [elementValues]
      exact enters_pure fun _ _ => rfl
  | value :: rest => by
      rw [elementValues]
      refine (enters_elementValue value).bind fun entry => ?_
      refine (enters_elementValues rest).bind fun entries => ?_
      refine enters_pure fun pool _ restRead valueRead => ?_
      simp [ElementEntry.readAll?, restRead, valueRead]

/-- The entries for named values are read back as the names with their values. -/
theorem enters_namedValues :
    ∀ values : List (String × ElementValue),
      Enters (namedValues values) fun pool entries =>
        ElementEntry.readNamed? pool entries = some values
  | [] => by
      rw [namedValues]
      exact enters_pure fun _ _ => rfl
  | (name, value) :: rest => by
      rw [namedValues]
      refine (Interning.enters_utf8 name).bind fun index => ?_
      refine (enters_elementValue value).bind fun entry => ?_
      refine (enters_namedValues rest).bind fun entries => ?_
      refine enters_pure fun pool _ restRead valueRead named => ?_
      simp [ElementEntry.readNamed?, restRead, valueRead, named]

end

/-- The entry for an annotation is read back as the annotation. -/
theorem enters_annotationEntry (note : AnnotationTree) :
    Enters (annotationEntry note) fun pool entry => entry.read? pool = some note := by
  refine (Interning.enters_utf8 note.descriptor).bind fun type => ?_
  refine (enters_namedValues note.values).bind fun elements => ?_
  refine enters_pure fun pool _ elementsRead typed => ?_
  simp [AnnotationEntry.read?, elementsRead, typed]

/-- The entries for annotations are read back as the annotations. -/
theorem enters_annotationEntries (notes : List AnnotationTree) :
    Enters (notes.mapM annotationEntry) fun pool entries =>
      entries.mapM (AnnotationEntry.read? pool) = some notes :=
  Interning.enters_mapM_self enters_annotationEntry notes

end Lowering

end ClassFile

end DexSurface
