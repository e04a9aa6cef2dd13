import DexSurface.Dex.Assembly
import DexSurface.Proofs.Dex.Placement

namespace DexSurface

namespace Dex

namespace Layout

/-!
# Layouts only add bytes

Whatever is placed, the data so far stay where they are, and the table entries that are written have
the sizes that the header counts with.  Neither depends on what the image shows.
-/

/-- A layout only adds bytes, and its result has a property. -/
def Always (layout : Layout α) (holds : α → Prop) : Prop :=
  ∀ (start : Nat) (data : ByteArray), ∃ more : List UInt8,
    (layout start data).2 = data ++ more.toByteArray ∧ holds (layout start data).1

/-- A layout only adds bytes. -/
def Grows (layout : Layout α) : Prop :=
  Always layout fun _ => True

/-- A layout that returns at once adds nothing. -/
theorem always_pure {value : α} {holds : α → Prop} (isHeld : holds value) :
    Always (pure value) holds := by
  intro start data
  refine ⟨[], ?_, isHeld⟩
  change data = data ++ [].toByteArray
  simp

/--
Layouts in sequence only add bytes, and the result has the property that the second one gives.
-/
theorem always_bind
    {layout : Layout α}
    {next : α → Layout β}
    {first : α → Prop}
    {holds : β → Prop}
    (always : Always layout first)
    (nextAlways : ∀ value, first value → Always (next value) holds) :
    Always (layout >>= next) holds := by
  intro start data
  obtain ⟨more, grown, firstHolds⟩ := always start data
  obtain ⟨others, grownFurther, nextHolds⟩ :=
    nextAlways (layout start data).1 firstHolds start (layout start data).2
  refine ⟨more ++ others, ?_, nextHolds⟩
  change (next (layout start data).1 start (layout start data).2).2 = _
  rw [grownFurther, grown, ByteArray.append_assoc, append_toByteArray]

/-- Laying out elements in order only adds bytes and gives one result for each. -/
theorem always_mapM
    {item : α → Layout β}
    {holds : β → Prop}
    (elements : List α)
    (always : ∀ element, Always (item element) holds) :
    Always (elements.mapM item) fun values =>
      values.length = elements.length ∧ ∀ value ∈ values, holds value := by
  induction elements with
  | nil => exact always_pure ⟨rfl, fun value member => (List.not_mem_nil member).elim⟩
  | cons first rest inductionHypothesis =>
      rw [List.mapM_cons]
      refine always_bind (always first) fun value valueHolds => ?_
      refine always_bind inductionHypothesis fun values valuesHold => always_pure ⟨?_, ?_⟩
      · rw [List.length_cons, List.length_cons, valuesHold.1]
      · intro other member
        rcases List.mem_cons.mp member with rfl | inRest
        · exact valueHolds
        · exact valuesHold.2 other inRest

/-- A layout whose result has a property only adds bytes. -/
theorem Always.grows {layout : Layout α} {holds : α → Prop} (always : Always layout holds) :
    Grows layout := by
  intro start data
  obtain ⟨more, grown, -⟩ := always start data
  exact ⟨more, grown, trivial⟩

/-- A layout that returns at once only adds bytes. -/
theorem grows_pure (value : α) : Grows (pure value : Layout α) :=
  always_pure trivial

/-- Layouts in sequence only add bytes. -/
theorem grows_bind
    {layout : Layout α}
    {next : α → Layout β}
    (grows : Grows layout)
    (nextGrows : ∀ value, Grows (next value)) :
    Grows (layout >>= next) :=
  always_bind grows fun value _ => nextGrows value

/-- Laying out elements in order only adds bytes. -/
theorem grows_mapM
    {item : α → Layout β}
    (elements : List α)
    (grows : ∀ element, Grows (item element)) :
    Grows (elements.mapM item) :=
  (always_mapM elements grows).grows

/-- What only adds bytes yields nothing in particular. -/
theorem Grows.yields
    {layout : Layout α}
    (grows : Grows layout)
    (bytes : ByteArray)
    (start : Nat) :
    Yields bytes start layout fun _ => True := by
  intro data
  obtain ⟨more, grown, -⟩ := grows start data
  exact ⟨more, grown, fun _ => trivial⟩

/-! The parts of an image. -/

/-- Placing an item only adds bytes. -/
theorem grows_place (item : Item) : Grows (place item) :=
  fun _ _ => ⟨item, rfl, trivial⟩

/-- Aligning only adds bytes. -/
theorem grows_align : Grows align :=
  fun _ _ => ⟨_, rfl, trivial⟩

/-- Asking for the offset adds nothing. -/
theorem grows_offset : Grows offset := by
  intro start data
  refine ⟨[], ?_, trivial⟩
  change data = data ++ [].toByteArray
  simp

/-- Placing an aligned item only adds bytes. -/
theorem grows_placeAligned (item : Item) : Grows (placeAligned item) :=
  grows_bind grows_align fun _ => grows_place item

/-- Placing a list of types only adds bytes. -/
theorem grows_typeList (types : List Nat) : Grows (typeList types) := by
  rw [typeList]
  split
  · exact grows_pure 0
  · exact grows_placeAligned _

/-- Placing a set of annotations only adds bytes. -/
theorem grows_annotationSet (annotations : List Item) : Grows (annotationSet annotations) := by
  rw [annotationSet]
  split
  · exact grows_pure 0
  · exact grows_bind (grows_mapM _ grows_place) fun _ => grows_placeAligned _

/-- Placing the annotation sets of parameters only adds bytes. -/
theorem grows_annotationSets (sets : List (List Item)) : Grows (annotationSets sets) :=
  grows_bind (grows_mapM _ grows_annotationSet) fun _ => grows_placeAligned _

/-- Placing the annotations of a class only adds bytes. -/
theorem grows_annotationDirectory (entry : NumberedClass) : Grows (annotationDirectory entry) := by
  rw [annotationDirectory]
  split
  · exact grows_pure 0
  · refine grows_bind (grows_annotationSet _) fun _ => ?_
    refine grows_bind (grows_mapM _ fun field => ?_) fun _ => ?_
    · exact grows_bind (grows_annotationSet _) fun _ => grows_pure _
    refine grows_bind (grows_mapM _ fun method => ?_) fun _ => ?_
    · exact grows_bind (grows_annotationSet _) fun _ => grows_pure _
    refine grows_bind (grows_mapM _ fun method => ?_) fun _ => ?_
    · exact grows_bind (grows_annotationSets _) fun _ => grows_pure _
    exact grows_placeAligned _

/-- Placing the values of static fields only adds bytes. -/
theorem grows_staticValues (values : List Item) : Grows (staticValues values) := by
  rw [staticValues]
  split
  · exact grows_pure 0
  · exact grows_placeAligned _

/-- Placing debug information only adds bytes. -/
theorem grows_debugInfo (debug? : Option Item) : Grows (debugInfo debug?) := by
  cases debug? with
  | none => exact grows_pure 0
  | some item => exact grows_place item

/-- Placing a body that may be absent only adds bytes. -/
theorem grows_optionalBody (body? : Option NumberedBody) : Grows (optionalBody body?) := by
  cases body? with
  | none => exact grows_pure 0
  | some body => exact grows_bind (grows_debugInfo _) fun _ => grows_placeAligned _

/-- Placing the members of a class only adds bytes. -/
theorem grows_classData
    (entry : NumberedClass)
    (directOffsets virtualOffsets : List Nat) :
    Grows (classData entry directOffsets virtualOffsets) := by
  rw [classData]
  split
  · exact grows_pure 0
  · exact grows_place _

end Layout

namespace Assembly

open Layout (Always always_pure always_bind always_mapM Grows grows_pure grows_bind grows_mapM
  grows_place grows_placeAligned)

/-- The table entry of a prototype has twelve bytes. -/
theorem always_protoEntry (entry : ProtoEntry) :
    Always (protoEntry entry) fun item => item.length = 12 := by
  refine always_bind (Layout.grows_typeList _) fun _ _ => always_pure ?_
  simp

/-- The table entry of a class has thirty-two bytes. -/
theorem always_classEntry (entry : NumberedClass) :
    Always (classEntry entry) fun item => item.length = 32 := by
  refine always_bind (Layout.grows_typeList _) fun _ _ => ?_
  refine always_bind (Layout.grows_annotationDirectory _) fun _ _ => ?_
  refine always_bind (Layout.grows_staticValues _) fun _ _ => ?_
  refine always_bind (grows_mapM _ fun _ => Layout.grows_optionalBody _) fun _ _ => ?_
  refine always_bind (grows_mapM _ fun _ => Layout.grows_optionalBody _) fun _ _ => ?_
  refine always_bind (Layout.grows_classData _ _ _) fun _ _ => always_pure ?_
  simp [optionalWord]

/-- Placing restriction flags only adds bytes. -/
theorem grows_placeRestrictions (restrictions : List (Option (List UInt32))) :
    Grows (placeRestrictions restrictions) := by
  rw [placeRestrictions]
  split
  · rw [map_eq_pure_bind]
    exact grows_bind (grows_placeAligned _) fun _ => grows_pure _
  · exact grows_pure none

/-- Placing the map only adds bytes. -/
theorem grows_placeMap (restrictions : Option Nat) : Grows (placeMap restrictions) := by
  refine grows_bind Layout.grows_align fun _ => ?_
  refine grows_bind Layout.grows_offset fun offset => ?_
  exact grows_place _

end Assembly

end Dex

end DexSurface
