import DexSurface.Proofs.Output.ExactTiers

namespace DexSurface

/-!
# Supertypes of emitted classes

The surface and its closure contain the supertypes of their classes, as far as the map knows them.
Emission leaves out the hidden nested classes among them and nothing else, so the supertype of an
emitted class is emitted too unless it is a hidden nested class.
-/

/-- A class type is its own element type. -/
theorem Descriptor.IsClassType.elementType_eq
    {descriptor : TypeDescriptor}
    (isClassType : IsClassType descriptor) :
    elementType descriptor = descriptor := by
  obtain ⟨name, rfl⟩ := isClassType
  have letters : ("L" ++ name ++ ";").toList = 'L' :: (name.toList ++ [';']) := by
    rw [String.toList_append, String.toList_append]
    rfl
  rw [elementType, letters, List.dropWhile_cons_of_neg (by decide), ← letters,
    String.ofList_toList]

namespace ClassMap

/-- A class of the surface or of its closure. -/
def IsNeeded (classes : ClassMap) (record : ClassRecord) : Prop :=
  record ∈ classes.records
    ∧ (record.flags.isAccessible = true ∨ classes.referenced.Holds record)

variable {classes : ClassMap} {record : ClassRecord}

/-- A referenced class is needed. -/
theorem isNeeded_of_mem_referenced
    (keyed : classes.IsKeyedByName)
    (member : record ∈ records classes.referenced) :
    classes.IsNeeded record := by
  refine ⟨(Extraction.mem_records_of_referenced keyed member).1, Or.inr ?_⟩
  exact getElem?_typeName (isKeyedByName_referenced keyed) member

/--
A supertype of a needed class is accessible itself or in the closure.  Resolving drops array
dimensions, of which the name of a class in the map has none.
-/
theorem IsNeeded.supertype
    {supertype : TypeDescriptor}
    {target : ClassRecord}
    (needed : classes.IsNeeded record)
    (keyed : classes.IsKeyedByName)
    (areClassTypes : ∀ record ∈ classes.records, Descriptor.IsClassType record.typeName)
    (direct : supertype ∈ record.supertypes)
    (stored : classes[supertype]? = some target) :
    classes.IsNeeded target := by
  have inMap : target ∈ classes.records := mem_records_of_getElem? stored
  refine ⟨inMap, ?_⟩
  cases accessible : target.flags.isAccessible with
  | true => exact Or.inl rfl
  | false =>
      right
      have isClassType : Descriptor.IsClassType supertype := by
        rw [← keyed supertype target stored]
        exact areClassTypes target inMap
      have resolved : classes.Resolves supertype target := by
        rw [Resolves, isClassType.elementType_eq]
        exact ⟨stored, by simpa [AccessFlags.isAccessible] using accessible⟩
      have mentioned : record.HierarchyMentions supertype :=
        ClassRecord.mem_hierarchyMentions_iff.mp
          (ClassRecord.mem_hierarchyMentions_of_supertype direct)
      have closed := isClosed_referenced keyed
      rcases needed with ⟨userInMap, isAccessible | held⟩
      · exact closed.surface record userInMap isAccessible _ (.hierarchy mentioned) target resolved
      · exact closed.hierarchy record held _ mentioned target resolved

end ClassMap

namespace Extraction

/-- The stubs or the skeletons have an entry for a class. -/
def Emits (tiers : OutputTiers) (record : ClassRecord) : Prop :=
  Descriptor.entryName record.typeName ∈ tiers.stubs
    ∨ Descriptor.entryName record.typeName ∈ tiers.skeletons

/-- Supertypes of emitted classes are emitted, as far as the map knows them. -/
def HasWholeHierarchy (classes : ClassMap) (tiers : OutputTiers) : Prop :=
  ∀ record ∈ classes.records,
    Emits tiers record →
    ∀ supertype ∈ record.supertypes,
      ∀ target, classes[supertype]? = some target → Emits tiers target

variable
  {configuration : Configuration}
  {classes : ClassMap}
  {before after : Journal}
  {tiers : OutputTiers}
  {record target : ClassRecord}

/-- The names in a tier are those of the classes that it holds. -/
theorem HoldsExactly.mem_iff
    {files : Std.TreeMap String ByteArray}
    {records : List ClassRecord}
    {tree? : ClassRecord → Run (Option ClassFile.ClassTree)}
    (holds : HoldsExactly files records tree?)
    {name : String} :
    name ∈ files ↔ ∃ record ∈ records, Descriptor.entryName record.typeName = name := by
  rw [← Std.TreeMap.mem_keys, holds.names.mem_iff, List.mem_map]

/-- The emitted classes of the map are those of the two tiers. -/
theorem IsExact.emits_iff
    (isExact : IsExact configuration classes tiers)
    (keyed : classes.IsKeyedByName)
    (areClassTypes : ∀ record ∈ classes.records, Descriptor.IsClassType record.typeName)
    (inMap : record ∈ classes.records) :
    Emits tiers record ↔ record ∈ stubClasses classes ∨ record ∈ skeletonClasses classes := by
  rw [Emits, isExact.stubs.mem_iff, isExact.skeletons.mem_iff]
  constructor
  · rintro (⟨other, isStub, sameEntry⟩ | ⟨other, isSkeleton, sameEntry⟩)
    · have otherInMap := List.mem_of_mem_filter isStub
      obtain rfl := eq_of_sameEntry keyed areClassTypes otherInMap inMap sameEntry
      exact Or.inl isStub
    · have otherInMap :=
        (mem_records_of_referenced keyed (List.mem_of_mem_filter isSkeleton)).1
      obtain rfl := eq_of_sameEntry keyed areClassTypes otherInMap inMap sameEntry
      exact Or.inr isSkeleton
  · rintro (isStub | isSkeleton)
    · exact Or.inl ⟨record, isStub, rfl⟩
    · exact Or.inr ⟨record, isSkeleton, rfl⟩

/-- A hidden class is found to be a hidden nested class. -/
theorem isHiddenNested_of_isHidden (hidden : isHidden record = true) :
    Stub.isHiddenNested record = .ok true := by
  rw [isHidden] at hidden
  split at hidden
  · next isHidden given => rw [given, hidden]
  · cases hidden

/-- The marker of a class with an entry could be read, and it hides nothing. -/
theorem IsExact.isHiddenNested_eq_false
    (isExact : IsExact configuration classes tiers)
    (member : record ∈ stubClasses classes ∨ record ∈ skeletonClasses classes) :
    Stub.isHiddenNested record = .ok false := by
  rcases member with isStub | isSkeleton
  · obtain ⟨_, -, tree, _, gives, -⟩ := isExact.stubs.contents record isStub
    obtain ⟨_, emitted⟩ := gives .empty
    exact (Stub.emitClass?_eq_some emitted).2.1
  · obtain ⟨_, -, tree, _, gives, -⟩ := isExact.skeletons.contents record isSkeleton
    exact (Stub.skeleton?_eq_some (skeleton?_of_gives gives)).1

/-- A needed class is in one of the tiers unless it is hidden. -/
theorem mem_of_isNeeded
    (needed : classes.IsNeeded record)
    (isOpen : isHidden record = false) :
    record ∈ stubClasses classes ∨ record ∈ skeletonClasses classes := by
  rcases needed with ⟨inMap, accessible | held⟩
  · left
    refine List.mem_filter.mpr ⟨inMap, ?_⟩
    rw [accessible, isOpen]
    rfl
  · right
    refine List.mem_filter.mpr ⟨ClassMap.mem_records_of_getElem? held, ?_⟩
    rw [isOpen]
    rfl

/-- No class with a stub or a skeleton is hidden. -/
theorem isHidden_eq_false_of_mem
    (member : record ∈ stubClasses classes ∨ record ∈ skeletonClasses classes) :
    isHidden record = false := by
  rcases member with isStub | isSkeleton
  · have kept := (List.mem_filter.mp isStub).2
    rw [Bool.and_eq_true, Bool.not_eq_true'] at kept
    exact kept.2
  · exact (Bool.not_eq_true' _).mp (List.mem_filter.mp isSkeleton).2

/-- A class with a stub or a skeleton is needed. -/
theorem isNeeded_of_mem
    (keyed : classes.IsKeyedByName)
    (member : record ∈ stubClasses classes ∨ record ∈ skeletonClasses classes) :
    classes.IsNeeded record := by
  rcases member with isStub | isSkeleton
  · obtain ⟨inMap, kept⟩ := List.mem_filter.mp isStub
    exact ⟨inMap, Or.inl (Bool.and_eq_true_iff.mp kept).1⟩
  · exact ClassMap.isNeeded_of_mem_referenced keyed (List.mem_of_mem_filter isSkeleton)

/-- A needed class is emitted, or it is a hidden nested class. -/
theorem IsExact.emits_or_isHiddenNested
    (isExact : IsExact configuration classes tiers)
    (keyed : classes.IsKeyedByName)
    (areClassTypes : ∀ record ∈ classes.records, Descriptor.IsClassType record.typeName)
    (needed : classes.IsNeeded record) :
    (Emits tiers record ∧ Stub.isHiddenNested record = .ok false)
      ∨ (¬ Emits tiers record ∧ Stub.isHiddenNested record = .ok true) := by
  have emitted := isExact.emits_iff keyed areClassTypes needed.1
  cases hidden : isHidden record with
  | true =>
      refine Or.inr ⟨fun isEmitted => ?_, isHiddenNested_of_isHidden hidden⟩
      rw [isHidden_eq_false_of_mem (emitted.mp isEmitted)] at hidden
      cases hidden
  | false =>
      have member := mem_of_isNeeded needed hidden
      exact Or.inl ⟨emitted.mpr member, isExact.isHiddenNested_eq_false member⟩

/--
A supertype of an emitted class that the map knows is emitted in one of the two tiers, unless it is
a nested class whose own source flags make it inaccessible: such a class is in neither.
-/
theorem supertype_emits_or_isHiddenNested
    {supertype : TypeDescriptor}
    (keyed : classes.IsKeyedByName)
    (areClassTypes : ∀ record ∈ classes.records, Descriptor.IsClassType record.typeName)
    (succeeded : transform configuration classes before = .ok tiers after)
    (inMap : record ∈ classes.records)
    (emitted : Emits tiers record)
    (direct : supertype ∈ record.supertypes)
    (stored : classes[supertype]? = some target) :
    (Emits tiers target ∧ Stub.isHiddenNested target = .ok false)
      ∨ (¬ Emits tiers target ∧ Stub.isHiddenNested target = .ok true) := by
  have isExact := (isExact_of_isKeyedByName keyed areClassTypes succeeded).1
  have member := (isExact.emits_iff keyed areClassTypes inMap).mp emitted
  have needed := (isNeeded_of_mem keyed member).supertype keyed areClassTypes direct stored
  exact isExact.emits_or_isHiddenNested keyed areClassTypes needed

/-- The public class and its superclass have class types. -/
theorem areClassTypes_shapes :
    ∀ record ∈ shapes.records, Descriptor.IsClassType record.typeName := by
  intro record member
  rcases List.mem_pair.mp member with rfl | rfl
  · exact ⟨"pkg/Circle", rfl⟩
  · exact ⟨"pkg/Shape", rfl⟩

/-- The inaccessible superclass of a public class is emitted. -/
theorem supertype_emits_or_isHiddenNested_shapes :
    shapes.IsKeyedByName
      ∧ (∀ record ∈ shapes.records, Descriptor.IsClassType record.typeName)
      ∧ ∃ tiers after,
          transform bareStubs shapes .empty = .ok tiers after
            ∧ Emits tiers circle
            ∧ "Lpkg/Shape;" ∈ circle.supertypes
            ∧ shapes["Lpkg/Shape;"]? = some shape
            ∧ Emits tiers shape := by
  obtain ⟨tiers, after, succeeded⟩ := transform_shapes
  have keyed : shapes.IsKeyedByName :=
    ClassMap.isKeyedByName_insertAll ClassMap.isKeyedByName_empty _
  have inMap : circle ∈ shapes.records := List.mem_cons_self
  have direct : "Lpkg/Shape;" ∈ circle.supertypes := List.mem_cons_self
  have stored : shapes["Lpkg/Shape;"]? = some shape := rfl
  have isExact := (isExact_of_isKeyedByName keyed areClassTypes_shapes succeeded).1
  have emitted : Emits tiers circle :=
    (isExact.emits_iff keyed areClassTypes_shapes inMap).mpr (Or.inl List.mem_cons_self)
  refine ⟨keyed, areClassTypes_shapes, tiers, after, succeeded, emitted, direct, stored, ?_⟩
  rcases supertype_emits_or_isHiddenNested keyed areClassTypes_shapes succeeded inMap emitted
    direct stored with ⟨isEmitted, -⟩ | ⟨-, isHidden⟩
  · exact isEmitted
  · cases isHidden

/-- A nested class that is private in its source. -/
def hiddenShape : ClassRecord :=
  { (default : ClassRecord) with
    typeName := "Lpkg/Shapes$Round;"
    superclass := some Descriptor.object
    annotations := [⟨.system, Platform.innerClass,
      [("name", .string "Round"), ("accessFlags", .int 0x000a)]⟩] }

/-- A public class with a hidden nested superclass. -/
def ring : ClassRecord :=
  { (default : ClassRecord) with
    typeName := "Lpkg/Ring;"
    flags := AccessFlags.publicBit
    superclass := some "Lpkg/Shapes$Round;" }

/-- A public class above a hidden nested one. -/
def hiddenShapes : ClassMap :=
  ClassMap.insertAll ∅ [ring, hiddenShape]

/-- The map with the hidden class is keyed by name. -/
theorem isKeyedByName_hiddenShapes : hiddenShapes.IsKeyedByName :=
  ClassMap.isKeyedByName_insertAll ClassMap.isKeyedByName_empty _

/-- A skeleton pass over classes without skeletons changes nothing. -/
theorem foldlM_enterSkeleton_of_none
    {records : List ClassRecord}
    (noSkeleton : ∀ record ∈ records, Stub.skeleton? record = .ok none)
    (tiers : OutputTiers)
    (journal : Journal) :
    records.foldlM enterSkeleton tiers journal = .ok tiers journal := by
  induction records with
  | nil => rfl
  | cons first rest inductionHypothesis =>
      have firstEntered : enterSkeleton tiers first journal = .ok tiers journal := by
        rw [enterSkeleton, noSkeleton first List.mem_cons_self]
        rfl
      rw [List.foldlM_cons]
      exact Run.bind_eq_ok_iff.mpr ⟨tiers, journal, firstEntered, inductionHypothesis
        fun record member => noSkeleton record (List.mem_cons_of_mem _ member)⟩

/-- The extraction of the map with the hidden class succeeds. -/
theorem transform_hiddenShapes :
    ∃ tiers after, transform bareStubs hiddenShapes .empty = .ok tiers after := by
  have isCurrent : (Stub.classFlags ring).has AccessFlags.deprecatedBit = false := rfl
  obtain ⟨bytes, written⟩ :=
    ClassFile.exists_write_plainTree isCurrent
      (by decide : "pkg/Ring" ≠ "pkg/Shapes$Round") (by decide) (by decide)
  let surroundings : Stub.Surroundings :=
    { classes := hiddenShapes
      referenced := hiddenShapes.referenced
      configuration := bareStubs }
  let tiers := OutputTiers.empty.write ⟨.stub, "pkg/Ring.class", bytes.toByteArray⟩
  have stubsEntered (journal : Journal) :
      hiddenShapes.records.foldlM (enterStub surroundings) .empty journal =
        .ok tiers journal := by
    have inOrder : hiddenShapes.records = [ring, hiddenShape] := rfl
    rw [inOrder, List.foldlM_cons]
    apply Run.bind_eq_ok_iff.mpr
    refine ⟨_, journal, Run.bind_eq_ok_iff.mpr ⟨_, journal, rfl, ?_⟩, rfl⟩
    exact enter_of_write written rfl journal
  have noSkeleton :
      ∀ record ∈ ClassMap.records hiddenShapes.referenced, Stub.skeleton? record = .ok none := by
    intro record member
    obtain ⟨inMap, inaccessible⟩ := mem_records_of_referenced isKeyedByName_hiddenShapes member
    rcases List.mem_pair.mp inMap with rfl | rfl
    · cases inaccessible
    · rfl
  exact exists_transform_of_entered stubsEntered (foldlM_enterSkeleton_of_none noSkeleton tiers)

/-- Emission stops at a hidden nested class even where an emitted class extends it. -/
theorem not_hasWholeHierarchy_hiddenShapes :
    hiddenShapes.IsKeyedByName
      ∧ (∀ record ∈ hiddenShapes.records, Descriptor.IsClassType record.typeName)
      ∧ ∃ tiers after,
          transform bareStubs hiddenShapes .empty = .ok tiers after
            ∧ ¬ HasWholeHierarchy hiddenShapes tiers := by
  have keyed := isKeyedByName_hiddenShapes
  have areClassTypes :
      ∀ record ∈ hiddenShapes.records, Descriptor.IsClassType record.typeName := by
    intro record member
    rcases List.mem_pair.mp member with rfl | rfl
    · exact ⟨"pkg/Ring", rfl⟩
    · exact ⟨"pkg/Shapes$Round", rfl⟩
  refine ⟨keyed, areClassTypes, ?_⟩
  obtain ⟨tiers, after, succeeded⟩ := transform_hiddenShapes
  refine ⟨tiers, after, succeeded, fun whole => ?_⟩
  have isExact := (isExact_of_isKeyedByName keyed areClassTypes succeeded).1
  have ringInMap : ring ∈ hiddenShapes.records := List.mem_cons_self
  have shapeInMap : hiddenShape ∈ hiddenShapes.records :=
    List.mem_cons_of_mem _ List.mem_cons_self
  have ringEmitted : Emits tiers ring :=
    (isExact.emits_iff keyed areClassTypes ringInMap).mpr (Or.inl List.mem_cons_self)
  have shapeEmitted : Emits tiers hiddenShape :=
    whole ring ringInMap ringEmitted "Lpkg/Shapes$Round;" List.mem_cons_self hiddenShape rfl
  have isOpen : isHidden hiddenShape = false :=
    isHidden_eq_false_of_mem ((isExact.emits_iff keyed areClassTypes shapeInMap).mp shapeEmitted)
  cases isOpen

end Extraction

end DexSurface
