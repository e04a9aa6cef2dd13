import DexSurface.Proofs.Merge.Overlay
import DexSurface.Proofs.Output.EmittedHierarchy

namespace DexSurface

/-!
# Appending archives

Archives that are appended to others take no precedence, so the classes of the others stay in the
map.  The surface and its closure grow with the map, and whether a class has a stub or a skeleton
there depends on the class alone.  Hence no entry of an extraction gets lost.
-/

namespace ClassMap

/-- Every class of a map stands in another one under the same name. -/
def IsContainedIn (narrow wide : ClassMap) : Prop :=
  ∀ (typeName : String) (record : ClassRecord),
    narrow[typeName]? = some record → wide[typeName]? = some record

variable {narrow wide : ClassMap} {record : ClassRecord}

/-- A map is contained in what it becomes when classes are added. -/
theorem isContainedIn_insertAll (classes : ClassMap) (records : List ClassRecord) :
    classes.IsContainedIn (classes.insertAll records) := by
  intro typeName record stored
  rw [getElem?_insertAll, stored, Option.some_or]

/-- A class of a map is a class of any map that contains it. -/
theorem IsContainedIn.mem_records
    (contained : narrow.IsContainedIn wide)
    (member : record ∈ narrow.records) :
    record ∈ wide.records := by
  obtain ⟨typeName, stored⟩ := mem_records_iff.mp member
  exact mem_records_of_getElem? (contained typeName record stored)

/-- A type that resolves in a map resolves alike in any map that contains it. -/
theorem IsContainedIn.resolves
    (contained : narrow.IsContainedIn wide)
    {typeName : TypeDescriptor}
    (resolved : narrow.Resolves typeName record) :
    wide.Resolves typeName record :=
  ⟨contained _ _ resolved.1, resolved.2⟩

/-- What the smaller map has of the larger closure is closed in the smaller map. -/
theorem IsContainedIn.isClosed
    (contained : narrow.IsContainedIn wide)
    (keyed : wide.IsKeyedByName) :
    narrow.IsClosed {record | record ∈ narrow.records ∧ wide.referenced.Holds record} := by
  have closed := isClosed_referenced keyed
  constructor
  · rintro record ⟨inMap, held⟩
    exact ⟨inMap, (closed.inaccessible record held).2⟩
  · intro user inMap accessible typeName mentioned target resolved
    refine ⟨mem_records_of_getElem? resolved.1, ?_⟩
    exact closed.surface user (contained.mem_records inMap) accessible typeName mentioned target
      (contained.resolves resolved)
  · rintro user ⟨inMap, held⟩ typeName mentioned target resolved
    refine ⟨mem_records_of_getElem? resolved.1, ?_⟩
    exact closed.hierarchy user held typeName mentioned target (contained.resolves resolved)

/-- The closure of a smaller map is contained in the closure of a larger one. -/
theorem IsContainedIn.referenced
    (contained : narrow.IsContainedIn wide)
    (narrowKeyed : narrow.IsKeyedByName)
    (wideKeyed : wide.IsKeyedByName) :
    IsContainedIn narrow.referenced wide.referenced := by
  intro typeName record stored
  have name := isKeyedByName_referenced narrowKeyed typeName record stored
  rw [← name] at stored ⊢
  have held := (holds_referenced_iff narrowKeyed).mp stored
  exact (reached_subset (contained.isClosed wideKeyed) held).2

end ClassMap

namespace Extraction

variable
  {configuration : Configuration}
  {source : ClassSource}
  {first second : List String}
  {narrow wide : ClassMap}
  {narrowTiers wideTiers : OutputTiers}
  {record : ClassRecord}

/-- A class with a stub has one in any map that contains its map. -/
theorem mem_stubClasses_of_isContainedIn
    (contained : narrow.IsContainedIn wide)
    (member : record ∈ stubClasses narrow) :
    record ∈ stubClasses wide := by
  obtain ⟨inMap, isStub⟩ := List.mem_filter.mp member
  exact List.mem_filter.mpr ⟨contained.mem_records inMap, isStub⟩

/-- A class with a skeleton has one wherever the referenced classes are contained. -/
theorem mem_skeletonClasses_of_isContainedIn
    (contained : ClassMap.IsContainedIn narrow.referenced wide.referenced)
    (member : record ∈ skeletonClasses narrow) :
    record ∈ skeletonClasses wide := by
  obtain ⟨inReferenced, isOpen⟩ := List.mem_filter.mp member
  exact List.mem_filter.mpr ⟨contained.mem_records inReferenced, isOpen⟩

/-- Nothing of a map and its extraction is missing in another map and its extraction. -/
structure IsKeptIn (narrow wide : ClassMap) (narrowTiers wideTiers : OutputTiers) : Prop where
  classes : narrow.IsContainedIn wide
  referenced : ClassMap.IsContainedIn narrow.referenced wide.referenced
  stubs : ∀ name ∈ narrowTiers.stubs, name ∈ wideTiers.stubs
  skeletons : ∀ name ∈ narrowTiers.skeletons, name ∈ wideTiers.skeletons

/--
When archives are appended to others, every class that was merged without them stays in the map,
every class of the closure stays in the closure, and every entry stays in its tier.
-/
theorem isKeptIn_of_appended
    {narrowStart narrowEnd wideStart wideEnd : Journal}
    {narrowBefore narrowAfter wideBefore wideAfter : Journal}
    (narrowMerged : source.merge first narrowStart = .ok narrow narrowEnd)
    (wideMerged : source.merge (first ++ second) wideStart = .ok wide wideEnd)
    (areClassTypes : ∀ record ∈ wide.records, Descriptor.IsClassType record.typeName)
    (narrowSucceeded :
      transform configuration narrow narrowBefore = .ok narrowTiers narrowAfter)
    (wideSucceeded : transform configuration wide wideBefore = .ok wideTiers wideAfter) :
    IsKeptIn narrow wide narrowTiers wideTiers := by
  obtain ⟨-, rfl⟩ := ClassSource.foldlM_mergeArchive_eq_ok narrowMerged
  obtain ⟨-, rfl⟩ := ClassSource.foldlM_mergeArchive_eq_ok wideMerged
  have narrowKeyed :=
    ClassMap.isKeyedByName_insertAll ClassMap.isKeyedByName_empty (source.classesOf first)
  have wideKeyed :=
    ClassMap.isKeyedByName_insertAll ClassMap.isKeyedByName_empty
      (source.classesOf (first ++ second))
  have contained :
      ClassMap.IsContainedIn (ClassMap.insertAll ∅ (source.classesOf first))
        (ClassMap.insertAll ∅ (source.classesOf (first ++ second))) := by
    rw [ClassSource.classesOf_append, ClassMap.insertAll_append]
    exact ClassMap.isContainedIn_insertAll _ _
  have referencedContained := contained.referenced narrowKeyed wideKeyed
  have narrowExact := (isExact_of_isKeyedByName narrowKeyed
    (fun record member => areClassTypes record (contained.mem_records member)) narrowSucceeded).1
  have wideExact := (isExact_of_isKeyedByName wideKeyed areClassTypes wideSucceeded).1
  constructor
  · exact contained
  · exact referencedContained
  · intro name inStubs
    obtain ⟨record, isStub, sameEntry⟩ := narrowExact.stubs.mem_iff.mp inStubs
    exact wideExact.stubs.mem_iff.mpr
      ⟨record, mem_stubClasses_of_isContainedIn contained isStub, sameEntry⟩
  · intro name inSkeletons
    obtain ⟨record, isSkeleton, sameEntry⟩ := narrowExact.skeletons.mem_iff.mp inSkeletons
    exact wideExact.skeletons.mem_iff.mpr
      ⟨record, mem_skeletonClasses_of_isContainedIn referencedContained isSkeleton, sameEntry⟩

/-- A source whose archives have one class each. -/
def oneClassArchives : ClassSource where
  name := "table"
  canLoad := fun _ => true
  stream := fun path =>
    { events := [], classes := if path = "circle.jar" then [circle] else [shape], failure := none }

/-- The extraction of the public class alone succeeds. -/
theorem transform_circle :
    ∃ tiers after,
      transform bareStubs (ClassMap.insertAll ∅ [circle]) .empty = .ok tiers after := by
  have keyed := ClassMap.isKeyedByName_insertAll ClassMap.isKeyedByName_empty [circle]
  have inOrder : (ClassMap.insertAll ∅ [circle]).records = [circle] := rfl
  have isCurrent : (Stub.classFlags circle).has AccessFlags.deprecatedBit = false := rfl
  obtain ⟨bytes, written⟩ :=
    ClassFile.exists_write_plainTree isCurrent
      (by decide : "pkg/Circle" ≠ "pkg/Shape") (by decide) (by decide)
  let tiers := OutputTiers.empty.write ⟨.stub, "pkg/Circle.class", bytes.toByteArray⟩
  have stubsEntered (journal : Journal) :
      (ClassMap.insertAll ∅ [circle]).records.foldlM
          (enterStub
            { classes := ClassMap.insertAll ∅ [circle]
              referenced := (ClassMap.insertAll ∅ [circle]).referenced
              configuration := bareStubs })
          .empty journal =
        .ok tiers journal := by
    rw [inOrder, List.foldlM_cons]
    apply Run.bind_eq_ok_iff.mpr
    refine ⟨_, journal, Run.bind_eq_ok_iff.mpr ⟨_, journal, rfl, ?_⟩, rfl⟩
    exact enter_of_write written rfl journal
  have skeletonsEntered (journal : Journal) :
      (ClassMap.records (ClassMap.insertAll ∅ [circle]).referenced).foldlM enterSkeleton tiers
          journal =
        .ok tiers journal := by
    rw [records_referenced_eq_nil keyed (inOrder ▸ List.forall_mem_singleton.mpr rfl)]
    rfl
  exact exists_transform_of_entered stubsEntered skeletonsEntered

/-- Appending the archive of an inaccessible superclass keeps the public class and its stub. -/
theorem isKeptIn_of_appended_shape :
    ∃ narrow wide narrowEnd wideEnd narrowTiers wideTiers narrowAfter wideAfter,
      oneClassArchives.merge ["circle.jar"] .empty = .ok narrow narrowEnd
        ∧ oneClassArchives.merge (["circle.jar"] ++ ["shape.jar"]) .empty = .ok wide wideEnd
        ∧ (∀ record ∈ wide.records, Descriptor.IsClassType record.typeName)
        ∧ transform bareStubs narrow .empty = .ok narrowTiers narrowAfter
        ∧ transform bareStubs wide .empty = .ok wideTiers wideAfter
        ∧ IsKeptIn narrow wide narrowTiers wideTiers
        ∧ narrow[shape.typeName]? = none
        ∧ wide.referenced[shape.typeName]? = some shape
        ∧ "pkg/Circle.class" ∈ narrowTiers.stubs := by
  have narrowLoad : ∀ path ∈ ["circle.jar"], oneClassArchives.failure? path = none :=
    fun _ _ => rfl
  have wideLoad :
      ∀ path ∈ ["circle.jar"] ++ ["shape.jar"], oneClassArchives.failure? path = none :=
    fun _ _ => rfl
  obtain ⟨_, -, -, narrowMerges⟩ := ClassSource.foldlM_mergeArchive_of_loads narrowLoad ∅
  obtain ⟨_, -, -, wideMerges⟩ := ClassSource.foldlM_mergeArchive_of_loads wideLoad ∅
  obtain ⟨narrowTiers, narrowAfter, narrowSucceeded⟩ := transform_circle
  obtain ⟨wideTiers, wideAfter, wideSucceeded⟩ := transform_shapes
  have kept : IsKeptIn (ClassMap.insertAll ∅ [circle]) shapes narrowTiers wideTiers :=
    isKeptIn_of_appended (narrowMerges .empty) (wideMerges .empty) areClassTypes_shapes
      narrowSucceeded wideSucceeded
  have keyed := ClassMap.isKeyedByName_insertAll ClassMap.isKeyedByName_empty [circle]
  have areClassTypes :
      ∀ record ∈ (ClassMap.insertAll ∅ [circle]).records,
        Descriptor.IsClassType record.typeName :=
    fun record member => areClassTypes_shapes record (kept.classes.mem_records member)
  have isExact := (isExact_of_isKeyedByName keyed areClassTypes narrowSucceeded).1
  have emitted : "pkg/Circle.class" ∈ narrowTiers.stubs :=
    isExact.stubs.mem_iff.mpr ⟨circle, List.mem_cons_self, rfl⟩
  have needed : shapes.referenced[shape.typeName]? = some shape := by
    rw [referenced_shapes]
    rfl
  exact ⟨_, _, _, _, narrowTiers, wideTiers, narrowAfter, wideAfter, narrowMerges .empty,
    wideMerges .empty, areClassTypes_shapes, narrowSucceeded, wideSucceeded, kept, rfl, needed,
    emitted⟩

end Extraction

end DexSurface
