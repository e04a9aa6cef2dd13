import DexSurface.Proofs.Output.PlainClass
import DexSurface.Proofs.Output.TierPass
import DexSurface.Proofs.Reference.LeastClosure

namespace DexSurface

/-!
# The tiers are the surface and its closure

A successful extraction writes one stub for each accessible class and one skeleton for each
inaccessible class that the surface needs, hidden nested classes left out.  No file ever replaces
another one, since distinct class types have distinct entries and no class is both accessible and
needed by others.
-/

namespace Extraction

open ClassFile (ClassTree)

/-- What emits the skeleton of a class. -/
def emitSkeleton? (record : ClassRecord) : Run (Option ClassTree) :=
  Run.lift (RunError.ofRecord (Stub.skeleton? record))

/-- A nested class that is never emitted. -/
def isHidden (record : ClassRecord) : Bool :=
  match Stub.isHiddenNested record with
  | .ok hidden => hidden
  | .error _ => false

/-- The accessible classes that are not hidden. -/
def stubClasses (classes : ClassMap) : List ClassRecord :=
  classes.records.filter fun record => record.flags.isAccessible && !isHidden record

/-- The inaccessible classes that the surface needs and that are not hidden. -/
def skeletonClasses (classes : ClassMap) : List ClassRecord :=
  (classes.referenced.toList.map Prod.snd).filter fun record => !isHidden record

/-- The tiers are the surface of a map and its closure. -/
structure IsExact
    (configuration : Configuration)
    (classes : ClassMap)
    (tiers : OutputTiers) : Prop where
  stubs :
    HoldsExactly tiers.stubs (stubClasses classes)
      (Stub.emitClass? { classes, referenced := classes.referenced, configuration })
  skeletons : HoldsExactly tiers.skeletons (skeletonClasses classes) emitSkeleton?
  disjoint : ∀ name ∈ tiers.stubs.keys, name ∉ tiers.skeletons.keys

/-! Distinct classes of a map have distinct entries. -/

section Names

variable {classes : ClassMap}

/-- Classes of a keyed map have different entry names. -/
theorem entryNames_nodup
    (keyed : classes.IsKeyedByName)
    (areClassTypes : ∀ record ∈ classes.records, Descriptor.IsClassType record.typeName) :
    (classes.records.map fun record => Descriptor.entryName record.typeName).Nodup := by
  have sameNames :
      (classes.records.map fun record => Descriptor.entryName record.typeName) =
        (classes.records.map ClassRecord.typeName).map Descriptor.entryName := by
    rw [List.map_map]
    rfl
  rw [sameNames]
  apply List.Nodup.map_on
  · intro first firstMember second secondMember sameEntry
    obtain ⟨firstRecord, inFirst, rfl⟩ := List.mem_map.mp firstMember
    obtain ⟨secondRecord, inSecond, rfl⟩ := List.mem_map.mp secondMember
    exact Descriptor.eq_of_entryName_eq (areClassTypes _ inFirst) (areClassTypes _ inSecond)
      sameEntry
  · rw [ClassMap.typeNames_eq_keys keyed]
    exact Std.TreeMap.nodup_keys

/-- A referenced class is an inaccessible class of the map. -/
theorem mem_records_of_referenced
    (keyed : classes.IsKeyedByName)
    {record : ClassRecord}
    (member : record ∈ ClassMap.records classes.referenced) :
    record ∈ classes.records ∧ record.flags.isInaccessible = true := by
  obtain ⟨typeName, stored⟩ := ClassMap.mem_records_iff.mp member
  rw [(ClassMap.referenced_equiv_reached keyed).getElem?_eq] at stored
  obtain ⟨inMap, inaccessible⟩ := ClassMap.isPartOf_reached keyed typeName record stored
  exact ⟨ClassMap.mem_records_of_getElem? inMap, inaccessible⟩

/-- A map of accessible classes needs no inaccessible one. -/
theorem records_referenced_eq_nil
    (keyed : classes.IsKeyedByName)
    (accessible : ∀ record ∈ classes.records, record.flags.isAccessible = true) :
    ClassMap.records classes.referenced = [] := by
  rw [List.eq_nil_iff_forall_not_mem]
  intro record member
  obtain ⟨inMap, inaccessible⟩ := mem_records_of_referenced keyed member
  have isAccessible := accessible record inMap
  rw [AccessFlags.isAccessible, inaccessible] at isAccessible
  cases isAccessible

/-- Classes of a map with the same entry are the same. -/
theorem eq_of_sameEntry
    (keyed : classes.IsKeyedByName)
    (areClassTypes : ∀ record ∈ classes.records, Descriptor.IsClassType record.typeName)
    {first second : ClassRecord}
    (inFirst : first ∈ classes.records)
    (inSecond : second ∈ classes.records)
    (sameEntry :
      Descriptor.entryName first.typeName = Descriptor.entryName second.typeName) :
    first = second := by
  have sameType := Descriptor.eq_of_entryName_eq (areClassTypes _ inFirst)
    (areClassTypes _ inSecond) sameEntry
  have firstStored := ClassMap.getElem?_typeName keyed inFirst
  rw [sameType, ClassMap.getElem?_typeName keyed inSecond] at firstStored
  exact (Option.some.inj firstStored).symm

/-- Every class of a merged map is one of the merged records and not synthetic. -/
theorem mem_of_mem_insertAll
    (records : List ClassRecord)
    {record : ClassRecord}
    (member : record ∈ (classes.insertAll records).records) :
    (record ∈ records ∧ record.flags.isSynthetic = false) ∨ record ∈ classes.records := by
  induction records generalizing classes with
  | nil => exact Or.inr member
  | cons first rest inductionHypothesis =>
      rcases inductionHypothesis member with ⟨inRest, isPlain⟩ | inFirst
      · exact Or.inl ⟨List.mem_cons_of_mem _ inRest, isPlain⟩
      · obtain ⟨typeName, stored⟩ := ClassMap.mem_records_iff.mp inFirst
        rw [ClassMap.insertFirst] at stored
        split at stored
        · next accepted =>
            rw [Std.TreeMap.getElem?_insert] at stored
            split at stored
            · obtain rfl := Option.some.inj stored
              rw [ClassMap.accepts, Bool.and_eq_true, Bool.not_eq_true'] at accepted
              exact Or.inl ⟨List.mem_cons_self, accepted.1⟩
            · exact Or.inr (ClassMap.mem_records_of_getElem? stored)
        · exact Or.inr (ClassMap.mem_records_of_getElem? stored)

end Names

/-! Emitted trees have the names of their classes, which are those that a tier keeps. -/

/-- A stub has the internal name of its class. -/
theorem name_of_gives_stub
    {surroundings : Stub.Surroundings}
    (record : ClassRecord)
    (tree : ClassTree)
    (gives : (Stub.emitClass? surroundings record).Gives (some tree)) :
    tree.name = record.internalName := by
  obtain ⟨_, emitted⟩ := gives .empty
  exact (Stub.emitClass?_eq_some emitted).2.2

/-- A class with a stub is accessible and not hidden. -/
theorem keeps_of_gives_stub
    {surroundings : Stub.Surroundings}
    (record : ClassRecord)
    (tree : ClassTree)
    (gives : (Stub.emitClass? surroundings record).Gives (some tree)) :
    (record.flags.isAccessible && !isHidden record) = true := by
  obtain ⟨_, emitted⟩ := gives .empty
  obtain ⟨accessible, isOpen, -⟩ := Stub.emitClass?_eq_some emitted
  rw [accessible, isHidden, isOpen]
  rfl

/-- A class without a stub is inaccessible or hidden. -/
theorem keeps_of_gives_no_stub
    {surroundings : Stub.Surroundings}
    (record : ClassRecord)
    (gives : (Stub.emitClass? surroundings record).Gives none) :
    (record.flags.isAccessible && !isHidden record) = false := by
  obtain ⟨_, emitted⟩ := gives .empty
  rcases Stub.emitClass?_eq_none emitted with inaccessible | hidden
  · rw [inaccessible, Bool.false_and]
  · rw [isHidden, hidden, Bool.not_true, Bool.and_false]

/-- A given skeleton is the one of the class. -/
theorem skeleton?_of_gives
    {record : ClassRecord}
    {tree? : Option ClassTree}
    (gives : (emitSkeleton? record).Gives tree?) :
    Stub.skeleton? record = .ok tree? := by
  obtain ⟨_, emitted⟩ := gives .empty
  exact RunError.ofRecord_eq_ok_iff.mp (Run.lift_eq_ok_iff.mp emitted).1

/-- A skeleton has the internal name of its class. -/
theorem name_of_gives_skeleton
    (record : ClassRecord)
    (tree : ClassTree)
    (gives : (emitSkeleton? record).Gives (some tree)) :
    tree.name = record.internalName :=
  (Stub.skeleton?_eq_some (skeleton?_of_gives gives)).2

/-- A class with a skeleton is not hidden. -/
theorem keeps_of_gives_skeleton
    (record : ClassRecord)
    (tree : ClassTree)
    (gives : (emitSkeleton? record).Gives (some tree)) :
    (!isHidden record) = true := by
  rw [isHidden, (Stub.skeleton?_eq_some (skeleton?_of_gives gives)).1]
  rfl

/-- A class without a skeleton is hidden. -/
theorem keeps_of_gives_no_skeleton
    (record : ClassRecord)
    (gives : (emitSkeleton? record).Gives none) :
    (!isHidden record) = false := by
  rw [isHidden, Stub.skeleton?_eq_none (skeleton?_of_gives gives)]
  rfl

/-! The whole extraction. -/

section Whole

variable
  {configuration : Configuration}
  {classes : ClassMap}
  {before after : Journal}
  {tiers result : OutputTiers}

/-- The type of the restriction annotation enters beside the stubs and skeletons. -/
theorem enterRestriction_eq_ok
    (succeeded : enterRestriction tiers before = .ok result after) :
    result.stubs = tiers.stubs
      ∧ result.skeletons = tiers.skeletons
      ∧ Run.Extends Event.IsQuiet before after := by
  rw [enterRestriction] at succeeded
  obtain ⟨journal, middle, given, rest⟩ := Run.bind_eq_ok_iff.mp succeeded
  cases given
  split at rest
  · obtain ⟨bytes, -, rfl, reported⟩ := enter_eq_ok rest
    refine ⟨rfl, rfl, reported.mono ?_⟩
    intro event member
    cases member
  · obtain ⟨rfl, rfl⟩ := Run.pure_eq_ok_iff.mp rest
    exact ⟨rfl, rfl, .refl before⟩

/--
A successful extraction runs its two passes and then enters the restriction annotation type.  The
first pass starts without a noted restriction.
-/
theorem exists_passes_of_transform
    (succeeded : transform configuration classes before = .ok tiers after) :
    ∃ start stubTiers middle skeletonStart bothTiers last,
      start.usesRestrictions = false
        ∧ Run.Extends Event.IsQuiet before start
        ∧ classes.records.foldlM
            (enterStub { classes, referenced := classes.referenced, configuration }) .empty start =
          .ok stubTiers middle
        ∧ Run.report (.skeletonsStarted classes.referenced.size) middle = .ok () skeletonStart
        ∧ (ClassMap.records classes.referenced).foldlM enterSkeleton stubTiers skeletonStart =
          .ok bothTiers last
        ∧ enterRestriction bothTiers last = .ok tiers after := by
  rw [transform] at succeeded
  obtain ⟨_, searched, searchReported, emitted⟩ := Run.bind_eq_ok_iff.mp succeeded
  rw [emit] at emitted
  obtain ⟨_, counted, countReported, emitted⟩ := Run.bind_eq_ok_iff.mp emitted
  obtain ⟨_, start, forgotten, emitted⟩ := Run.bind_eq_ok_iff.mp emitted
  obtain ⟨stubTiers, middle, stubsEntered, emitted⟩ := Run.bind_eq_ok_iff.mp emitted
  obtain ⟨_, skeletonStart, startReported, emitted⟩ := Run.bind_eq_ok_iff.mp emitted
  obtain ⟨bothTiers, last, skeletonsEntered, restrictionEntered⟩ := Run.bind_eq_ok_iff.mp emitted
  have searchExtends : Run.Extends Event.IsQuiet before searched :=
    Run.extends_of_report searchReported trivial
  have countExtends : Run.Extends Event.IsQuiet searched counted :=
    Run.extends_of_report countReported trivial
  cases forgotten
  have startExtends : Run.Extends Event.IsQuiet before { counted with usesRestrictions := false } :=
    searchExtends.trans countExtends
  exact ⟨_, stubTiers, middle, skeletonStart, bothTiers, last, rfl, startExtends, stubsEntered,
    startReported, skeletonsEntered, restrictionEntered⟩

/-- A successful extraction writes the files of its two passes and reports their entering. -/
theorem transform_eq_ok
    (succeeded : transform configuration classes before = .ok tiers after) :
    ∃ stubFiles skeletonFiles,
      List.Forall₂
          (Adds .stub
            (Stub.emitClass? { classes, referenced := classes.referenced, configuration }))
          classes.records stubFiles
        ∧ List.Forall₂ (Adds .skeleton emitSkeleton?)
            (ClassMap.records classes.referenced) skeletonFiles
        ∧ tiers.stubs =
            (OutputTiers.empty.writeAll
              (stubFiles.reduceOption ++ skeletonFiles.reduceOption)).stubs
        ∧ tiers.skeletons =
            (OutputTiers.empty.writeAll
              (stubFiles.reduceOption ++ skeletonFiles.reduceOption)).skeletons
        ∧ Run.Extends
            (fun event =>
              event.IsQuiet
                ∨ event ∈ OutputTiers.empty.eventsAll
                    (stubFiles.reduceOption ++ skeletonFiles.reduceOption))
            before after := by
  obtain ⟨start, stubTiers, middle, skeletonStart, bothTiers, last, -, startEvents, stubsEntered,
    startReported, skeletonsEntered, restrictionEntered⟩ := exists_passes_of_transform succeeded
  obtain ⟨stubFiles, addStubs, rfl, stubEvents⟩ :=
    foldlM_enter?_eq_ok (fun record => Stub.isSteady_emitClass?) name_of_gives_stub
      classes.records stubsEntered
  obtain ⟨skeletonFiles, addSkeletons, rfl, skeletonEvents⟩ :=
    foldlM_enter?_eq_ok (fun record => Run.isSteady_lift _) name_of_gives_skeleton
      (ClassMap.records classes.referenced) skeletonsEntered
  obtain ⟨sameStubs, sameSkeletons, restrictionEvents⟩ := enterRestriction_eq_ok restrictionEntered
  have sameTiers :
      (OutputTiers.empty.writeAll stubFiles.reduceOption).writeAll skeletonFiles.reduceOption =
        OutputTiers.empty.writeAll
          (stubFiles.reduceOption ++ skeletonFiles.reduceOption) := by
    rw [OutputTiers.writeAll, OutputTiers.writeAll, OutputTiers.writeAll, List.foldl_append]
  refine ⟨stubFiles, skeletonFiles, addStubs, addSkeletons, ?_, ?_, ?_⟩
  · rw [sameStubs, sameTiers]
  · rw [sameSkeletons, sameTiers]
  · rw [OutputTiers.eventsAll_append]
    refine (startEvents.mono fun _ isQuiet => Or.inl isQuiet).trans ?_
    refine (stubEvents.mono ?_).trans ?_
    · exact fun event known => known.imp_right fun member => List.mem_append_left _ member
    refine (Run.extends_of_report startReported (Or.inl trivial)).trans ?_
    refine (skeletonEvents.mono ?_).trans (restrictionEvents.mono fun _ isQuiet => Or.inl isQuiet)
    exact fun event known => known.imp_right fun member => List.mem_append_right _ member

/-- A class that adds a stub is accessible. -/
theorem accessible_of_adds_stub
    {surroundings : Stub.Surroundings}
    {record : ClassRecord}
    {file : TierWrite}
    (adds : Adds .stub (Stub.emitClass? surroundings) record (some file)) :
    record.flags.isAccessible = true := by
  obtain ⟨-, -, tree, _, gives, -, -⟩ := adds
  obtain ⟨_, emitted⟩ := gives .empty
  exact (Stub.emitClass?_eq_some emitted).1

/-- The two passes write under distinct names: a needed class is not accessible. -/
theorem fileNames_nodup
    (keyed : classes.IsKeyedByName)
    (areClassTypes : ∀ record ∈ classes.records, Descriptor.IsClassType record.typeName)
    {surroundings : Stub.Surroundings}
    {stubFiles skeletonFiles : List (Option TierWrite)}
    (addStubs :
      List.Forall₂ (Adds .stub (Stub.emitClass? surroundings)) classes.records stubFiles)
    (addSkeletons :
      List.Forall₂ (Adds .skeleton emitSkeleton?)
        (ClassMap.records classes.referenced) skeletonFiles) :
    ((stubFiles.reduceOption ++ skeletonFiles.reduceOption).map TierWrite.name).Nodup := by
  rw [List.map_append, List.nodup_append]
  refine ⟨?_, ?_, ?_⟩
  · exact (entryNames_nodup keyed areClassTypes).sublist (names_sublist addStubs)
  · have neededKeyed : ClassMap.IsKeyedByName classes.referenced :=
      ClassMap.isKeyedByName_referenced keyed
    refine (entryNames_nodup neededKeyed ?_).sublist (names_sublist addSkeletons)
    exact fun record member =>
      areClassTypes record (mem_records_of_referenced keyed member).1
  · intro stubName inStubs skeletonName inSkeletons sameName
    obtain ⟨stubFile, inStubFiles, rfl⟩ := List.mem_map.mp inStubs
    obtain ⟨skeletonFile, inSkeletonFiles, rfl⟩ := List.mem_map.mp inSkeletons
    obtain ⟨user, inMap, userAdds⟩ := exists_adds_of_mem addStubs inStubFiles
    obtain ⟨needed, inReferenced, neededAdds⟩ := exists_adds_of_mem addSkeletons inSkeletonFiles
    obtain ⟨neededInMap, inaccessible⟩ := mem_records_of_referenced keyed inReferenced
    rw [userAdds.2.1, neededAdds.2.1] at sameName
    have accessible := accessible_of_adds_stub userAdds
    rw [eq_of_sameEntry keyed areClassTypes inMap neededInMap sameName,
      AccessFlags.isAccessible, inaccessible] at accessible
    cases accessible

/-- The tiers of a successful extraction are exact, and no replacement is reported. -/
theorem isExact_of_isKeyedByName
    (keyed : classes.IsKeyedByName)
    (areClassTypes : ∀ record ∈ classes.records, Descriptor.IsClassType record.typeName)
    (succeeded : transform configuration classes before = .ok tiers after) :
    IsExact configuration classes tiers ∧ Run.Extends Event.IsQuiet before after := by
  obtain ⟨stubFiles, skeletonFiles, addStubs, addSkeletons, sameStubs, sameSkeletons, reported⟩ :=
    transform_eq_ok succeeded
  have distinct := fileNames_nodup keyed areClassTypes addStubs addSkeletons
  have neededKeyed : ClassMap.IsKeyedByName classes.referenced :=
    ClassMap.isKeyedByName_referenced keyed
  have neededTypes :
      ∀ record ∈ ClassMap.records classes.referenced, Descriptor.IsClassType record.typeName :=
    fun record member => areClassTypes record (mem_records_of_referenced keyed member).1
  have areClasses :
      ∀ file ∈ stubFiles.reduceOption ++ skeletonFiles.reduceOption,
        file.tier ≠ .restriction := by
    intro file member isRestriction
    rcases List.mem_append.mp member with inStubs | inSkeletons
    · cases isRestriction.symm.trans (tier_of_mem addStubs inStubs)
    · cases isRestriction.symm.trans (tier_of_mem addSkeletons inSkeletons)
  have stands := OutputTiers.holds_writeAll_empty_iff distinct areClasses
  have stubsStand :
      ∀ name content,
        tiers.stubs[name]? = some content
          ↔ (⟨.stub, name, content⟩ : TierWrite) ∈ stubFiles.reduceOption := by
    intro name content
    rw [sameStubs]
    refine (stands ⟨.stub, name, content⟩).trans ?_
    rw [List.mem_append, or_iff_left]
    intro inSkeletons
    cases tier_of_mem addSkeletons inSkeletons
  have skeletonsStand :
      ∀ name content,
        tiers.skeletons[name]? = some content
          ↔ (⟨.skeleton, name, content⟩ : TierWrite) ∈ skeletonFiles.reduceOption := by
    intro name content
    rw [sameSkeletons]
    refine (stands ⟨.skeleton, name, content⟩).trans ?_
    rw [List.mem_append, or_iff_right]
    intro inStubs
    cases tier_of_mem addStubs inStubs
  refine ⟨⟨?_, ?_, ?_⟩, ?_⟩
  · exact holdsExactly_of_adds addStubs (entryNames_nodup keyed areClassTypes) stubsStand _
      keeps_of_gives_stub keeps_of_gives_no_stub
  · exact holdsExactly_of_adds addSkeletons
      (entryNames_nodup neededKeyed neededTypes) skeletonsStand _
      keeps_of_gives_skeleton keeps_of_gives_no_skeleton
  · intro name inStubs inSkeletons
    have stubStored := Std.TreeMap.getElem?_eq_some_getElem (Std.TreeMap.mem_keys.mp inStubs)
    have skeletonStored :=
      Std.TreeMap.getElem?_eq_some_getElem (Std.TreeMap.mem_keys.mp inSkeletons)
    rw [List.map_append, List.nodup_append] at distinct
    exact distinct.2.2 _ (List.mem_map_of_mem ((stubsStand _ _).mp stubStored))
      _ (List.mem_map_of_mem ((skeletonsStand _ _).mp skeletonStored)) rfl
  · rw [OutputTiers.eventsAll_eq_nil _ distinct fun file _ =>
      OutputTiers.isFresh_empty file.name] at reported
    exact reported.mono fun event known => known.resolve_right List.not_mem_nil

/--
The tiers of a successful extraction are the surface of the merged classes and its closure, every
entry comes from a merged record that is not synthetic, and no replacement is reported.
-/
theorem transform_isExact
    {records : List ClassRecord}
    (areClassTypes : ∀ record ∈ records, Descriptor.IsClassType record.typeName)
    (succeeded :
      transform configuration (ClassMap.insertAll ∅ records) before = .ok tiers after) :
    IsExact configuration (ClassMap.insertAll ∅ records) tiers
      ∧ (∀ record ∈
            stubClasses (ClassMap.insertAll ∅ records)
              ++ skeletonClasses (ClassMap.insertAll ∅ records),
          record ∈ records ∧ record.flags.isSynthetic = false)
      ∧ Run.Extends Event.IsQuiet before after := by
  have keyed := ClassMap.isKeyedByName_insertAll ClassMap.isKeyedByName_empty records
  have merged :
      ∀ record ∈ (ClassMap.insertAll ∅ records).records,
        record ∈ records ∧ record.flags.isSynthetic = false := by
    intro record member
    rcases mem_of_mem_insertAll records member with isMerged | wasPresent
    · exact isMerged
    · simp [ClassMap.records] at wasPresent
  obtain ⟨isExact, quiet⟩ := isExact_of_isKeyedByName keyed
    (fun record member => areClassTypes record (merged record member).1) succeeded
  refine ⟨isExact, ?_, quiet⟩
  intro record member
  rcases List.mem_append.mp member with inStubs | inSkeletons
  · exact merged record (List.mem_of_mem_filter inStubs)
  · exact merged record
      (mem_records_of_referenced keyed (List.mem_of_mem_filter inSkeletons)).1

end Whole

/-- An inaccessible class. -/
def shape : ClassRecord :=
  { (default : ClassRecord) with
    typeName := "Lpkg/Shape;"
    superclass := some Descriptor.object }

/-- A public class with an inaccessible superclass. -/
def circle : ClassRecord :=
  { (default : ClassRecord) with
    typeName := "Lpkg/Circle;"
    flags := AccessFlags.publicBit
    superclass := some "Lpkg/Shape;" }

/-- A public class above an inaccessible one. -/
def shapes : ClassMap :=
  ClassMap.insertAll ∅ [circle, shape]

/-- Stubs without an added static initialiser. -/
def bareStubs : Configuration :=
  { Configuration.standard with stubInitializer := false }

/-- The superclass of the public class is the only referenced one. -/
theorem referenced_shapes :
    shapes.referenced = (∅ : ReferencedSet).insert "Lpkg/Shape;" shape := by
  have mentions :
      shapes.accessibleClasses.flatMap ClassRecord.surfaceMentions = ["Lpkg/Shape;"] := rfl
  have resolved : shapes.inaccessible? "Lpkg/Shape;" = some shape := rfl
  have reached : shapes.reached = (∅ : ReferencedSet).insert "Lpkg/Shape;" shape := by
    rw [ClassMap.reached, mentions, ClassMap.follow_cons_of_fresh resolved (by simp),
      List.append_nil]
    exact (ClassMap.follow_cons_of_unresolved rfl _ _).trans (ClassMap.follow_nil _ _)
  rw [ClassMap.referenced, reached]
  rfl

/-- A written class enters its tier without an event if its name is new. -/
theorem enter_of_write
    {tier : Tier}
    {tiers : OutputTiers}
    {tree : ClassTree}
    {bytes : List UInt8}
    (written : tree.write = .ok bytes)
    (noEvent : tiers.events ⟨tier, tree.entryName, bytes.toByteArray⟩ = [])
    (journal : Journal) :
    enter tier tiers tree journal =
      .ok (tiers.write ⟨tier, tree.entryName, bytes.toByteArray⟩) journal := by
  rw [enter, written]
  apply Run.bind_eq_ok_iff.mpr
  refine ⟨bytes, journal, rfl, Run.bind_eq_ok_iff.mpr ⟨(), journal, ?_, rfl⟩⟩
  rw [noEvent]
  rfl

/-- An extraction whose two passes report nothing succeeds without the restriction annotation. -/
theorem exists_transform_of_entered
    {configuration : Configuration}
    {classes : ClassMap}
    {stubTiers tiers : OutputTiers}
    (stubsEntered : ∀ journal,
      classes.records.foldlM
          (enterStub { classes, referenced := classes.referenced, configuration }) .empty journal
        = .ok stubTiers journal)
    (skeletonsEntered : ∀ journal,
      (classes.referenced.toList.map Prod.snd).foldlM enterSkeleton stubTiers journal
        = .ok tiers journal) :
    ∃ tiers after, transform configuration classes .empty = .ok tiers after := by
  rw [transform]
  simp only [Run.bind_eq_ok_iff, emit]
  exact ⟨_, _, (), _, rfl, (), _, rfl, (), _, rfl, _, _, stubsEntered _, (), _, rfl, _, _,
    skeletonsEntered _, rfl⟩

/-- The extraction of the public class with its superclass succeeds. -/
theorem transform_shapes :
    ∃ tiers after, transform bareStubs shapes .empty = .ok tiers after := by
  have circleCurrent : (Stub.classFlags circle).has AccessFlags.deprecatedBit = false := rfl
  have shapeCurrent : (Stub.classFlags shape).has AccessFlags.deprecatedBit = false := rfl
  obtain ⟨circleBytes, circleWritten⟩ :=
    ClassFile.exists_write_plainTree circleCurrent
      (by decide : "pkg/Circle" ≠ "pkg/Shape") (by decide) (by decide)
  obtain ⟨shapeBytes, shapeWritten⟩ :=
    ClassFile.exists_write_plainTree shapeCurrent
      (by decide : "pkg/Shape" ≠ "java/lang/Object") (by decide) (by decide)
  let surroundings : Stub.Surroundings :=
    { classes := shapes, referenced := shapes.referenced, configuration := bareStubs }
  let stubTiers :=
    OutputTiers.empty.write ⟨.stub, "pkg/Circle.class", circleBytes.toByteArray⟩
  have stubsEntered (journal : Journal) :
      shapes.records.foldlM (enterStub surroundings) .empty journal = .ok stubTiers journal := by
    have inOrder : shapes.records = [circle, shape] := rfl
    rw [inOrder, List.foldlM_cons]
    apply Run.bind_eq_ok_iff.mpr
    refine ⟨_, journal, Run.bind_eq_ok_iff.mpr ⟨_, journal, rfl, ?_⟩, rfl⟩
    exact enter_of_write circleWritten rfl journal
  have skeletonsEntered (journal : Journal) :
      (shapes.referenced.toList.map Prod.snd).foldlM enterSkeleton stubTiers journal =
        .ok (stubTiers.write ⟨.skeleton, "pkg/Shape.class", shapeBytes.toByteArray⟩) journal := by
    have inOrder : shapes.referenced.toList.map Prod.snd = [shape] := by
      rw [referenced_shapes]
      rfl
    rw [inOrder, List.foldlM_cons]
    apply Run.bind_eq_ok_iff.mpr
    refine ⟨_, journal, Run.bind_eq_ok_iff.mpr ⟨_, journal, rfl, ?_⟩, rfl⟩
    have differ : "pkg/Circle.class" ≠ "pkg/Shape.class" := by decide
    have fresh : stubTiers.IsFresh "pkg/Shape.class" :=
      (OutputTiers.isFresh_empty _).write differ
    exact enter_of_write shapeWritten (OutputTiers.events_eq_nil fresh) journal
  exact exists_transform_of_entered stubsEntered skeletonsEntered

/-- The public class has a stub, the inaccessible one a skeleton, and there is nothing else. -/
theorem transform_isExact_shapes :
    ∃ tiers after,
      transform bareStubs shapes .empty = .ok tiers after
        ∧ IsExact bareStubs shapes tiers
        ∧ tiers.stubs.keys = ["pkg/Circle.class"]
        ∧ tiers.skeletons.keys = ["pkg/Shape.class"] := by
  obtain ⟨tiers, after, succeeded⟩ := transform_shapes
  have areClassTypes : ∀ record ∈ [circle, shape], Descriptor.IsClassType record.typeName := by
    intro record member
    rcases List.mem_pair.mp member with rfl | rfl
    · exact ⟨"pkg/Circle", rfl⟩
    · exact ⟨"pkg/Shape", rfl⟩
  obtain ⟨isExact, -, -⟩ := transform_isExact areClassTypes succeeded
  refine ⟨tiers, after, succeeded, isExact, ?_, ?_⟩
  · exact List.perm_singleton.mp isExact.stubs.names
  · have names := isExact.skeletons.names
    rw [skeletonClasses, show (ClassMap.insertAll ∅ [circle, shape]).referenced = _ from
      referenced_shapes] at names
    exact List.perm_singleton.mp names

end Extraction

end DexSurface
