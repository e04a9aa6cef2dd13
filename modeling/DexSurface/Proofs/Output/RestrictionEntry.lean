import DexSurface.Proofs.GivenValues
import DexSurface.Proofs.Output.EmittedHierarchy
import DexSurface.Proofs.Output.PackagedNames
import DexSurface.Proofs.Output.RestrictedClass

namespace DexSurface

/-!
# The entry of the restriction annotation type

Stubs and skeletons never share a name.  The restriction annotation type enters beside them without
looking at their names, so a map that has a class of this type itself can end with two entries for
it, and such an extraction cannot be packaged.
-/

/-- The type of the restriction annotation is a class type. -/
theorem Stub.isClassType_restrictionType : Descriptor.IsClassType restrictionType :=
  ⟨"android/annotation/HiddenApiRestriction", rfl⟩

namespace Extraction

open ClassFile (ClassTree)

variable
  {configuration : Configuration}
  {classes : ClassMap}
  {before after : Journal}
  {tiers result : OutputTiers}

/-- A class that enters a tier leaves the restriction type as it was. -/
theorem restriction_enter?
    {tier : Tier}
    {tree? : Option ClassTree}
    (isClass : tier ≠ .restriction)
    (entered : CanGive (enter? tier tiers tree?) result) :
    result.restriction = tiers.restriction := by
  obtain ⟨before, after, succeeded⟩ := entered
  cases tree? with
  | none =>
      obtain ⟨rfl, -⟩ := Run.pure_eq_ok_iff.mp succeeded
      rfl
  | some tree =>
      obtain ⟨bytes, -, rfl, -⟩ := enter_eq_ok succeeded
      rw [OutputTiers.restriction_write, if_neg (by simpa using isClass)]

/-- A pass that enters stubs or skeletons leaves the restriction type as it is. -/
theorem restriction_foldlM_enter?
    {tier : Tier}
    {tree? : ClassRecord → Run (Option ClassTree)}
    {records : List ClassRecord}
    (isClass : tier ≠ .restriction)
    (entered :
      CanGive
        (records.foldlM (fun tiers record => tree? record >>= enter? tier tiers) tiers) result) :
    result.restriction = tiers.restriction := by
  refine isGiving_state.foldlM_induction
    (motive := fun reached => reached.restriction = tiers.restriction) entered rfl ?_
  intro earlier later record _ same stepped
  obtain ⟨_, -, stepEntered⟩ := isGiving_state.of_bind stepped
  rw [restriction_enter? isClass stepEntered, same]

/-- The restriction type enters under its own entry name. -/
theorem restriction_enterRestriction
    (unset : tiers.restriction = none)
    (entered : CanGive (enterRestriction tiers) result) :
    ∀ file,
      result.restriction = some file → file.1 = Descriptor.entryName Stub.restrictionType := by
  intro file stands
  rw [enterRestriction] at entered
  obtain ⟨journal, -, rest⟩ := isGiving_state.of_bind entered
  split at rest
  · obtain ⟨_, _, succeeded⟩ := rest
    obtain ⟨bytes, -, rfl, -⟩ := enter_eq_ok succeeded
    rw [OutputTiers.restriction_write] at stands
    cases stands
    rfl
  · obtain rfl := isGiving_state.of_pure rest
    rw [unset] at stands
    cases stands

/-- The two passes leave the restriction type unset. -/
theorem restriction_passes
    {surroundings : Stub.Surroundings}
    {stubTiers bothTiers : OutputTiers}
    {start middle skeletonStart last : Journal}
    {records others : List ClassRecord}
    (stubsEntered : records.foldlM (enterStub surroundings) .empty start = .ok stubTiers middle)
    (skeletonsEntered :
      others.foldlM enterSkeleton stubTiers skeletonStart = .ok bothTiers last) :
    bothTiers.restriction = none := by
  have skeletonsKept : bothTiers.restriction = stubTiers.restriction :=
    restriction_foldlM_enter? (by decide : Tier.skeleton ≠ .restriction)
      ⟨_, _, skeletonsEntered⟩
  have stubsKept : stubTiers.restriction = none :=
    restriction_foldlM_enter? (by decide : Tier.stub ≠ .restriction) ⟨_, _, stubsEntered⟩
  rw [skeletonsKept, stubsKept]

/-- The restriction type of an extraction has the entry name of the annotation type. -/
theorem restriction_transform
    (succeeded : transform configuration classes before = .ok tiers after) :
    ∀ file,
      tiers.restriction = some file → file.1 = Descriptor.entryName Stub.restrictionType := by
  obtain ⟨start, stubTiers, middle, skeletonStart, bothTiers, last, -, -, stubsEntered, -,
    skeletonsEntered, restrictionEntered⟩ := exists_passes_of_transform succeeded
  have unset : bothTiers.restriction = none := restriction_passes stubsEntered skeletonsEntered
  exact restriction_enterRestriction unset ⟨last, after, restrictionEntered⟩

/-- The restriction type is left out, or the map emits no class of this type itself. -/
def KeepsRestrictionApart (classes : ClassMap) (tiers : OutputTiers) : Prop :=
  tiers.restriction = none
    ∨ ∀ record ∈ stubClasses classes ++ skeletonClasses classes,
        record.typeName ≠ Stub.restrictionType

/--
The names of the entries are distinct exactly if the restriction type stands apart.  A name stands
in neither tier if no emitted class of the map has an entry of this name.
-/
theorem nodup_names_transform_iff
    (keyed : classes.IsKeyedByName)
    (areClassTypes : ∀ record ∈ classes.records, Descriptor.IsClassType record.typeName)
    (succeeded : transform configuration classes before = .ok tiers after) :
    tiers.names.Nodup ↔ KeepsRestrictionApart classes tiers := by
  have isExact := (isExact_of_isKeyedByName keyed areClassTypes succeeded).1
  have disjoint : ∀ name ∈ tiers.stubs, name ∉ tiers.skeletons := by
    intro name inStubs inSkeletons
    exact isExact.disjoint name (Std.TreeMap.mem_keys.mpr inStubs)
      (Std.TreeMap.mem_keys.mpr inSkeletons)
  have isEntry :
      ∀ {name}, (name ∉ tiers.stubs ∧ name ∉ tiers.skeletons)
        ↔ ∀ record ∈ stubClasses classes ++ skeletonClasses classes,
            Descriptor.entryName record.typeName ≠ name := by
    intro name
    rw [isExact.stubs.mem_iff, isExact.skeletons.mem_iff, List.forall_mem_append]
    simp
  rw [OutputTiers.nodup_names_iff, and_iff_right disjoint, KeepsRestrictionApart]
  constructor
  · intro isApart
    cases stands : tiers.restriction with
    | none => exact Or.inl rfl
    | some file =>
        refine Or.inr fun record member sameType => ?_
        refine isEntry.mp (isApart file stands) record member ?_
        rw [sameType, restriction_transform succeeded file stands]
  · intro noClass file stands
    rw [isEntry, restriction_transform succeeded file stands]
    intro record member sameEntry
    have differ := noClass.resolve_left (by rw [stands]; nofun) record member
    have inMap := (isNeeded_of_mem keyed (List.mem_append.mp member)).1
    exact differ (Descriptor.eq_of_entryName_eq (areClassTypes record inMap)
      Stub.isClassType_restrictionType sameEntry)

/--
The entry names of an extraction are distinct exactly if the restriction type stands apart from the
classes of the map.  Exactly then the extraction can be packaged without resources, provided that
the level exists or there is no entry.
-/
theorem packages_iff_keepsRestrictionApart
    (keyed : classes.IsKeyedByName)
    (areClassTypes : ∀ record ∈ classes.records, Descriptor.IsClassType record.typeName)
    (succeeded : transform configuration classes before = .ok tiers after) :
    (tiers.names.Nodup ↔ KeepsRestrictionApart classes tiers)
      ∧ (configuration.splicesResources = false →
          ∀ files journal,
            (∃ summary final,
                Package.write configuration files tiers journal = .ok summary final)
              ↔ KeepsRestrictionApart classes tiers
                ∧ (tiers.entries = []
                  ∨ Package.isLevel configuration.compressionLevel = true)) := by
  have distinct := nodup_names_transform_iff keyed areClassTypes succeeded
  refine ⟨distinct, fun unspliced files journal => ?_⟩
  rw [← distinct]
  exact Package.exists_write_eq_ok_iff unspliced files tiers journal

/-! Maps with a restricted member. -/

/-- A public class with a field on the blacklist. -/
def restrictedApi : ClassRecord :=
  { (default : ClassRecord) with
    typeName := "Lpkg/Api;"
    flags := AccessFlags.publicBit
    superclass := some Descriptor.object
    fields := [{ (default : FieldRecord) with
      name := "count"
      fieldType := "I"
      flags := AccessFlags.publicBit
      hiddenApi := .ofList [.blacklist] }] }

/-- The restriction annotation type as a public class of the platform. -/
def ownRestriction : ClassRecord :=
  { (default : ClassRecord) with
    typeName := Stub.restrictionType
    flags := AccessFlags.publicBit ||| AccessFlags.annotationBit ||| AccessFlags.abstractBit
      ||| AccessFlags.interfaceBit
    superclass := some Descriptor.object }

/-- Stubs without an added static initialiser, in an archive without resources. -/
def unsplicedStubs : Configuration :=
  { bareStubs with appendResourceBlocks := false, appendResourceFiles := false }

/-- A map of accessible classes whose stubs note a restriction gets the annotation type as well. -/
theorem transform_of_restricted
    {stubTiers : OutputTiers}
    {bytes : List UInt8}
    (keyed : classes.IsKeyedByName)
    (accessible : ∀ record ∈ classes.records, record.flags.isAccessible = true)
    (stubsEntered : ∀ journal,
      classes.records.foldlM
          (enterStub { classes, referenced := classes.referenced, configuration }) .empty journal
        = .ok stubTiers { journal with usesRestrictions := true })
    (written : Stub.restrictionTree.write = .ok bytes) :
    ∃ after,
      transform configuration classes .empty =
        .ok
          (stubTiers.write
            ⟨.restriction, "android/annotation/HiddenApiRestriction.class", bytes.toByteArray⟩)
          after := by
  have skeletonsEntered (journal : Journal) :
      (ClassMap.records classes.referenced).foldlM enterSkeleton stubTiers journal =
        .ok stubTiers journal := by
    rw [records_referenced_eq_nil keyed accessible]
    rfl
  have restrictionEntered (journal : Journal) (uses : journal.usesRestrictions = true) :
      enterRestriction stubTiers journal =
        .ok
          (stubTiers.write
            ⟨.restriction, "android/annotation/HiddenApiRestriction.class", bytes.toByteArray⟩)
          journal := by
    rw [enterRestriction]
    refine Run.bind_eq_ok_iff.mpr ⟨journal, journal, rfl, ?_⟩
    rw [if_pos uses]
    exact enter_of_write written rfl journal
  rw [transform]
  simp only [Run.bind_eq_ok_iff, emit]
  exact ⟨_, (), _, rfl, (), _, rfl, (), _, rfl, _, _, stubsEntered _, (), _, rfl, _, _,
    skeletonsEntered _, restrictionEntered _ rfl⟩

/-- A platform with a restricted member. -/
def restrictedPlatform : ClassMap :=
  ClassMap.insertAll ∅ [restrictedApi]

/-- The platform with a restricted member is keyed by name. -/
theorem isKeyedByName_restrictedPlatform : restrictedPlatform.IsKeyedByName :=
  ClassMap.isKeyedByName_insertAll ClassMap.isKeyedByName_empty _

/-- The platform with a restricted member is extracted with the restriction type. -/
theorem transform_restrictedPlatform :
    ∃ stub restriction after,
      transform unsplicedStubs restrictedPlatform .empty =
        .ok
          (OutputTiers.empty.writeAll
            [⟨.stub, "pkg/Api.class", stub⟩,
              ⟨.restriction, "android/annotation/HiddenApiRestriction.class", restriction⟩])
          after := by
  obtain ⟨bytes, written⟩ := ClassFile.exists_write_restrictedTree
  obtain ⟨restriction, restrictionWritten⟩ := ClassFile.exists_write_restrictionTree
  have inOrder : restrictedPlatform.records = [restrictedApi] := rfl
  refine ⟨bytes.toByteArray, restriction.toByteArray,
    transform_of_restricted isKeyedByName_restrictedPlatform ?_ ?_ restrictionWritten⟩
  · rw [inOrder]
    exact List.forall_mem_singleton.mpr rfl
  · intro journal
    rw [inOrder, List.foldlM_cons]
    apply Run.bind_eq_ok_iff.mpr
    refine ⟨_, _, Run.bind_eq_ok_iff.mpr ⟨_, _, rfl, ?_⟩, rfl⟩
    exact enter_of_write written rfl _

/-- A platform with a restricted member that declares the annotation type itself. -/
def declaringPlatform : ClassMap :=
  ClassMap.insertAll ∅ [ownRestriction, restrictedApi]

/-- The platform that declares the restriction type is keyed by name. -/
theorem isKeyedByName_declaringPlatform : declaringPlatform.IsKeyedByName :=
  ClassMap.isKeyedByName_insertAll ClassMap.isKeyedByName_empty _

/-- The platform that declares the restriction type is extracted with a second one. -/
theorem transform_declaringPlatform :
    ∃ own stub restriction after,
      transform unsplicedStubs declaringPlatform .empty =
        .ok
          (OutputTiers.empty.writeAll
            [⟨.stub, "android/annotation/HiddenApiRestriction.class", own⟩,
              ⟨.stub, "pkg/Api.class", stub⟩,
              ⟨.restriction, "android/annotation/HiddenApiRestriction.class", restriction⟩])
          after := by
  have isCurrent : (Stub.classFlags ownRestriction).has AccessFlags.deprecatedBit = false := rfl
  obtain ⟨own, ownWritten⟩ :=
    ClassFile.exists_write_plainTree isCurrent
      (by decide : "android/annotation/HiddenApiRestriction" ≠ "java/lang/Object") (by decide)
      (by decide)
  obtain ⟨bytes, written⟩ := ClassFile.exists_write_restrictedTree
  obtain ⟨restriction, restrictionWritten⟩ := ClassFile.exists_write_restrictionTree
  have inOrder : declaringPlatform.records = [ownRestriction, restrictedApi] := rfl
  refine ⟨own.toByteArray, bytes.toByteArray, restriction.toByteArray,
    transform_of_restricted isKeyedByName_declaringPlatform ?_ ?_ restrictionWritten⟩
  · rw [inOrder]
    intro record member
    rcases List.mem_pair.mp member with rfl | rfl <;> rfl
  · intro journal
    rw [inOrder, List.foldlM_cons]
    apply Run.bind_eq_ok_iff.mpr
    refine ⟨_, _, Run.bind_eq_ok_iff.mpr ⟨_, _, rfl, enter_of_write ownWritten rfl journal⟩, ?_⟩
    rw [List.foldlM_cons]
    apply Run.bind_eq_ok_iff.mpr
    refine ⟨_, _, Run.bind_eq_ok_iff.mpr ⟨_, _, rfl, enter_of_write written ?_ _⟩, rfl⟩
    have differ : "android/annotation/HiddenApiRestriction.class" ≠ "pkg/Api.class" := by decide
    exact OutputTiers.events_eq_nil ((OutputTiers.isFresh_empty _).write differ)

/-- The platform with the restricted member has no clash and can be packaged. -/
theorem packages_restrictedPlatform :
    restrictedPlatform.IsKeyedByName
      ∧ (∀ record ∈ restrictedPlatform.records, Descriptor.IsClassType record.typeName)
      ∧ unsplicedStubs.splicesResources = false
      ∧ ∃ tiers after,
          transform unsplicedStubs restrictedPlatform .empty = .ok tiers after
            ∧ tiers.restriction.isSome = true
            ∧ tiers.names.Nodup
            ∧ ∀ files journal,
                ∃ summary final,
                  Package.write unsplicedStubs files tiers journal = .ok summary final := by
  have keyed := isKeyedByName_restrictedPlatform
  have inOrder : restrictedPlatform.records = [restrictedApi] := rfl
  have areClassTypes :
      ∀ record ∈ restrictedPlatform.records, Descriptor.IsClassType record.typeName := by
    rw [inOrder]
    exact List.forall_mem_singleton.mpr ⟨"pkg/Api", rfl⟩
  obtain ⟨stub, restriction, after, succeeded⟩ := transform_restrictedPlatform
  have isApart :
      KeepsRestrictionApart restrictedPlatform
        (OutputTiers.empty.writeAll
          [⟨.stub, "pkg/Api.class", stub⟩,
            ⟨.restriction, "android/annotation/HiddenApiRestriction.class", restriction⟩]) := by
    refine Or.inr fun record member => ?_
    have inMap := (isNeeded_of_mem keyed (List.mem_append.mp member)).1
    obtain rfl := List.mem_singleton.mp (inOrder ▸ inMap)
    decide
  obtain ⟨distinct, packages⟩ := packages_iff_keepsRestrictionApart keyed areClassTypes succeeded
  refine ⟨keyed, areClassTypes, rfl, _, after, succeeded, rfl, distinct.mpr isApart, ?_⟩
  intro files journal
  exact (packages rfl files journal).mpr ⟨isApart, Or.inr rfl⟩

/-- The platform that declares the annotation type gets a second entry for it and no package. -/
theorem not_packages_declaringPlatform :
    declaringPlatform.IsKeyedByName
      ∧ (∀ record ∈ declaringPlatform.records, Descriptor.IsClassType record.typeName)
      ∧ unsplicedStubs.splicesResources = false
      ∧ ∃ tiers after,
          transform unsplicedStubs declaringPlatform .empty = .ok tiers after
            ∧ ¬ tiers.names.Nodup
            ∧ ∀ files journal,
                ¬ ∃ summary final,
                    Package.write unsplicedStubs files tiers journal = .ok summary final := by
  have areClassTypes :
      ∀ record ∈ declaringPlatform.records, Descriptor.IsClassType record.typeName := by
    intro record member
    rcases List.mem_pair.mp member with rfl | rfl
    · exact Stub.isClassType_restrictionType
    · exact ⟨"pkg/Api", rfl⟩
  obtain ⟨own, stub, restriction, after, succeeded⟩ := transform_declaringPlatform
  have notDistinct :
      ¬ (OutputTiers.empty.writeAll
          [⟨.stub, "android/annotation/HiddenApiRestriction.class", own⟩,
            ⟨.stub, "pkg/Api.class", stub⟩,
            ⟨.restriction, "android/annotation/HiddenApiRestriction.class", restriction⟩]
        ).names.Nodup := by
    simp only [OutputTiers.writeAll, List.foldl, OutputTiers.write]
    intro distinct
    exact (List.nodup_cons.mp distinct).1 (List.mem_cons_of_mem _ List.mem_cons_self)
  refine ⟨isKeyedByName_declaringPlatform, areClassTypes, rfl, _, after, succeeded, notDistinct, ?_⟩
  intro files journal written
  exact notDistinct ((Package.exists_write_eq_ok_iff rfl files _ journal).mp written).1

end Extraction

end DexSurface
