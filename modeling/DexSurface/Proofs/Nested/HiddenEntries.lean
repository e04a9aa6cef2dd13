import DexSurface.Proofs.Nested.TwoDescriptions
import DexSurface.Proofs.Output.EmittedHierarchy
import DexSurface.Proofs.Output.RestrictedClass

namespace DexSurface

/-!
# Entries about hidden nested classes

A stub keeps its entry about a hidden nested class if the class is referenced, but emission leaves
out every hidden nested class.  Such an entry is therefore always about a class that no tier has,
and it is there exactly if a stub lists a referenced hidden class as a member class.
-/

namespace Extraction

open ClassFile (InnerClass ClassTree)

/-- Every hidden nested class that a stub has an entry about has a skeleton. -/
def EmitsDescribed
    (configuration : Configuration)
    (classes : ClassMap)
    (tiers : OutputTiers) : Prop :=
  ∀ record ∈ classes.records,
    ∀ tree,
      CanGive (Stub.emitClass? ⟨classes, classes.referenced, configuration⟩ record) (some tree) →
      ∀ entry ∈ tree.innerClasses,
        ∀ nested ∈ classes.records,
          entry.name = nested.internalName →
          Stub.isHiddenNested nested = .ok true →
          Descriptor.entryName nested.typeName ∈ tiers.skeletons

/-- No class with a stub lists a referenced hidden class as a member class. -/
def ListsNoHidden (classes : ClassMap) : Prop :=
  ∀ record ∈ stubClasses classes,
    ∀ nested,
      classes.referenced.Holds nested →
      Stub.isHiddenNested nested = .ok true →
      ¬ record.annotations.Lists Platform.memberClasses nested.typeName

variable
  {configuration : Configuration}
  {classes : ClassMap}
  {before after : Journal}
  {tiers : OutputTiers}
  {record nested : ClassRecord}
  {tree : ClassTree}

/-! Hidden classes. -/

/-- A hidden nested class has a marker with inaccessible flags. -/
theorem exists_marker_of_isHiddenNested (hidden : Stub.isHiddenNested nested = .ok true) :
    ∃ marker,
      nested.innerClassMarker? = .ok (some marker) ∧ marker.flags.isInaccessible = true := by
  obtain ⟨marker?, marked, rest⟩ := isGiving_except.of_bind hidden
  cases marker? with
  | none => cases Except.ok.inj rest
  | some marker => exact ⟨marker, marked, Except.ok.inj rest⟩

/-- A class with an inaccessible marker keeps its entries only as a referenced class. -/
theorem keepsInnerClass_eq_contains
    {surroundings : Stub.Surroundings}
    {marker : InnerClassMarker}
    (inaccessible : marker.flags.isInaccessible = true)
    (typeName : TypeDescriptor) :
    surroundings.keepsInnerClass typeName marker = surroundings.referenced.contains typeName := by
  simp [Stub.Surroundings.keepsInnerClass, AccessFlags.isAccessible, inaccessible]

/-- A class found to be a hidden nested class is hidden. -/
theorem isHidden_of_isHiddenNested (hidden : Stub.isHiddenNested nested = .ok true) :
    isHidden nested = true := by
  rw [isHidden, hidden]

/-- No tier has a hidden nested class. -/
theorem IsExact.not_emits_of_isHiddenNested
    (isExact : IsExact configuration classes tiers)
    (keyed : classes.IsKeyedByName)
    (areClassTypes : ∀ record ∈ classes.records, Descriptor.IsClassType record.typeName)
    (inMap : nested ∈ classes.records)
    (hidden : Stub.isHiddenNested nested = .ok true) :
    ¬ Emits tiers nested := by
  intro emitted
  have isOpen := isHidden_eq_false_of_mem ((isExact.emits_iff keyed areClassTypes inMap).mp emitted)
  rw [isHidden_of_isHiddenNested hidden] at isOpen
  cases isOpen

/-! The classes of a map by their names. -/

/-- Classes of a keyed map with one internal name are the same. -/
theorem eq_of_sameInternalName
    (keyed : classes.IsKeyedByName)
    (areClassTypes : ∀ record ∈ classes.records, Descriptor.IsClassType record.typeName)
    (inRecords : record ∈ classes.records)
    (inMap : nested ∈ classes.records)
    (sameName : record.internalName = nested.internalName) :
    record = nested :=
  eq_of_sameEntry keyed areClassTypes inRecords inMap (congrArg (· ++ ".class") sameName)

/-- A class of the map whose name is referenced is referenced. -/
theorem holds_of_contains_referenced
    {typeName : TypeDescriptor}
    (keyed : classes.IsKeyedByName)
    (stored : classes[typeName]? = some nested)
    (present : classes.referenced.contains typeName = true) :
    classes.referenced.Holds nested := by
  rw [Std.TreeMap.contains_eq_isSome_getElem?] at present
  obtain ⟨found, isFound⟩ := Option.isSome_iff_exists.mp present
  have inReached := (ClassMap.referenced_equiv_reached keyed).getElem?_eq (k := typeName)
  rw [isFound] at inReached
  have sameClass := (ClassMap.isPartOf_reached keyed typeName found inReached.symm).1
  rw [stored] at sameClass
  obtain rfl := Option.some.inj sameClass
  rw [ReferencedSet.Holds, keyed typeName nested stored]
  exact isFound

/-- A class of the map for which a stub is emitted has a stub. -/
theorem mem_stubClasses_of_emitClass?
    {surroundings : Stub.Surroundings}
    (inRecords : record ∈ classes.records)
    (given : CanGive (Stub.emitClass? surroundings record) (some tree)) :
    record ∈ stubClasses classes := by
  obtain ⟨_, _, emitted⟩ := given
  obtain ⟨accessible, isOpen, -⟩ := Stub.emitClass?_eq_some emitted
  refine List.mem_filter.mpr ⟨inRecords, ?_⟩
  rw [accessible, isHidden, isOpen]
  rfl

/-! Stubs with such an entry. -/

/--
An entry about a hidden class comes from a list of member classes and a reference, since a class
with a stub is not hidden itself.
-/
theorem lists_and_holds_of_describes
    {note : Annotation}
    {described : ClassRecord}
    {entry : InnerClass}
    (keyed : classes.IsKeyedByName)
    (areClassTypes : ∀ record ∈ classes.records, Descriptor.IsClassType record.typeName)
    (inMap : nested ∈ classes.records)
    (hidden : Stub.isHiddenNested nested = .ok true)
    (isStub : record ∈ stubClasses classes)
    (inNotes : note ∈ record.annotations)
    (describes :
      Stub.Surroundings.Describes ⟨classes, classes.referenced, configuration⟩ record note described
        entry)
    (isNamed : entry.name = nested.internalName) :
    record.annotations.Lists Platform.memberClasses nested.typeName
      ∧ classes.referenced.Holds nested := by
  cases describes with
  | itself =>
      have isOpen := isHidden_eq_false_of_mem (Or.inl isStub)
      rw [eq_of_sameInternalName keyed areClassTypes (List.mem_of_mem_filter isStub) inMap isNamed,
        isHidden_of_isHiddenNested hidden] at isOpen
      cases isOpen
  | @member values typeName _ marker isList valueGiven inValues stored marked keeps =>
      have inRecords := ClassMap.mem_records_of_getElem? stored
      obtain rfl := eq_of_sameInternalName keyed areClassTypes inRecords inMap isNamed
      obtain ⟨only, onlyMarked, inaccessible⟩ := exists_marker_of_isHiddenNested hidden
      rw [marked] at onlyMarked
      obtain rfl := Option.some.inj (Except.ok.inj onlyMarked)
      rw [keepsInnerClass_eq_contains inaccessible] at keeps
      refine ⟨?_, holds_of_contains_referenced keyed stored keeps⟩
      rw [keyed typeName described stored]
      exact ⟨note, inNotes, isList, values, valueGiven, inValues⟩

/-- A stub has an entry about a hidden class if it lists the class and the class is referenced. -/
theorem exists_entry_of_lists
    (keyed : classes.IsKeyedByName)
    (hidden : Stub.isHiddenNested nested = .ok true)
    (given :
      CanGive (Stub.emitClass? ⟨classes, classes.referenced, configuration⟩ record) (some tree))
    (listed : record.annotations.Lists Platform.memberClasses nested.typeName)
    (held : classes.referenced.Holds nested) :
    ∃ entry ∈ tree.innerClasses, entry.name = nested.internalName := by
  obtain ⟨marker, marked, inaccessible⟩ := exists_marker_of_isHiddenNested hidden
  obtain ⟨note, inNotes, isList, values, valueGiven, inValues⟩ := listed
  have inReferenced := ClassMap.mem_records_of_getElem? held
  have stored : classes[nested.typeName]? = some nested :=
    ClassMap.getElem?_typeName keyed (mem_records_of_referenced keyed inReferenced).1
  have present : classes.referenced.contains nested.typeName = true := by
    rw [Std.TreeMap.contains_eq_isSome_getElem?, held, Option.isSome_some]
  refine ⟨Stub.memberEntry record nested marker, ?_, rfl⟩
  refine (Stub.mem_innerClasses_iff given).mpr ⟨note, inNotes, nested, ?_⟩
  refine .member isList valueGiven inValues stored marked ?_
  rw [keepsInnerClass_eq_contains inaccessible]
  exact present

/--
The hidden nested classes that stubs have entries about are emitted only if there are none: exactly
if no class with a stub lists a referenced hidden class, of which there is no skeleton.
-/
theorem emitsDescribed_iff_listsNoHidden
    (keyed : classes.IsKeyedByName)
    (areClassTypes : ∀ record ∈ classes.records, Descriptor.IsClassType record.typeName)
    (succeeded : transform configuration classes before = .ok tiers after) :
    EmitsDescribed configuration classes tiers ↔ ListsNoHidden classes := by
  have isExact := (isExact_of_isKeyedByName keyed areClassTypes succeeded).1
  constructor
  · intro emitsDescribed record isStub nested held hidden listed
    have inRecords := List.mem_of_mem_filter isStub
    have inReferenced := ClassMap.mem_records_of_getElem? held
    have inMap := (mem_records_of_referenced keyed inReferenced).1
    obtain ⟨_, -, tree, _, gives, -⟩ := isExact.stubs.contents record isStub
    have given :
        CanGive (Stub.emitClass? ⟨classes, classes.referenced, configuration⟩ record)
          (some tree) :=
      ⟨.empty, gives .empty⟩
    obtain ⟨entry, inEntries, isNamed⟩ := exists_entry_of_lists keyed hidden given listed held
    refine isExact.not_emits_of_isHiddenNested keyed areClassTypes inMap hidden (Or.inr ?_)
    exact emitsDescribed record inRecords tree given entry inEntries nested inMap isNamed hidden
  · intro listsNoHidden record inRecords tree given entry inEntries nested inMap isNamed hidden
    obtain ⟨note, inNotes, described, describes⟩ :=
      (Stub.mem_innerClasses_iff given).mp inEntries
    have isStub := mem_stubClasses_of_emitClass? inRecords given
    obtain ⟨listed, held⟩ := lists_and_holds_of_describes keyed areClassTypes inMap hidden isStub
      inNotes describes isNamed
    exact absurd listed (listsNoHidden record isStub nested held hidden)

/-- A hidden nested class that no stub lists is described nowhere. -/
theorem emitsDescribed_iff_listsNoHidden_hiddenShapes :
    hiddenShapes.IsKeyedByName
      ∧ (∀ record ∈ hiddenShapes.records, Descriptor.IsClassType record.typeName)
      ∧ ∃ tiers after,
          transform bareStubs hiddenShapes .empty = .ok tiers after
            ∧ hiddenShapes.referenced.Holds hiddenShape
            ∧ Stub.isHiddenNested hiddenShape = .ok true
            ∧ EmitsDescribed bareStubs hiddenShapes tiers := by
  have keyed := isKeyedByName_hiddenShapes
  have areClassTypes :
      ∀ record ∈ hiddenShapes.records, Descriptor.IsClassType record.typeName := by
    intro record member
    rcases List.mem_pair.mp member with rfl | rfl
    · exact ⟨"pkg/Ring", rfl⟩
    · exact ⟨"pkg/Shapes$Round", rfl⟩
  obtain ⟨tiers, after, succeeded⟩ := transform_hiddenShapes
  have held : hiddenShapes.referenced.Holds hiddenShape :=
    (ClassMap.isClosed_referenced keyed).surface ring List.mem_cons_self rfl "Lpkg/Shapes$Round;"
      (.hierarchy (.superclass rfl)) hiddenShape ⟨rfl, rfl⟩
  refine ⟨keyed, areClassTypes, tiers, after, succeeded, held, rfl, ?_⟩
  refine (emitsDescribed_iff_listsNoHidden keyed areClassTypes succeeded).mpr ?_
  rintro record isStub nested - - ⟨note, inNotes, -⟩
  obtain rfl : record = ring := List.mem_singleton.mp isStub
  cases inNotes

end Extraction

/-! A stub with an entry about a hidden class. -/

namespace ClassFile

/-- A public field of a nested type. -/
def partField : FieldTree where
  flags := AccessFlags.publicBit
  name := "part"
  descriptor := "Lpkg/Engine$Part;"
  signature := none
  value := none
  annotations := .empty

/-- The stub of a public class with such a field and an entry about the nested class. -/
def engineTree : ClassTree :=
  { plainTree (AccessFlags.publicBit ||| AccessFlags.superBit) "pkg/Engine" "java/lang/Object" with
    fields := [partField]
    innerClasses := [{
      name := "pkg/Engine$Part"
      outerName := some "pkg/Engine"
      innerName := some "Part"
      flags := 10 }] }

/-- The constants of the stub. -/
def engineConstants : List Constant :=
  [.utf8 "pkg/Engine", .classRef 1, .utf8 "java/lang/Object", .classRef 3, .utf8 "part",
    .utf8 "Lpkg/Engine$Part;", .utf8 "pkg/Engine$Part", .classRef 7, .utf8 "Part",
    .utf8 "InnerClasses"]

/-- The class file of the stub. -/
def engineFile : File where
  version := Stub.baseVersion
  pool := poolOf engineConstants
  flags := 0x0021
  thisClass := 2
  superclass := 4
  interfaces := []
  fields := [{ flags := 0x0001, name := 5, descriptor := 6, attributes := [] }]
  methods := []
  attributes := [{
    name := 10
    content := .innerClasses [{ name := 8, outerName := 2, innerName := 9, flags := 10 }] }]

/--
The stub of the engine is lowered to its file.  Only the class itself is entered twice, the second
time as the outer class of the nested one.
-/
theorem classTree_engineTree :
    Lowering.classTree engineTree (poolOf []) =
      .ok (fun pool => { engineFile with pool }) (poolOf engineConstants) := by
  have noFieldAttributes :
      Lowering.commonAttributes AccessFlags.publicBit none .empty = pure [] :=
    commonAttributes_empty rfl
  have noClassAttributes :
      Lowering.commonAttributes (AccessFlags.publicBit ||| AccessFlags.superBit) none .empty =
        pure [] :=
    commonAttributes_empty rfl
  simp (disch := decide) [engineTree, partField, plainTree, ClassTree.bare, Lowering.classTree,
    Lowering.optionalClass, Lowering.optionalUtf8, Lowering.field, Lowering.checkFieldType,
    Lowering.classAttributes, Lowering.sourceFile, Lowering.innerClasses, Lowering.innerClass,
    Lowering.attributeOf, AttributeContent.attributeName, Lowering.enclosingMethod,
    Lowering.permittedSubclasses, noFieldAttributes, noClassAttributes, Interning.bind_apply,
    utf8_poolOf, classRef_poolOf, classRef_poolOf_of_mem]
  rfl

/-- The stub of the engine can be written. -/
theorem exists_write_engineTree : ∃ bytes, engineTree.write = .ok bytes :=
  ⟨_, ClassTree.write_of_classTree classTree_engineTree rfl⟩

end ClassFile

namespace Extraction

/-- A nested class that is private in its source. -/
def enginePart : ClassRecord :=
  { (default : ClassRecord) with
    typeName := "Lpkg/Engine$Part;"
    superclass := some Descriptor.object
    annotations := [⟨.system, Platform.innerClass,
      [("name", .string "Part"), ("accessFlags", .int 0x000a)]⟩] }

/-- A public class with a public field of the type of its private member class. -/
def engine : ClassRecord :=
  { (default : ClassRecord) with
    typeName := "Lpkg/Engine;"
    flags := AccessFlags.publicBit
    superclass := some Descriptor.object
    annotations := [Stub.memberNote "Lpkg/Engine$Part;"]
    fields := [{ (default : FieldRecord) with
      definingClass := "Lpkg/Engine;"
      name := "part"
      fieldType := "Lpkg/Engine$Part;"
      flags := AccessFlags.publicBit }] }

/-- A public class and its private member class. -/
def engines : ClassMap :=
  ClassMap.insertAll ∅ [engine, enginePart]

/-- The map of the engine and its part is keyed by name. -/
theorem isKeyedByName_engines : engines.IsKeyedByName :=
  ClassMap.isKeyedByName_insertAll ClassMap.isKeyedByName_empty _

/-- The part of the engine is the only referenced class. -/
theorem referenced_engines :
    engines.referenced = (∅ : ReferencedSet).insert "Lpkg/Engine$Part;" enginePart := by
  have mentions :
      engines.accessibleClasses.flatMap ClassRecord.surfaceMentions =
        [Descriptor.object, "Lpkg/Engine$Part;"] :=
    rfl
  have partMentions : enginePart.hierarchyMentions = [Descriptor.object] := rfl
  have unresolved : engines.inaccessible? Descriptor.object = none := rfl
  have resolved : engines.inaccessible? "Lpkg/Engine$Part;" = some enginePart := rfl
  have reached :
      engines.reached = (∅ : ReferencedSet).insert "Lpkg/Engine$Part;" enginePart := by
    rw [ClassMap.reached, mentions, ClassMap.follow_cons_of_unresolved unresolved,
      ClassMap.follow_cons_of_fresh resolved (by simp), List.append_nil, partMentions,
      ClassMap.follow_cons_of_unresolved unresolved, ClassMap.follow_nil]
    rfl
  rw [ClassMap.referenced, reached]
  rfl

/-- The engine is emitted with an entry about its part. -/
theorem emitClass?_engine (journal : Journal) :
    Stub.emitClass? ⟨engines, engines.referenced, bareStubs⟩ engine journal =
      .ok (some ClassFile.engineTree) journal := by
  rw [referenced_engines]
  rfl

/-- The extraction of the engine and its part succeeds. -/
theorem transform_engines :
    ∃ tiers after, transform bareStubs engines .empty = .ok tiers after := by
  obtain ⟨bytes, written⟩ := ClassFile.exists_write_engineTree
  let surroundings : Stub.Surroundings := ⟨engines, engines.referenced, bareStubs⟩
  let tiers := OutputTiers.empty.write ⟨.stub, "pkg/Engine.class", bytes.toByteArray⟩
  have stubsEntered (journal : Journal) :
      engines.records.foldlM (enterStub surroundings) .empty journal = .ok tiers journal := by
    have inOrder : engines.records = [enginePart, engine] := rfl
    have engineEntered : enterStub surroundings .empty engine journal = .ok tiers journal :=
      Run.bind_eq_ok_iff.mpr
        ⟨_, journal, emitClass?_engine journal, enter_of_write written rfl journal⟩
    rw [inOrder, List.foldlM_cons]
    refine Run.bind_eq_ok_iff.mpr ⟨.empty, journal, rfl, ?_⟩
    exact Run.bind_eq_ok_iff.mpr ⟨tiers, journal, engineEntered, rfl⟩
  have noSkeleton :
      ∀ record ∈ ClassMap.records engines.referenced, Stub.skeleton? record = .ok none := by
    intro record member
    obtain ⟨inMap, inaccessible⟩ := mem_records_of_referenced isKeyedByName_engines member
    rcases List.mem_pair.mp inMap with rfl | rfl
    · rfl
    · cases inaccessible
  exact exists_transform_of_entered stubsEntered (foldlM_enterSkeleton_of_none noSkeleton tiers)

/-- The stub of the public class describes its private member class, which no tier has. -/
theorem not_emitsDescribed_engines :
    engines.IsKeyedByName
      ∧ (∀ record ∈ engines.records, Descriptor.IsClassType record.typeName)
      ∧ ∃ tiers after,
          transform bareStubs engines .empty = .ok tiers after
            ∧ ¬ Emits tiers enginePart
            ∧ ¬ EmitsDescribed bareStubs engines tiers := by
  have keyed := isKeyedByName_engines
  have areClassTypes : ∀ record ∈ engines.records, Descriptor.IsClassType record.typeName := by
    intro record member
    rcases List.mem_pair.mp member with rfl | rfl
    · exact ⟨"pkg/Engine$Part", rfl⟩
    · exact ⟨"pkg/Engine", rfl⟩
  have partInMap : enginePart ∈ engines.records := List.mem_cons_self
  have engineInMap : engine ∈ engines.records := List.mem_cons_of_mem _ List.mem_cons_self
  obtain ⟨tiers, after, succeeded⟩ := transform_engines
  have isExact := (isExact_of_isKeyedByName keyed areClassTypes succeeded).1
  have notEmitted : ¬ Emits tiers enginePart :=
    isExact.not_emits_of_isHiddenNested keyed areClassTypes partInMap rfl
  refine ⟨keyed, areClassTypes, tiers, after, succeeded, notEmitted, fun emitsDescribed => ?_⟩
  have given :
      CanGive (Stub.emitClass? ⟨engines, engines.referenced, bareStubs⟩ engine)
        (some ClassFile.engineTree) :=
    ⟨.empty, .empty, emitClass?_engine .empty⟩
  exact notEmitted (Or.inr (emitsDescribed engine engineInMap ClassFile.engineTree given _
    (List.mem_singleton_self _) enginePart partInMap rfl rfl))

end Extraction

end DexSurface
