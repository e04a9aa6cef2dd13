import Mathlib.Data.List.Forall2
import DexSurface.Reference.Closure

namespace DexSurface

/-!
# Class maps that agree on their surface

Two class maps agree on their surface when they have the same names and corresponding classes differ
only in what nobody outside can see: inaccessible members, the members of inaccessible classes, and
instructions, as far as they do not enter a monitor.

The closures of such maps find classes of the same names, which again agree on their surface.
-/

/-- Bodies that differ at most in opcodes other than that of entering a monitor. -/
structure MethodBody.Agrees (left right : MethodBody) : Prop where
  registerCount :
    left.registerCount = right.registerCount
  locals :
    left.locals = right.locals
  hasMonitorEnter :
    left.hasMonitorEnter = right.hasMonitorEnter

/-- Methods that differ at most in the opcodes of their bodies. -/
structure MethodRecord.Agrees (left right : MethodRecord) : Prop where
  definingClass :
    left.definingClass = right.definingClass
  name :
    left.name = right.name
  flags :
    left.flags = right.flags
  parameters :
    left.parameters = right.parameters
  returnType :
    left.returnType = right.returnType
  annotations :
    left.annotations = right.annotations
  hiddenApi :
    left.hiddenApi = right.hiddenApi
  body :
    Option.Rel MethodBody.Agrees left.body right.body

/-- Classes that agree outside of their members and, if accessible, on accessible members. -/
structure ClassRecord.Agrees (left right : ClassRecord) : Prop where
  typeName :
    left.typeName = right.typeName
  flags :
    left.flags = right.flags
  superclass :
    left.superclass = right.superclass
  interfaces :
    left.interfaces = right.interfaces
  annotations :
    left.annotations = right.annotations
  sourceFile :
    left.sourceFile = right.sourceFile
  fields :
    left.flags.isAccessible = true → left.accessibleFields = right.accessibleFields
  methods :
    left.flags.isAccessible = true →
    List.Forall₂ MethodRecord.Agrees left.accessibleMethods right.accessibleMethods

/-- Maps with the same names, under which stand classes that agree on their surface. -/
def ClassMap.Agrees (left right : ClassMap) : Prop :=
  ∀ typeName : String, Option.Rel ClassRecord.Agrees left[typeName]? right[typeName]?

namespace ClassMap.Agrees

variable {left right : ClassMap}

/-- Maps that agree have classes under the same names. -/
theorem contains_eq (agrees : left.Agrees right) (typeName : String) :
    left.contains typeName = right.contains typeName := by
  rw [Std.TreeMap.contains_eq_isSome_getElem?, Std.TreeMap.contains_eq_isSome_getElem?]
  have related := agrees typeName
  revert related
  cases left[typeName]? <;> cases right[typeName]? <;> intro related <;> cases related <;> rfl

/-- Maps that agree have the same names. -/
theorem keys_eq (agrees : left.Agrees right) : left.keys = right.keys := by
  have sameNames :
      (left.map fun _ _ => ()).Equiv (right.map fun _ _ => ()) := by
    apply Std.TreeMap.Equiv.of_forall_contains_unit_eq
    intro typeName
    rw [Std.TreeMap.contains_map, Std.TreeMap.contains_map]
    exact agrees.contains_eq typeName
  have sameKeys := sameNames.keys_eq
  rwa [Std.TreeMap.keys_map, Std.TreeMap.keys_map] at sameKeys

/-- Maps that agree have equally many classes. -/
theorem size_eq (agrees : left.Agrees right) : left.size = right.size := by
  rw [← Std.TreeMap.length_keys, ← Std.TreeMap.length_keys, agrees.keys_eq]

/-- Entries under equal names hold agreeing classes. -/
theorem forall₂_of_map_fst_eq
    (agrees : left.Agrees right)
    {leftEntries rightEntries : List (String × ClassRecord)}
    (sameNames : leftEntries.map Prod.fst = rightEntries.map Prod.fst)
    (leftStored : ∀ entry ∈ leftEntries, left[entry.1]? = some entry.2)
    (rightStored : ∀ entry ∈ rightEntries, right[entry.1]? = some entry.2) :
    List.Forall₂ (fun leftEntry rightEntry => ClassRecord.Agrees leftEntry.2 rightEntry.2)
      leftEntries rightEntries := by
  induction leftEntries generalizing rightEntries with
  | nil =>
      cases rightEntries with
      | nil => exact .nil
      | cons rightFirst rightRest => cases sameNames
  | cons leftFirst leftRest inductionHypothesis =>
      cases rightEntries with
      | nil => cases sameNames
      | cons rightFirst rightRest =>
          obtain ⟨sameName, sameRest⟩ := List.cons.inj sameNames
          have related := agrees leftFirst.1
          rw [leftStored leftFirst List.mem_cons_self] at related
          rw [sameName, rightStored rightFirst List.mem_cons_self] at related
          cases related with
          | some recordsAgree =>
              refine .cons recordsAgree (inductionHypothesis sameRest ?_ ?_)
              · exact fun entry member => leftStored entry (List.mem_cons_of_mem _ member)
              · exact fun entry member => rightStored entry (List.mem_cons_of_mem _ member)

/-- Agreeing maps list agreeing classes. -/
theorem forall₂_toList (agrees : left.Agrees right) :
    List.Forall₂ (fun leftEntry rightEntry => ClassRecord.Agrees leftEntry.2 rightEntry.2)
      left.toList right.toList := by
  apply agrees.forall₂_of_map_fst_eq
  · rw [Std.TreeMap.map_fst_toList_eq_keys, Std.TreeMap.map_fst_toList_eq_keys, agrees.keys_eq]
  · exact fun entry member => Std.TreeMap.mem_toList_iff_getElem?_eq_some.mp member
  · exact fun entry member => Std.TreeMap.mem_toList_iff_getElem?_eq_some.mp member

/-- Agreeing maps have agreeing classes in the same order. -/
theorem forall₂_records (agrees : left.Agrees right) :
    List.Forall₂ ClassRecord.Agrees left.records right.records := by
  rw [records, records, List.forall₂_map_left_iff, List.forall₂_map_right_iff]
  exact agrees.forall₂_toList

/-- The empty map agrees with itself. -/
theorem empty : ClassMap.Agrees ∅ ∅ := by
  intro typeName
  rw [Std.TreeMap.getElem?_emptyc]
  exact .none

/-- Maps that agree still do when agreeing classes are put under one name. -/
theorem insert
    (agrees : left.Agrees right)
    (typeName : String)
    {leftRecord rightRecord : ClassRecord}
    (recordsAgree : leftRecord.Agrees rightRecord) :
    ClassMap.Agrees (left.insert typeName leftRecord) (right.insert typeName rightRecord) := by
  intro other
  rw [Std.TreeMap.getElem?_insert, Std.TreeMap.getElem?_insert]
  split
  · exact .some recordsAgree
  · exact agrees other

/-- A type names agreeing inaccessible classes, or none in both maps. -/
theorem inaccessible? (agrees : left.Agrees right) (typeName : TypeDescriptor) :
    Option.Rel ClassRecord.Agrees
      (left.inaccessible? typeName) (right.inaccessible? typeName) := by
  rw [ClassMap.inaccessible?, ClassMap.inaccessible?]
  have related := agrees (Descriptor.elementType typeName)
  revert related
  generalize left[Descriptor.elementType typeName]? = leftFound
  generalize right[Descriptor.elementType typeName]? = rightFound
  intro related
  cases related with
  | none => exact .none
  | some recordsAgree =>
      rw [Option.filter_some, Option.filter_some, recordsAgree.flags]
      split
      · exact .some recordsAgree
      · exact .none

/-- A type that names no inaccessible class in one map names none in the other. -/
theorem inaccessible?_eq_none
    (agrees : left.Agrees right)
    {typeName : TypeDescriptor}
    (unresolved : left.inaccessible? typeName = none) :
    right.inaccessible? typeName = none := by
  have related := agrees.inaccessible? typeName
  rw [unresolved] at related
  generalize right.inaccessible? typeName = rightFound at related ⊢
  cases related
  rfl

/-- A type that names an inaccessible class in one map names an agreeing one in the other. -/
theorem inaccessible?_eq_some
    (agrees : left.Agrees right)
    {typeName : TypeDescriptor}
    {leftRecord : ClassRecord}
    (resolved : left.inaccessible? typeName = some leftRecord) :
    ∃ rightRecord,
      right.inaccessible? typeName = some rightRecord ∧ leftRecord.Agrees rightRecord := by
  have related := agrees.inaccessible? typeName
  rw [resolved] at related
  generalize right.inaccessible? typeName = rightFound at related ⊢
  cases related with
  | some recordsAgree => exact ⟨_, rfl, recordsAgree⟩

end ClassMap.Agrees

namespace ClassRecord.Agrees

variable {left right : ClassRecord}

/-- Classes that agree mention the same types outside of their members. -/
theorem hierarchyMentions_eq (agrees : left.Agrees right) :
    left.hierarchyMentions = right.hierarchyMentions := by
  rw [hierarchyMentions, hierarchyMentions, agrees.superclass, agrees.annotations,
    agrees.interfaces]

/-- Classes that agree have the same supertypes. -/
theorem supertypes_eq (agrees : left.Agrees right) : left.supertypes = right.supertypes := by
  rw [supertypes, supertypes, agrees.superclass, agrees.interfaces]

/-- Methods that agree mention the same types. -/
theorem methodMentions_eq
    {leftMethod rightMethod : MethodRecord}
    (agrees : leftMethod.Agrees rightMethod) :
    leftMethod.mentions = rightMethod.mentions := by
  rw [MethodRecord.mentions, MethodRecord.mentions, agrees.returnType, agrees.parameters,
    agrees.annotations]

/-- Lists of methods that agree mention the same types. -/
theorem flatMap_methodMentions_eq
    {leftMethods rightMethods : List MethodRecord}
    (agree : List.Forall₂ MethodRecord.Agrees leftMethods rightMethods) :
    leftMethods.flatMap MethodRecord.mentions = rightMethods.flatMap MethodRecord.mentions := by
  induction agree with
  | nil => rfl
  | cons first rest inductionHypothesis =>
      rw [List.flatMap_cons, List.flatMap_cons, methodMentions_eq first, inductionHypothesis]

/-- Accessible classes that agree mention the same types on their surface. -/
theorem surfaceMentions_eq
    (agrees : left.Agrees right)
    (accessible : left.flags.isAccessible = true) :
    left.surfaceMentions = right.surfaceMentions := by
  rw [surfaceMentions, surfaceMentions, agrees.hierarchyMentions_eq, agrees.fields accessible,
    flatMap_methodMentions_eq (agrees.methods accessible)]

end ClassRecord.Agrees

namespace ClassMap.Agrees

variable {left right : ClassMap}

/-- The accessible ones among classes that agree mention the same types on their surfaces. -/
theorem flatMap_surfaceMentions_eq
    {leftRecords rightRecords : List ClassRecord}
    (agree : List.Forall₂ ClassRecord.Agrees leftRecords rightRecords) :
    (leftRecords.filter fun record => record.flags.isAccessible).flatMap
        ClassRecord.surfaceMentions =
      (rightRecords.filter fun record => record.flags.isAccessible).flatMap
        ClassRecord.surfaceMentions := by
  induction agree with
  | nil => rfl
  | @cons leftFirst rightFirst leftRest rightRest first rest inductionHypothesis =>
      rw [List.filter_cons, List.filter_cons, ← first.flags]
      split
      · next accessible =>
          rw [List.flatMap_cons, List.flatMap_cons, first.surfaceMentions_eq accessible,
            inductionHypothesis]
      · exact inductionHypothesis

/-- Following types in agreeing maps from agreeing finds gives agreeing finds. -/
theorem follow
    (agrees : left.Agrees right)
    (pending : List TypeDescriptor)
    (leftFound rightFound : ReferencedSet)
    (foundAgrees : ClassMap.Agrees leftFound rightFound) :
    ClassMap.Agrees (left.follow pending leftFound) (right.follow pending rightFound) := by
  fun_induction ClassMap.follow left pending leftFound generalizing rightFound with
  | case1 leftFound =>
      rw [follow_nil]
      exact foundAgrees
  | case2 leftFound typeName rest unresolved inductionHypothesis =>
      rw [follow_cons_of_unresolved (agrees.inaccessible?_eq_none unresolved)]
      exact inductionHypothesis rightFound foundAgrees
  | case3 leftFound typeName rest leftRecord resolvedLeft present inductionHypothesis =>
      obtain ⟨rightRecord, resolvedRight, recordsAgree⟩ :=
        agrees.inaccessible?_eq_some resolvedLeft
      rw [foundAgrees.contains_eq, recordsAgree.typeName] at present
      rw [follow_cons_of_contains resolvedRight present]
      exact inductionHypothesis rightFound foundAgrees
  | case4 leftFound typeName rest leftRecord resolvedLeft fresh inductionHypothesis =>
      obtain ⟨rightRecord, resolvedRight, recordsAgree⟩ :=
        agrees.inaccessible?_eq_some resolvedLeft
      rw [foundAgrees.contains_eq, recordsAgree.typeName] at fresh
      rw [follow_cons_of_fresh resolvedRight fresh, ← recordsAgree.hierarchyMentions_eq,
        ← recordsAgree.typeName]
      exact inductionHypothesis _ (foundAgrees.insert _ recordsAgree)

/-- From maps that agree, classes are reached that agree. -/
theorem reached (agrees : left.Agrees right) :
    ClassMap.Agrees left.reached right.reached := by
  rw [ClassMap.reached, ClassMap.reached, accessibleClasses, accessibleClasses,
    flatMap_surfaceMentions_eq agrees.forall₂_records]
  exact agrees.follow _ _ _ empty

/-- Marking types in maps that agree finds classes that agree. -/
theorem mark
    (agrees : left.Agrees right)
    (types : List TypeDescriptor)
    {leftFound rightFound : ReferencedSet}
    (foundAgrees : ClassMap.Agrees leftFound rightFound) :
    ClassMap.Agrees (left.mark types leftFound) (right.mark types rightFound) := by
  rw [ClassMap.mark, ClassMap.mark]
  have related :
      List.Forall₂ ClassRecord.Agrees
        (types.filterMap left.inaccessible?) (types.filterMap right.inaccessible?) := by
    refine List.rel_filterMap ?_ (List.forall₂_same.mpr fun _ _ => rfl)
    intro first second same
    subst same
    exact agrees.inaccessible? first
  generalize types.filterMap left.inaccessible? = leftRecords at related
  generalize types.filterMap right.inaccessible? = rightRecords at related
  induction related generalizing leftFound rightFound with
  | nil => exact foundAgrees
  | cons first rest inductionHypothesis =>
      rw [List.foldl_cons, List.foldl_cons, ← first.typeName]
      exact inductionHypothesis (foundAgrees.insert _ first)

/-- Classes that agree, taken together, have the same supertypes. -/
theorem flatMap_supertypes_eq
    {leftEntries rightEntries : List (String × ClassRecord)}
    (agree :
      List.Forall₂ (fun leftEntry rightEntry => ClassRecord.Agrees leftEntry.2 rightEntry.2)
        leftEntries rightEntries) :
    leftEntries.flatMap (fun entry => entry.2.supertypes) =
      rightEntries.flatMap (fun entry => entry.2.supertypes) := by
  induction agree with
  | nil => rfl
  | cons first rest inductionHypothesis =>
      rw [List.flatMap_cons, List.flatMap_cons, first.supertypes_eq, inductionHypothesis]

/-- The closures of agreeing maps agree. -/
theorem referenced (agrees : left.Agrees right) :
    ClassMap.Agrees left.referenced right.referenced := by
  rw [ClassMap.referenced, ClassMap.referenced]
  have reachedAgrees := agrees.reached
  rw [flatMap_supertypes_eq reachedAgrees.forall₂_toList]
  exact agrees.mark _ reachedAgrees

end ClassMap.Agrees

end DexSurface
