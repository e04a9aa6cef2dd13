import Mathlib.Order.Bounds.Basic
import DexSurface.Proofs.Reference.MentionRelation
import DexSurface.Reference.Closure

namespace DexSurface

/-!
# The closure is the least closed set

A set of inaccessible classes is closed when it holds every inaccessible class that the surface
mentions and every one that a member mentions outside of its own members.  The classes found by
following pending types are the least closed set, and marking their direct supertypes afterwards
adds nothing.

A class is marked as found before its own mentions are followed.  The invariant of the walk is
therefore about found classes whose mentions are settled already or still pending.
-/

namespace ClassMap

/-- Every class stands under its own type name. -/
def IsKeyedByName (classes : ClassMap) : Prop :=
  ∀ (typeName : String) (record : ClassRecord),
    classes[typeName]? = some record → record.typeName = typeName

/-- A mentioned type, array dimensions left out, is an inaccessible class of the map. -/
def Resolves (classes : ClassMap) (typeName : TypeDescriptor) (record : ClassRecord) : Prop :=
  classes[Descriptor.elementType typeName]? = some record
    ∧ record.flags.isInaccessible = true

/-- The inaccessible classes in a set include all that the surface needs. -/
structure IsClosed (classes : ClassMap) (needed : Set ClassRecord) : Prop where
  inaccessible :
    ∀ record ∈ needed, record ∈ classes.records ∧ record.flags.isInaccessible = true
  surface :
    ∀ user ∈ classes.records,
      user.flags.isAccessible = true →
      ∀ typeName,
        user.SurfaceMentions typeName →
        ∀ target, classes.Resolves typeName target → target ∈ needed
  hierarchy :
    ∀ user ∈ needed,
      ∀ typeName,
        user.HierarchyMentions typeName →
        ∀ target, classes.Resolves typeName target → target ∈ needed

/-- Looking for an inaccessible class finds the one that a type resolves to. -/
theorem inaccessible?_eq_some_iff
    {classes : ClassMap}
    {typeName : TypeDescriptor}
    {record : ClassRecord} :
    classes.inaccessible? typeName = some record ↔ classes.Resolves typeName record := by
  rw [inaccessible?, Resolves, Option.filter_eq_some_iff]

/-- The classes of a map are those that stand under some name. -/
theorem mem_records_iff {classes : ClassMap} {record : ClassRecord} :
    record ∈ classes.records ↔ ∃ typeName : String, classes[typeName]? = some record := by
  constructor
  · intro member
    obtain ⟨⟨typeName, stored⟩, inList, same⟩ := List.mem_map.mp member
    subst same
    exact ⟨typeName, Std.TreeMap.mem_toList_iff_getElem?_eq_some.mp inList⟩
  · rintro ⟨typeName, stored⟩
    exact mem_records_of_getElem? stored

/-- A class of a map keyed by names stands under its own name. -/
theorem getElem?_typeName
    {classes : ClassMap}
    (keyed : classes.IsKeyedByName)
    {record : ClassRecord}
    (member : record ∈ classes.records) :
    classes[record.typeName]? = some record := by
  obtain ⟨typeName, stored⟩ := mem_records_iff.mp member
  rw [keyed typeName record stored]
  exact stored

/-- In a keyed map the type names of the classes are the names that they stand under. -/
theorem typeNames_eq_keys {classes : ClassMap} (keyed : classes.IsKeyedByName) :
    classes.records.map ClassRecord.typeName = classes.keys := by
  rw [records, List.map_map, ← Std.TreeMap.map_fst_toList_eq_keys]
  apply List.map_congr_left
  intro entry member
  exact keyed _ _ (Std.TreeMap.mem_toList_iff_getElem?_eq_some.mp member)

/-- A type of a map keyed by names resolves to a class that stands under its own name. -/
theorem Resolves.getElem?_typeName
    {classes : ClassMap}
    {typeName : TypeDescriptor}
    {record : ClassRecord}
    (resolved : classes.Resolves typeName record)
    (keyed : classes.IsKeyedByName) :
    classes[record.typeName]? = some record := by
  have name := keyed _ _ resolved.1
  rw [name]
  exact resolved.1

/-- The empty map is keyed by name. -/
theorem isKeyedByName_empty : IsKeyedByName ∅ := by
  intro typeName record stored
  simp at stored

/-- A keyed map stays keyed when a class is added under its own name. -/
theorem isKeyedByName_insertFirst
    {classes : ClassMap}
    (keyed : classes.IsKeyedByName)
    (record : ClassRecord) :
    (classes.insertFirst record).IsKeyedByName := by
  intro typeName stored found
  rw [insertFirst] at found
  split at found
  · rw [Std.TreeMap.getElem?_insert] at found
    split at found
    · next sameName =>
        obtain rfl := Option.some.inj found
        exact Std.LawfulEqCmp.eq_of_compare sameName
    · exact keyed typeName stored found
  · exact keyed typeName stored found

/-- A map into which classes were added in order holds each under its own name. -/
theorem isKeyedByName_insertAll
    {classes : ClassMap}
    (keyed : classes.IsKeyedByName)
    (records : List ClassRecord) :
    (classes.insertAll records).IsKeyedByName := by
  induction records generalizing classes with
  | nil => exact keyed
  | cons first rest inductionHypothesis =>
      exact inductionHypothesis (isKeyedByName_insertFirst keyed first)

end ClassMap

namespace ReferencedSet

/-- A class has been found. -/
def Holds (found : ReferencedSet) (record : ClassRecord) : Prop :=
  found[record.typeName]? = some record

/-- Every class that has been found is an inaccessible class of the map. -/
def IsPartOf (found : ReferencedSet) (classes : ClassMap) : Prop :=
  ∀ (typeName : String) (record : ClassRecord),
    found[typeName]? = some record →
    classes[typeName]? = some record ∧ record.flags.isInaccessible = true

/-- If a type resolves to a class, the class has been found. -/
def Settles (found : ReferencedSet) (classes : ClassMap) (typeName : TypeDescriptor) : Prop :=
  ∀ target, classes.Resolves typeName target → found.Holds target

/-- Whatever a found class mentions has been found too, or is pending. -/
def IsClosedUpTo
    (found : ReferencedSet)
    (classes : ClassMap)
    (pending : List TypeDescriptor) : Prop :=
  ∀ user,
    found.Holds user →
    ∀ typeName ∈ user.hierarchyMentions, found.Settles classes typeName ∨ typeName ∈ pending

variable {classes : ClassMap} {found : ReferencedSet}

/-- Before anything is found, all that was found is part of the map. -/
theorem isPartOf_empty : IsPartOf ∅ classes := by
  intro typeName record stored
  simp at stored

/-- Before anything is found, nothing is missing. -/
theorem isClosedUpTo_empty (pending : List TypeDescriptor) :
    IsClosedUpTo ∅ classes pending := by
  intro user held
  simp [Holds] at held

/-- What stands under a name in a part of a keyed map has been found. -/
theorem holds_of_getElem?
    (part : found.IsPartOf classes)
    (keyed : classes.IsKeyedByName)
    {typeName : String}
    {record : ClassRecord}
    (stored : found[typeName]? = some record) :
    found.Holds record := by
  have name := keyed _ _ (part _ _ stored).1
  rw [Holds, name]
  exact stored

/-- The target of a type is held as soon as its name has been found. -/
theorem holds_of_contains
    (part : found.IsPartOf classes)
    (keyed : classes.IsKeyedByName)
    {typeName : TypeDescriptor}
    {target : ClassRecord}
    (resolved : classes.Resolves typeName target)
    (present : found.contains target.typeName = true) :
    found.Holds target := by
  obtain ⟨stored, isStored⟩ :
      ∃ stored, found[target.typeName]? = some stored := by
    rw [Std.TreeMap.contains_eq_isSome_getElem?] at present
    exact Option.isSome_iff_exists.mp present
  have sameClass : some stored = some target :=
    (part _ _ isStored).1.symm.trans (resolved.getElem?_typeName keyed)
  rw [Holds, isStored, sameClass]

/-- A class that is marked as found is found. -/
theorem holds_insert_self (record : ClassRecord) :
    ReferencedSet.Holds (found.insert record.typeName record) record := by
  rw [Holds, Std.TreeMap.getElem?_insert_self]

/-- A found class stays found when one of another name is marked. -/
theorem Holds.insert
    {record other : ClassRecord}
    (held : found.Holds other)
    (fresh : found.contains record.typeName = false) :
    ReferencedSet.Holds (found.insert record.typeName record) other := by
  have differs : compare record.typeName other.typeName ≠ .eq := by
    intro same
    rw [Std.LawfulEqCmp.eq_of_compare same, Std.TreeMap.contains_eq_isSome_getElem?, held]
      at fresh
    simp at fresh
  rw [Holds, Std.TreeMap.getElem?_insert, if_neg differs]
  exact held

/-- What is found after a class was marked is this class, or it was found before. -/
theorem holds_of_holds_insert
    {record other : ClassRecord}
    (held : ReferencedSet.Holds (found.insert record.typeName record) other) :
    other = record ∨ found.Holds other := by
  rw [Holds, Std.TreeMap.getElem?_insert] at held
  split at held
  · exact Or.inl (Option.some.inj held).symm
  · exact Or.inr held

/-- Marking a class that a type resolves to keeps what was found part of the map. -/
theorem IsPartOf.insert
    (part : found.IsPartOf classes)
    (keyed : classes.IsKeyedByName)
    {typeName : TypeDescriptor}
    {target : ClassRecord}
    (resolved : classes.Resolves typeName target) :
    IsPartOf (found.insert target.typeName target) classes := by
  intro name record stored
  rw [Std.TreeMap.getElem?_insert] at stored
  split at stored
  · next sameName =>
      obtain rfl := Option.some.inj stored
      rw [← Std.LawfulEqCmp.eq_of_compare sameName]
      exact ⟨resolved.getElem?_typeName keyed, resolved.2⟩
  · exact part name record stored

/-- A settled type stays settled when a class of a fresh name is marked. -/
theorem Settles.insert
    {typeName : TypeDescriptor}
    {record : ClassRecord}
    (settled : found.Settles classes typeName)
    (fresh : found.contains record.typeName = false) :
    ReferencedSet.Settles (found.insert record.typeName record) classes typeName :=
  fun target resolved => (settled target resolved).insert fresh

/-- A settled type can be dropped from what is pending. -/
theorem IsClosedUpTo.tail
    {typeName : TypeDescriptor}
    {rest : List TypeDescriptor}
    (closed : found.IsClosedUpTo classes (typeName :: rest))
    (settled : found.Settles classes typeName) :
    found.IsClosedUpTo classes rest := by
  intro user held mentioned isMentioned
  rcases closed user held mentioned isMentioned with isSettled | isPending
  · exact Or.inl isSettled
  · rcases List.mem_cons.mp isPending with isFirst | inRest
    · subst isFirst
      exact Or.inl settled
    · exact Or.inr inRest

/-- Marking a class makes its own mentions pending. -/
theorem IsClosedUpTo.insert
    {record : ClassRecord}
    {pending : List TypeDescriptor}
    (closed : found.IsClosedUpTo classes pending)
    (fresh : found.contains record.typeName = false) :
    IsClosedUpTo (found.insert record.typeName record) classes
      (record.hierarchyMentions ++ pending) := by
  intro user held mentioned isMentioned
  rcases holds_of_holds_insert held with isRecord | wasHeld
  · subst isRecord
    exact Or.inr (List.mem_append_left _ isMentioned)
  · rcases closed user wasHeld mentioned isMentioned with isSettled | isPending
    · exact Or.inl (isSettled.insert fresh)
    · exact Or.inr (List.mem_append_right _ isPending)

end ReferencedSet

namespace ClassMap

variable {classes : ClassMap}

open ReferencedSet (Holds IsPartOf Settles IsClosedUpTo)

/-- Nothing is settled by a type that does not resolve. -/
theorem settles_of_inaccessible?_eq_none
    {typeName : TypeDescriptor}
    (unresolved : classes.inaccessible? typeName = none)
    (found : ReferencedSet) :
    found.Settles classes typeName := by
  intro target resolved
  rw [inaccessible?_eq_some_iff.mpr resolved] at unresolved
  cases unresolved

/-- A type is settled when the class it resolves to has been found. -/
theorem settles_of_inaccessible?_eq_some
    {typeName : TypeDescriptor}
    {record : ClassRecord}
    {found : ReferencedSet}
    (resolved : classes.inaccessible? typeName = some record)
    (held : found.Holds record) :
    found.Settles classes typeName := by
  intro target resolvedTarget
  have same : some record = some target :=
    resolved.symm.trans (inaccessible?_eq_some_iff.mpr resolvedTarget)
  rw [← Option.some.inj same]
  exact held

/-- Following types keeps the found classes inside of the map. -/
theorem isPartOf_follow
    (keyed : classes.IsKeyedByName)
    (pending : List TypeDescriptor)
    (found : ReferencedSet)
    (part : found.IsPartOf classes) :
    (classes.follow pending found).IsPartOf classes := by
  fun_induction follow classes pending found with
  | case1 found => exact part
  | case2 found typeName rest unresolved inductionHypothesis => exact inductionHypothesis part
  | case3 found typeName rest record resolved present inductionHypothesis =>
      exact inductionHypothesis part
  | case4 found typeName rest record resolved fresh inductionHypothesis =>
      exact inductionHypothesis
        (part.insert keyed (inaccessible?_eq_some_iff.mp resolved))

/-- Following types loses no found class. -/
theorem holds_follow
    (pending : List TypeDescriptor)
    (found : ReferencedSet)
    {record : ClassRecord}
    (held : found.Holds record) :
    (classes.follow pending found).Holds record := by
  fun_induction follow classes pending found with
  | case1 found => exact held
  | case2 found typeName rest unresolved inductionHypothesis => exact inductionHypothesis held
  | case3 found typeName rest record resolved present inductionHypothesis =>
      exact inductionHypothesis held
  | case4 found typeName rest record resolved fresh inductionHypothesis =>
      exact inductionHypothesis (held.insert (Bool.eq_false_iff.mpr fresh))

/-- Following types settles all of them. -/
theorem settles_follow
    (keyed : classes.IsKeyedByName)
    (pending : List TypeDescriptor)
    (found : ReferencedSet)
    (part : found.IsPartOf classes) :
    ∀ typeName ∈ pending, (classes.follow pending found).Settles classes typeName := by
  fun_induction follow classes pending found with
  | case1 found =>
      intro typeName member
      cases member
  | case2 found typeName rest unresolved inductionHypothesis =>
      intro other member
      rcases List.mem_cons.mp member with isFirst | inRest
      · subst isFirst
        exact settles_of_inaccessible?_eq_none unresolved _
      · exact inductionHypothesis part other inRest
  | case3 found typeName rest record resolved present inductionHypothesis =>
      intro other member
      rcases List.mem_cons.mp member with isFirst | inRest
      · subst isFirst
        have held := ReferencedSet.holds_of_contains part keyed
          (inaccessible?_eq_some_iff.mp resolved) present
        exact settles_of_inaccessible?_eq_some resolved (holds_follow rest found held)
      · exact inductionHypothesis part other inRest
  | case4 found typeName rest record resolved fresh inductionHypothesis =>
      intro other member
      rcases List.mem_cons.mp member with isFirst | inRest
      · subst isFirst
        have held : Holds (found.insert record.typeName record) record :=
        ReferencedSet.holds_insert_self record
        exact settles_of_inaccessible?_eq_some resolved (holds_follow _ _ held)
      · have partAfter := part.insert keyed (inaccessible?_eq_some_iff.mp resolved)
        exact inductionHypothesis partAfter other (List.mem_append_right _ inRest)

/-- The classes found in the end are closed: the invariant of the walk with nothing pending. -/
theorem isClosedUpTo_follow
    (keyed : classes.IsKeyedByName)
    (pending : List TypeDescriptor)
    (found : ReferencedSet)
    (part : found.IsPartOf classes)
    (closed : found.IsClosedUpTo classes pending) :
    (classes.follow pending found).IsClosedUpTo classes [] := by
  fun_induction follow classes pending found with
  | case1 found => exact closed
  | case2 found typeName rest unresolved inductionHypothesis =>
      exact inductionHypothesis part
        (closed.tail (settles_of_inaccessible?_eq_none unresolved found))
  | case3 found typeName rest record resolved present inductionHypothesis =>
      have held := ReferencedSet.holds_of_contains part keyed
        (inaccessible?_eq_some_iff.mp resolved) present
      exact inductionHypothesis part
        (closed.tail (settles_of_inaccessible?_eq_some resolved held))
  | case4 found typeName rest record resolved fresh inductionHypothesis =>
      have isFresh := Bool.eq_false_iff.mpr fresh
      have partAfter := part.insert keyed (inaccessible?_eq_some_iff.mp resolved)
      have closedAfter := closed.insert isFresh
      have held : Holds (found.insert record.typeName record) record :=
        ReferencedSet.holds_insert_self record
      have settled := settles_of_inaccessible?_eq_some resolved held
      apply inductionHypothesis partAfter
      intro user userHeld mentioned isMentioned
      rcases closedAfter user userHeld mentioned isMentioned with isSettled | isPending
      · exact Or.inl isSettled
      · rcases List.mem_append.mp isPending with isNew | wasPending
        · exact Or.inr (List.mem_append_left _ isNew)
        · rcases List.mem_cons.mp wasPending with isFirst | inRest
          · subst isFirst
            exact Or.inl settled
          · exact Or.inr (List.mem_append_right _ inRest)

/-- A closed set that has all found classes and all targets of pending types is never left. -/
theorem follow_subset
    {needed : Set ClassRecord}
    (closed : classes.IsClosed needed)
    (pending : List TypeDescriptor)
    (found : ReferencedSet)
    (pendingNeeded :
      ∀ typeName ∈ pending, ∀ target, classes.Resolves typeName target → target ∈ needed)
    (foundNeeded : ∀ record, found.Holds record → record ∈ needed) :
    ∀ record, (classes.follow pending found).Holds record → record ∈ needed := by
  fun_induction follow classes pending found with
  | case1 found => exact foundNeeded
  | case2 found typeName rest unresolved inductionHypothesis =>
      exact inductionHypothesis
        (fun other member => pendingNeeded other (List.mem_cons_of_mem _ member)) foundNeeded
  | case3 found typeName rest record resolved present inductionHypothesis =>
      exact inductionHypothesis
        (fun other member => pendingNeeded other (List.mem_cons_of_mem _ member)) foundNeeded
  | case4 found typeName rest record resolved fresh inductionHypothesis =>
      have recordNeeded : record ∈ needed :=
        pendingNeeded typeName List.mem_cons_self record
          (inaccessible?_eq_some_iff.mp resolved)
      apply inductionHypothesis
      · intro other member target resolvedTarget
        rcases List.mem_append.mp member with isMentioned | inRest
        · exact closed.hierarchy record recordNeeded other
            (ClassRecord.mem_hierarchyMentions_iff.mp isMentioned) target resolvedTarget
        · exact pendingNeeded other (List.mem_cons_of_mem _ inRest) target resolvedTarget
      · intro other held
        rcases ReferencedSet.holds_of_holds_insert held with isRecord | wasHeld
        · subst isRecord
          exact recordNeeded
        · exact foundNeeded other wasHeld

/-- The reached classes are inaccessible classes of the map. -/
theorem isPartOf_reached (keyed : classes.IsKeyedByName) :
    classes.reached.IsPartOf classes :=
  isPartOf_follow keyed _ _ ReferencedSet.isPartOf_empty

/-- Whatever a reached class mentions is settled. -/
theorem settles_reached
    (keyed : classes.IsKeyedByName)
    {user : ClassRecord}
    (held : classes.reached.Holds user)
    {typeName : TypeDescriptor}
    (mentioned : typeName ∈ user.hierarchyMentions) :
    classes.reached.Settles classes typeName := by
  have closed := isClosedUpTo_follow keyed
    (classes.accessibleClasses.flatMap ClassRecord.surfaceMentions) ∅
    ReferencedSet.isPartOf_empty (ReferencedSet.isClosedUpTo_empty _)
  rcases closed user held typeName mentioned with settled | isPending
  · exact settled
  · cases isPending

/-- The reached classes include all that the surface needs. -/
theorem isClosed_reached (keyed : classes.IsKeyedByName) :
    classes.IsClosed {record | classes.reached.Holds record} where
  inaccessible := by
    intro record held
    obtain ⟨stored, inaccessible⟩ := isPartOf_reached keyed _ _ held
    exact ⟨mem_records_of_getElem? stored, inaccessible⟩
  surface := by
    intro user member accessible typeName mentioned
    have isAccessible : user ∈ classes.accessibleClasses :=
      List.mem_filter.mpr ⟨member, accessible⟩
    apply settles_follow keyed _ _ ReferencedSet.isPartOf_empty
    exact List.mem_flatMap.mpr
      ⟨user, isAccessible, ClassRecord.mem_surfaceMentions_iff.mpr mentioned⟩
  hierarchy := by
    intro user held typeName mentioned
    exact settles_reached keyed held (ClassRecord.mem_hierarchyMentions_iff.mpr mentioned)

/-- Every closed set holds the reached classes. -/
theorem reached_subset
    {needed : Set ClassRecord}
    (closed : classes.IsClosed needed) :
    {record | classes.reached.Holds record} ⊆ needed := by
  apply follow_subset closed
  · intro typeName member target resolved
    obtain ⟨user, isAccessible, mentioned⟩ := List.mem_flatMap.mp member
    obtain ⟨inMap, accessible⟩ := List.mem_filter.mp isAccessible
    exact closed.surface user inMap accessible typeName
      (ClassRecord.mem_surfaceMentions_iff.mp mentioned) target resolved
  · intro record held
    simp [Holds] at held

/-- Marking classes that are held already changes no lookup. -/
theorem foldl_insert_of_holds
    {found : ReferencedSet}
    (records : List ClassRecord)
    (held : ∀ record ∈ records, found.Holds record) :
    (records.foldl (fun found record => found.insert record.typeName record) found).Equiv
      found := by
  induction records generalizing found with
  | nil => exact Std.TreeMap.Equiv.rfl
  | cons first rest inductionHypothesis =>
      have firstHeld : found[first.typeName]? = some first := held first List.mem_cons_self
      have unchanged : (found.insert first.typeName first).Equiv found := by
        apply Std.TreeMap.Equiv.of_forall_constGet?_eq
        intro typeName
        rw [Std.TreeMap.getElem?_insert]
        split
        · next sameName =>
            rw [← Std.LawfulEqCmp.eq_of_compare sameName, firstHeld]
        · rfl
      refine Std.TreeMap.Equiv.trans (inductionHypothesis ?_) unchanged
      intro record member
      rw [Holds, unchanged.getElem?_eq]
      exact held record (List.mem_cons_of_mem _ member)

/-- Marking the direct supertypes of the reached classes adds nothing. -/
theorem referenced_equiv_reached (keyed : classes.IsKeyedByName) :
    classes.referenced.Equiv classes.reached := by
  apply foldl_insert_of_holds
  intro record member
  obtain ⟨typeName, isSupertype, resolved⟩ := List.mem_filterMap.mp member
  obtain ⟨entry, inFound, supertype⟩ := List.mem_flatMap.mp isSupertype
  have stored := Std.TreeMap.mem_toList_iff_getElem?_eq_some.mp inFound
  have held := ReferencedSet.holds_of_getElem? (isPartOf_reached keyed) keyed stored
  have settled := settles_reached keyed held
    (ClassRecord.mem_hierarchyMentions_of_supertype supertype)
  exact settled record (inaccessible?_eq_some_iff.mp resolved)

/-- The final marking of supertypes adds no class to the reached ones. -/
theorem holds_referenced_iff (keyed : classes.IsKeyedByName) {record : ClassRecord} :
    classes.referenced.Holds record ↔ classes.reached.Holds record := by
  rw [Holds, Holds, (referenced_equiv_reached keyed).getElem?_eq]

/-- The referenced classes include all that the surface needs. -/
theorem isClosed_referenced (keyed : classes.IsKeyedByName) :
    classes.IsClosed {record | classes.referenced.Holds record} := by
  simp only [holds_referenced_iff keyed]
  exact isClosed_reached keyed

/-- Every referenced class stands under its own type name. -/
theorem isKeyedByName_referenced (keyed : classes.IsKeyedByName) :
    IsKeyedByName classes.referenced := by
  intro typeName record stored
  rw [(referenced_equiv_reached keyed).getElem?_eq] at stored
  exact keyed typeName record (isPartOf_reached keyed typeName record stored).1

/--
The referenced classes are the least closed set, each stands under its own name, and the final
marking of supertypes adds nothing to what the walk has found.
-/
theorem referenced_isLeast_isClosed (keyed : classes.IsKeyedByName) :
    IsLeast {needed | classes.IsClosed needed} {record | classes.referenced.Holds record}
      ∧ IsKeyedByName classes.referenced
      ∧ classes.referenced.toList = classes.reached.toList := by
  refine ⟨⟨isClosed_referenced keyed, ?_⟩, isKeyedByName_referenced keyed,
    (referenced_equiv_reached keyed).toList_eq⟩
  intro needed closed record held
  exact reached_subset closed ((holds_referenced_iff keyed).mp held)

/-- A class that is public. -/
def widget : ClassRecord :=
  { (default : ClassRecord) with
    typeName := "Lpkg/Widget;"
    flags := AccessFlags.publicBit
    superclass := some "Lpkg/Base;" }

/-- An inaccessible class on a cycle. -/
def base : ClassRecord :=
  { (default : ClassRecord) with typeName := "Lpkg/Base;", interfaces := ["[Lpkg/Api;"] }

/-- The other inaccessible class on the cycle. -/
def api : ClassRecord :=
  { (default : ClassRecord) with typeName := "Lpkg/Api;", superclass := some "Lpkg/Base;" }

/-- A public class above a cycle of inaccessible ones. -/
def cyclicClasses : ClassMap :=
  insertAll ∅ [widget, base, api]

/-- The least closed set below a public class holds the whole cycle that the class leads to. -/
theorem referenced_isLeast_isClosed_cyclicClasses :
    cyclicClasses.IsKeyedByName
      ∧ IsLeast {needed | cyclicClasses.IsClosed needed}
          {record | cyclicClasses.referenced.Holds record}
      ∧ cyclicClasses.referenced.Holds base
      ∧ cyclicClasses.referenced.Holds api := by
  have keyed : cyclicClasses.IsKeyedByName := isKeyedByName_insertAll isKeyedByName_empty _
  have least := (referenced_isLeast_isClosed keyed).1
  have widgetInMap : widget ∈ cyclicClasses.records :=
    mem_records_iff.mpr ⟨"Lpkg/Widget;", rfl⟩
  have baseHeld : cyclicClasses.referenced.Holds base :=
    least.1.surface widget widgetInMap rfl "Lpkg/Base;" (.hierarchy (.superclass rfl)) base
      ⟨rfl, rfl⟩
  have apiHeld : cyclicClasses.referenced.Holds api :=
    least.1.hierarchy base baseHeld "[Lpkg/Api;" (.interface List.mem_cons_self) api ⟨rfl, rfl⟩
  exact ⟨keyed, least, baseHeld, apiHeld⟩

end ClassMap

end DexSurface
