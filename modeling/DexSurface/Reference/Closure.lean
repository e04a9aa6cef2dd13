import DexSurface.ClassMap
import DexSurface.Reference.Mention
import DexSurface.Total

/-!
# The closure of mentioned types

The accessible classes of a map mention inaccessible ones, and those mention further ones outside of
their members.  All of them must be emitted.  A class is marked as found before its own mentions are
followed, so cycles end and every class is followed once.
-/

namespace DexSurface

/-- Inaccessible classes that the surface needs, by type name. -/
abbrev ReferencedSet := Std.TreeMap String ClassRecord

namespace ClassMap

/-- The types still to be followed from classes that are not found yet. -/
def unfollowed (classes : ClassMap) (found : ReferencedSet) : Nat :=
  total (fun record => record.hierarchyMentions.length)
    (classes.records.filter fun record => !found.contains record.typeName)

/-- Finding one more class of the map takes its mentions from what is left. -/
theorem unfollowed_insert
    {classes : ClassMap}
    {found : ReferencedSet}
    {record : ClassRecord}
    (member : record ∈ classes.records)
    (fresh : found.contains record.typeName = false) :
    record.hierarchyMentions.length
        + classes.unfollowed (found.insert record.typeName record)
      ≤ classes.unfollowed found := by
  apply add_total_filter_le (fun other => ?_) member
  · simp
  · simp [fresh]
  · simp [Std.TreeMap.contains_insert]

set_option linter.unusedVariables false in
/--
Follow pending types: a type that names an inaccessible class not found before marks that class as
found, and the types it mentions outside of its members become pending.

A class whose type name has been found is passed over, and not marked again.  In a map keyed by type
name the class found under that name is the class itself, and marking it again would change nothing.
In a map that holds two classes of one type name, marking again would put the class named last in
the place of the one found first; here the first one stays.
-/
def follow
    (classes : ClassMap)
    (pending : List TypeDescriptor)
    (found : ReferencedSet) : ReferencedSet :=
  match pending with
  | [] => found
  | typeName :: rest =>
      match resolved : classes.inaccessible? typeName with
      | none => classes.follow rest found
      | some record =>
          if fresh : found.contains record.typeName then
            classes.follow rest found
          else
            classes.follow (record.hierarchyMentions ++ rest)
              (found.insert record.typeName record)
termination_by pending.length + classes.unfollowed found
decreasing_by
  · simp
  · simp
  · have smaller :=
      unfollowed_insert
        (mem_records_of_getElem? (Option.filter_eq_some_iff.mp resolved).1)
        (Bool.eq_false_iff.mpr fresh)
    simp only [List.length_append, List.length_cons]
    omega

/-- Without pending types nothing more is found. -/
@[simp]
theorem follow_nil (classes : ClassMap) (found : ReferencedSet) :
    classes.follow [] found = found := by
  rw [follow]

/-- A type that names no inaccessible class is passed over. -/
theorem follow_cons_of_unresolved
    {classes : ClassMap}
    {typeName : TypeDescriptor}
    (unresolved : classes.inaccessible? typeName = none)
    (rest : List TypeDescriptor)
    (found : ReferencedSet) :
    classes.follow (typeName :: rest) found = classes.follow rest found := by
  rw [follow]
  split
  · rfl
  · next record resolved =>
      rw [unresolved] at resolved
      cases resolved

/-- A type that names a class found before is passed over. -/
theorem follow_cons_of_contains
    {classes : ClassMap}
    {typeName : TypeDescriptor}
    {record : ClassRecord}
    {found : ReferencedSet}
    (resolved : classes.inaccessible? typeName = some record)
    (present : found.contains record.typeName = true)
    (rest : List TypeDescriptor) :
    classes.follow (typeName :: rest) found = classes.follow rest found := by
  rw [follow]
  split
  · rfl
  · next other resolvedOther =>
      rw [resolved] at resolvedOther
      obtain rfl := Option.some.inj resolvedOther
      rw [dif_pos present]

/-- A type that names a new class marks the class and makes its mentions pending. -/
theorem follow_cons_of_fresh
    {classes : ClassMap}
    {typeName : TypeDescriptor}
    {record : ClassRecord}
    {found : ReferencedSet}
    (resolved : classes.inaccessible? typeName = some record)
    (fresh : ¬ found.contains record.typeName = true)
    (rest : List TypeDescriptor) :
    classes.follow (typeName :: rest) found =
      classes.follow (record.hierarchyMentions ++ rest)
        (found.insert record.typeName record) := by
  rw [follow]
  split
  · next unresolved =>
      rw [resolved] at unresolved
      cases unresolved
  · next other resolvedOther =>
      rw [resolved] at resolvedOther
      obtain rfl := Option.some.inj resolvedOther
      rw [dif_neg fresh]

/-- The accessible classes in name order. -/
def accessibleClasses (classes : ClassMap) : List ClassRecord :=
  classes.records.filter fun record => record.flags.isAccessible

/-- The inaccessible classes reached from the accessible classes of a map. -/
def reached (classes : ClassMap) : ReferencedSet :=
  classes.follow (classes.accessibleClasses.flatMap ClassRecord.surfaceMentions) ∅

/-- Add the inaccessible classes that some types name, without following them. -/
def mark (classes : ClassMap) (types : List TypeDescriptor) (found : ReferencedSet) :
    ReferencedSet :=
  (types.filterMap classes.inaccessible?).foldl
    (fun found record => found.insert record.typeName record) found

/--
The inaccessible classes that the accessible classes of a map mention, directly or not, with the
direct supertypes of all of them.
-/
def referenced (classes : ClassMap) : ReferencedSet :=
  let found := classes.reached
  classes.mark (found.toList.flatMap fun entry => entry.2.supertypes) found

end ClassMap

end DexSurface
