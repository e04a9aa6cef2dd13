import DexSurface.Proofs.Descriptor.OutermostName
import DexSurface.Proofs.Nested.StubEntries

namespace DexSurface

/-!
# The two descriptions of a member class

A member class that has a stub is described twice, in the stub of the class that lists it and in its
own stub.  The first description names the class around the member as the outer class, the second
the outermost class of the member's name.  With several levels of nesting these are different.
-/

/-- A class carries a marker by its only inner-class annotation. -/
def ClassRecord.IsMarkedOnce (record : ClassRecord) (marker : InnerClassMarker) : Prop :=
  ∃ note,
    record.annotations.filter (fun note => note.annotationType = Platform.innerClass) = [note]
      ∧ InnerClassMarker.carriedBy note = .ok (some marker)

namespace Stub

open ClassFile (InnerClass ClassTree)

/-- A class lists a class of the map as a member class. -/
structure Surroundings.ListsMember
    (surroundings : Surroundings)
    (record : ClassRecord)
    (typeName : TypeDescriptor)
    (member : ClassRecord) : Prop where
  listed : record.annotations.Lists Platform.memberClasses typeName
  stored : surroundings.classes[typeName]? = some member

/--
The stubs of a class and of its member class both describe the member class, and differ at most in
the name of the outer class.
-/
structure DescribesTwice
    (surroundings : Surroundings)
    (record : ClassRecord)
    (typeName : TypeDescriptor)
    (member : ClassRecord)
    (marker : InnerClassMarker)
    (tree memberTree : ClassTree) : Prop where
  outside : memberEntry record member marker ∈ tree.innerClasses
  inside : ownEntry member marker ∈ memberTree.innerClasses
  /-- Other entries of the name are about other classes of the same internal name. -/
  onlyOutside :
    ∀ entry ∈ tree.innerClasses, entry.name = member.internalName →
      entry = memberEntry record member marker
        ∨ ∃ otherType ≠ typeName, ∃ other,
            surroundings.ListsMember record otherType other
              ∧ other.internalName = member.internalName
  /-- Other entries of the name are there if the member lists a class of its own internal name. -/
  onlyInside :
    ∀ entry ∈ memberTree.innerClasses, entry.name = member.internalName →
      entry = ownEntry member marker
        ∨ ∃ otherType other,
            surroundings.ListsMember member otherType other
              ∧ other.internalName = member.internalName
  sameRest :
    { memberEntry record member marker with outerName := (ownEntry member marker).outerName } =
      ownEntry member marker
  outermost :
    '/' ∉ marker.name.toList →
      (ownEntry member marker).outerName =
        some ((Descriptor.outermostName? record.internalName).getD record.internalName)
  agree_iff :
    memberEntry record member marker = ownEntry member marker
      ↔ Descriptor.IsTopLevel record.internalName ∧ '/' ∉ marker.name.toList

variable
  {surroundings : Surroundings}
  {record member : ClassRecord}
  {typeName : TypeDescriptor}
  {marker other : InnerClassMarker}
  {note : Annotation}
  {entry : InnerClass}

/-! The only marker of a class. -/

/-- The only inner-class annotation of a class gives its marker. -/
theorem innerClassMarker?_of_isMarkedOnce (markedOnce : record.IsMarkedOnce marker) :
    record.innerClassMarker? = .ok (some marker) := by
  obtain ⟨only, isOnly, carried⟩ := markedOnce
  have found : record.annotations.find? Platform.innerClass = some only := by
    rw [Annotations.find?, ← List.head?_filter, isOnly, List.head?_cons]
  rw [ClassRecord.innerClassMarker?, InnerClassMarker.find?, found]
  exact carried

/-- A class that is marked once has an annotation that carries the marker. -/
theorem exists_note_of_isMarkedOnce (markedOnce : record.IsMarkedOnce marker) :
    ∃ note ∈ record.annotations,
      note.annotationType = Platform.innerClass
        ∧ InnerClassMarker.carriedBy note = .ok (some marker) := by
  obtain ⟨only, isOnly, carried⟩ := markedOnce
  obtain ⟨inNotes, isMarker⟩ := List.mem_filter.mp (isOnly ▸ List.mem_singleton_self only)
  exact ⟨only, inNotes, of_decide_eq_true isMarker, carried⟩

/-- Every inner-class annotation of a class that is marked once carries the same marker. -/
theorem marker_eq_of_isMarkedOnce
    (markedOnce : record.IsMarkedOnce marker)
    (inNotes : note ∈ record.annotations)
    (isMarker : note.annotationType = Platform.innerClass)
    (carried : InnerClassMarker.carriedBy note = .ok (some other)) :
    other = marker := by
  obtain ⟨only, isOnly, onlyCarried⟩ := markedOnce
  have isMember :
      note ∈ record.annotations.filter fun note => note.annotationType = Platform.innerClass :=
    List.mem_filter.mpr ⟨inNotes, decide_eq_true isMarker⟩
  rw [isOnly] at isMember
  obtain rfl := List.mem_singleton.mp isMember
  rw [carried] at onlyCarried
  exact Option.some.inj (Except.ok.inj onlyCarried)

/-- A marker of a class with a stub hides nothing, so that all entries with it are kept. -/
theorem keepsInnerClass_of_emitClass?
    {tree : ClassTree}
    (given : CanGive (emitClass? surroundings record) (some tree))
    (marked : record.innerClassMarker? = .ok (some marker))
    (typeName : TypeDescriptor) :
    surroundings.keepsInnerClass typeName marker = true := by
  obtain ⟨before, after, emitted⟩ := given
  have isOpen := (emitClass?_eq_some emitted).2.1
  rw [isHiddenNested, marked] at isOpen
  have accessible : marker.flags.isInaccessible = false := Except.ok.inj isOpen
  simp [Surroundings.keepsInnerClass, AccessFlags.isAccessible, accessible]

/-! The entries of one name. -/

/-- The class around a nested class has another name. -/
theorem ne_of_eq_nested {outer inner name : InternalName} (nested : name = outer ++ "$" ++ inner) :
    outer ≠ name := by
  intro same
  have sameLength := congrArg String.length (same.trans nested)
  simp [String.length] at sameLength

/--
Both entries for a member class are equal exactly if the class around it is at the top level and the
simple name has no slash.
-/
theorem memberEntry_eq_ownEntry_iff
    (nested : member.internalName = record.internalName ++ "$" ++ marker.name) :
    memberEntry record member marker = ownEntry member marker
      ↔ Descriptor.IsTopLevel record.internalName ∧ '/' ∉ marker.name.toList := by
  rw [← Descriptor.outermostName?_nested_eq_some_iff, ← nested]
  simp [memberEntry, ownEntry, eq_comm]

/-- An entry that another class has about a class comes from its list of member classes. -/
theorem Surroundings.Describes.eq_memberEntry_or
    {described : ClassRecord}
    (describes : surroundings.Describes record note described entry)
    (inNotes : note ∈ record.annotations)
    (stored : surroundings.classes[typeName]? = some member)
    (marked : member.innerClassMarker? = .ok (some marker))
    (differ : record.internalName ≠ member.internalName)
    (isNamed : entry.name = member.internalName) :
    entry = memberEntry record member marker
      ∨ ∃ otherType ≠ typeName, ∃ other,
          surroundings.ListsMember record otherType other
            ∧ other.internalName = member.internalName := by
  cases describes with
  | itself => exact absurd isNamed differ
  | @member values otherType _ otherMarker isList valueGiven inValues otherStored otherMarked =>
      by_cases sameType : otherType = typeName
      case pos =>
        left
        rw [sameType, stored] at otherStored
        obtain rfl := Option.some.inj otherStored
        rw [marked] at otherMarked
        obtain rfl := Option.some.inj (Except.ok.inj otherMarked)
        rfl
      case neg =>
        have lists : record.annotations.Lists Platform.memberClasses otherType :=
          ⟨note, inNotes, isList, values, valueGiven, inValues⟩
        exact Or.inr ⟨otherType, sameType, described, ⟨lists, otherStored⟩, isNamed⟩

/-- An entry that a class has under its own name is its own, or the class lists its name. -/
theorem Surroundings.Describes.eq_ownEntry_or
    {described : ClassRecord}
    (describes : surroundings.Describes record note described entry)
    (inNotes : note ∈ record.annotations)
    (markedOnce : record.IsMarkedOnce marker)
    (isNamed : entry.name = record.internalName) :
    entry = ownEntry record marker
      ∨ ∃ otherType other,
          surroundings.ListsMember record otherType other
            ∧ other.internalName = record.internalName := by
  cases describes with
  | itself isMarker carried =>
      obtain rfl := marker_eq_of_isMarkedOnce markedOnce inNotes isMarker carried
      exact Or.inl rfl
  | @member values otherType _ otherMarker isList valueGiven inValues stored =>
      have lists : record.annotations.Lists Platform.memberClasses otherType :=
        ⟨note, inNotes, isList, values, valueGiven, inValues⟩
      exact Or.inr ⟨otherType, described, ⟨lists, stored⟩, isNamed⟩

/--
If a class lists a member class and both have stubs, both stubs have an entry about the member.
The entries agree exactly if the listing class is top-level and the simple name has no `/`; else
only the name of the outer class differs.
-/
theorem describesTwice_of_emitClass?
    {tree memberTree : ClassTree}
    (given : CanGive (emitClass? surroundings record) (some tree))
    (memberGiven : CanGive (emitClass? surroundings member) (some memberTree))
    (lists : surroundings.ListsMember record typeName member)
    (markedOnce : member.IsMarkedOnce marker)
    (nested : member.internalName = record.internalName ++ "$" ++ marker.name) :
    DescribesTwice surroundings record typeName member marker tree memberTree := by
  have marked := innerClassMarker?_of_isMarkedOnce markedOnce
  have keeps := keepsInnerClass_of_emitClass? memberGiven marked
  constructor
  case outside =>
    obtain ⟨note, inNotes, isList, values, valueGiven, inValues⟩ := lists.listed
    exact (mem_innerClasses_iff given).mpr ⟨note, inNotes, member,
      .member isList valueGiven inValues lists.stored marked (keeps typeName)⟩
  case inside =>
    obtain ⟨note, inNotes, isMarker, carried⟩ := exists_note_of_isMarkedOnce markedOnce
    exact (mem_innerClasses_iff memberGiven).mpr ⟨note, inNotes, member,
      .itself isMarker carried (keeps member.typeName)⟩
  case onlyOutside =>
    intro entry inEntries isNamed
    obtain ⟨note, inNotes, described, describes⟩ := (mem_innerClasses_iff given).mp inEntries
    exact describes.eq_memberEntry_or inNotes lists.stored marked (ne_of_eq_nested nested) isNamed
  case onlyInside =>
    intro entry inEntries isNamed
    obtain ⟨note, inNotes, described, describes⟩ := (mem_innerClasses_iff memberGiven).mp inEntries
    exact describes.eq_ownEntry_or inNotes markedOnce isNamed
  case sameRest => simp only [memberEntry, ownEntry]
  case outermost =>
    intro noSlash
    rw [ownEntry, nested, Descriptor.outermostName?_nested noSlash]
  case agree_iff => exact memberEntry_eq_ownEntry_iff nested

/-- The annotation that marks a public static member class. -/
def markerNote (name : String) : Annotation :=
  ⟨.system, Platform.innerClass, [("name", .string name), ("accessFlags", .int 9)]⟩

/-- The annotation that lists one member class. -/
def memberNote (typeName : TypeDescriptor) : Annotation :=
  ⟨.system, Platform.memberClasses, [("value", .array [.type typeName])]⟩

/-- A public class with metadata. -/
def menuClass (typeName : TypeDescriptor) (annotations : Annotations) : ClassRecord :=
  { (default : ClassRecord) with
    typeName
    flags := AccessFlags.publicBit
    superclass := some Descriptor.object
    annotations }

/-- A top-level class with a member class. -/
def menu : ClassRecord :=
  menuClass "Lpkg/Menu;" [memberNote "Lpkg/Menu$Item;"]

/-- A member class with a member class of its own. -/
def menuItem : ClassRecord :=
  menuClass "Lpkg/Menu$Item;" [markerNote "Item", memberNote "Lpkg/Menu$Item$Icon;"]

/-- A member class of a member class. -/
def menuIcon : ClassRecord :=
  menuClass "Lpkg/Menu$Item$Icon;" [markerNote "Icon"]

/-- What surrounds the stubs of three classes inside each other. -/
def menuSurroundings : Surroundings :=
  let classes := ClassMap.insertAll ∅ [menu, menuItem, menuIcon]
  ⟨classes, classes.referenced, .standard⟩

/-- The two descriptions of the class in the middle agree. -/
theorem describesTwice_of_emitClass?_menuItem :
    ∃ tree memberTree,
      CanGive (emitClass? menuSurroundings menu) (some tree)
        ∧ CanGive (emitClass? menuSurroundings menuItem) (some memberTree)
        ∧ menuSurroundings.ListsMember menu "Lpkg/Menu$Item;" menuItem
        ∧ menuItem.IsMarkedOnce ⟨"Item", 9⟩
        ∧ menuItem.internalName = menu.internalName ++ "$" ++ "Item"
        ∧ DescribesTwice menuSurroundings menu "Lpkg/Menu$Item;" menuItem ⟨"Item", 9⟩ tree
            memberTree
        ∧ memberEntry menu menuItem ⟨"Item", 9⟩ = ownEntry menuItem ⟨"Item", 9⟩ := by
  obtain ⟨tree, given⟩ : ∃ tree, CanGive (emitClass? menuSurroundings menu) (some tree) :=
    ⟨_, .empty, _, rfl⟩
  obtain ⟨memberTree, memberGiven⟩ :
      ∃ memberTree, CanGive (emitClass? menuSurroundings menuItem) (some memberTree) :=
    ⟨_, .empty, _, rfl⟩
  have lists : menuSurroundings.ListsMember menu "Lpkg/Menu$Item;" menuItem :=
    ⟨⟨_, List.mem_singleton_self _, rfl, _, rfl, List.mem_singleton_self _⟩, rfl⟩
  have markedOnce : menuItem.IsMarkedOnce ⟨"Item", 9⟩ := ⟨markerNote "Item", rfl, rfl⟩
  have nested : menuItem.internalName = menu.internalName ++ "$" ++ "Item" := by decide
  have twice := describesTwice_of_emitClass? given memberGiven lists markedOnce nested
  have isTopLevel : Descriptor.IsTopLevel menu.internalName :=
    Descriptor.outermostName?_eq_none_iff.mp (by decide)
  exact ⟨tree, memberTree, given, memberGiven, lists, markedOnce, nested, twice,
    twice.agree_iff.mpr ⟨isTopLevel, by decide⟩⟩

/-- The class in the middle has an entry about its member class that the member's stub lacks. -/
theorem memberEntry_ne_ownEntry_menuIcon :
    ∃ tree memberTree,
      CanGive (emitClass? menuSurroundings menuItem) (some tree)
        ∧ CanGive (emitClass? menuSurroundings menuIcon) (some memberTree)
        ∧ menuSurroundings.ListsMember menuItem "Lpkg/Menu$Item$Icon;" menuIcon
        ∧ menuIcon.IsMarkedOnce ⟨"Icon", 9⟩
        ∧ menuIcon.internalName = menuItem.internalName ++ "$" ++ "Icon"
        ∧ memberEntry menuItem menuIcon ⟨"Icon", 9⟩ ∈ tree.innerClasses
        ∧ memberTree.innerClasses = [ownEntry menuIcon ⟨"Icon", 9⟩]
        ∧ memberEntry menuItem menuIcon ⟨"Icon", 9⟩ ≠ ownEntry menuIcon ⟨"Icon", 9⟩
        ∧ (memberEntry menuItem menuIcon ⟨"Icon", 9⟩).outerName = some "pkg/Menu$Item"
        ∧ (ownEntry menuIcon ⟨"Icon", 9⟩).outerName = some "pkg/Menu" := by
  obtain ⟨tree, given, entries⟩ :
      ∃ tree,
        CanGive (emitClass? menuSurroundings menuItem) (some tree)
          ∧ tree.innerClasses =
              [ownEntry menuItem ⟨"Item", 9⟩, memberEntry menuItem menuIcon ⟨"Icon", 9⟩] :=
    ⟨_, ⟨.empty, _, rfl⟩, rfl⟩
  obtain ⟨memberTree, memberGiven, memberEntries⟩ :
      ∃ memberTree,
        CanGive (emitClass? menuSurroundings menuIcon) (some memberTree)
          ∧ memberTree.innerClasses = [ownEntry menuIcon ⟨"Icon", 9⟩] :=
    ⟨_, ⟨.empty, _, rfl⟩, rfl⟩
  have lists : menuSurroundings.ListsMember menuItem "Lpkg/Menu$Item$Icon;" menuIcon := by
    refine ⟨⟨memberNote "Lpkg/Menu$Item$Icon;", ?_, rfl, _, rfl, List.mem_singleton_self _⟩, rfl⟩
    exact List.mem_cons_of_mem _ (List.mem_singleton_self _)
  have inEntries : memberEntry menuItem menuIcon ⟨"Icon", 9⟩ ∈ tree.innerClasses := by
    rw [entries]
    exact List.mem_cons_of_mem _ (List.mem_singleton_self _)
  exact ⟨tree, memberTree, given, memberGiven, lists, ⟨markerNote "Icon", rfl, rfl⟩, by decide,
    inEntries, memberEntries, by decide, rfl, by decide⟩

end Stub

end DexSurface
