import DexSurface.Proofs.Output.MemberAnnotations

namespace DexSurface

/-!
# The inner-class entries of stubs

A stub describes its own class by an entry for each inner-class marker that its class carries, and
the member classes that its class lists by an entry for each one that the map knows and that
carries a marker.  An entry is kept if the marker is accessible or the class is referenced.  A stub
has these entries and no others.
-/

namespace Stub

open ClassFile (InnerClass ClassTree)

/-- The entry that a stub has about its own class. -/
def ownEntry (record : ClassRecord) (marker : InnerClassMarker) : InnerClass where
  name := record.internalName
  outerName := Descriptor.outermostName? record.internalName
  innerName := some marker.name
  flags := marker.flags

/-- The entry that the stub of a class has about a member class. -/
def memberEntry (record member : ClassRecord) (marker : InnerClassMarker) : InnerClass where
  name := member.internalName
  outerName := some record.internalName
  innerName := some marker.name
  flags := marker.flags

/-- An annotation of a class makes its stub describe a class by an entry. -/
inductive Surroundings.Describes
    (surroundings : Surroundings)
    (record : ClassRecord)
    (note : Annotation) : ClassRecord → InnerClass → Prop where
  | itself {marker : InnerClassMarker} :
      note.annotationType = Platform.innerClass →
      InnerClassMarker.carriedBy note = .ok (some marker) →
      surroundings.keepsInnerClass record.typeName marker = true →
      Describes surroundings record note record (ownEntry record marker)
  | member
      {values : List EncodedValue}
      {typeName : TypeDescriptor}
      {member : ClassRecord}
      {marker : InnerClassMarker} :
      note.annotationType = Platform.memberClasses →
      note.singleValue = .ok (.array values) →
      .type typeName ∈ values →
      surroundings.classes[typeName]? = some member →
      member.innerClassMarker? = .ok (some marker) →
      surroundings.keepsInnerClass typeName marker = true →
      Describes surroundings record note member (memberEntry record member marker)

variable
  {surroundings : Surroundings}
  {record described : ClassRecord}
  {entry : InnerClass}
  {note : Annotation}

/-- An annotation of another type describes nothing. -/
theorem not_describes
    (noMarker : note.annotationType ≠ Platform.innerClass)
    (noList : note.annotationType ≠ Platform.memberClasses) :
    ¬ surroundings.Describes record note described entry := by
  intro describes
  cases describes with
  | itself isMarker => exact noMarker isMarker
  | member isList => exact noList isList

/-! What one annotation adds. -/

/-- An annotation describes its class exactly by the entry of a marker that is kept. -/
theorem ownInnerClass?_eq_some_iff
    {own? : Option InnerClass}
    (given : ownInnerClass? surroundings record note = .ok own?) :
    own? = some entry
      ↔ ∃ marker,
          InnerClassMarker.carriedBy note = .ok (some marker)
            ∧ surroundings.keepsInnerClass record.typeName marker = true
            ∧ ownEntry record marker = entry := by
  obtain ⟨marker?, carried, rest⟩ := isGiving_except.of_bind given
  rw [carried]
  cases marker? with
  | none =>
      obtain rfl := Except.ok.inj rest
      simp
  | some marker =>
      dsimp only at rest
      split at rest
      · next keeps =>
          obtain rfl := Except.ok.inj rest
          simp [keeps, ownEntry]
      · next drops =>
          obtain rfl := Except.ok.inj rest
          simp [drops]

/-- An inner-class marker gives the entry that describes the class itself. -/
theorem own_describes_iff
    {own? : Option InnerClass}
    (isMarker : note.annotationType = Platform.innerClass)
    (given : ownInnerClass? surroundings record note = .ok own?) :
    own? = some entry ↔ ∃ described, surroundings.Describes record note described entry := by
  rw [ownInnerClass?_eq_some_iff given]
  constructor
  · rintro ⟨marker, carried, keeps, rfl⟩
    exact ⟨record, .itself isMarker carried keeps⟩
  · rintro ⟨described, describes⟩
    cases describes with
    | itself _ carried keeps => exact ⟨_, carried, keeps, rfl⟩
    | member isList =>
        rw [isMarker] at isList
        exact absurd isList (by decide)

/-- A listed type is described exactly by the entry of a class of the map whose marker is kept. -/
theorem memberInnerClass?_eq_some_iff
    {typeName : TypeDescriptor}
    {member? : Option InnerClass}
    (given : CanGive (memberInnerClass? surroundings record typeName) member?) :
    member? = some entry
      ↔ ∃ member marker,
          surroundings.classes[typeName]? = some member
            ∧ member.innerClassMarker? = .ok (some marker)
            ∧ surroundings.keepsInnerClass typeName marker = true
            ∧ memberEntry record member marker = entry := by
  rw [memberInnerClass?] at given
  split at given
  · next missing =>
      obtain ⟨_, -, rest⟩ := isGiving_state.of_bind given
      obtain rfl := isGiving_state.of_pure rest
      simp [missing]
  · next member stored =>
      obtain ⟨marker?, markerGiven, rest⟩ := isGiving_state.of_bind given
      have marked := canGive_ofRecord markerGiven
      cases marker? with
      | none =>
          obtain rfl := isGiving_state.of_pure rest
          simp [stored, marked]
      | some marker =>
          dsimp only at rest
          split at rest
          · next keeps =>
              obtain rfl := isGiving_state.of_pure rest
              simp [stored, marked, keeps, memberEntry]
          · next drops =>
              obtain rfl := isGiving_state.of_pure rest
              simp [stored, marked, drops]

/-- A list of member classes gives the entries that describe them. -/
theorem mem_memberInnerClasses_iff
    {entries : List InnerClass}
    (isList : note.annotationType = Platform.memberClasses)
    (given : CanGive (memberInnerClasses surroundings record note) entries) :
    entry ∈ entries ↔ ∃ described, surroundings.Describes record note described entry := by
  obtain ⟨members, membersGiven, rest⟩ := isGiving_state.of_bind given
  obtain ⟨value, valueGiven, arrayGiven⟩ := isGiving_except.of_bind (canGive_ofRecord membersGiven)
  obtain rfl := asArray_eq_ok_iff.mp arrayGiven
  have decided :
      ∀ item ∈ members, ∀ option,
        CanGive
            (do memberInnerClass? surroundings record (← Run.lift (RunError.ofRecord item.asType)))
            option →
          (option = some entry
            ↔ ∃ typeName, item = .type typeName
              ∧ ∃ member marker,
                  surroundings.classes[typeName]? = some member
                    ∧ member.innerClassMarker? = .ok (some marker)
                    ∧ surroundings.keepsInnerClass typeName marker = true
                    ∧ memberEntry record member marker = entry) := by
    intro item _ option optionGiven
    obtain ⟨typeName, typeGiven, memberGiven⟩ := isGiving_state.of_bind optionGiven
    obtain rfl := asType_eq_ok_iff.mp (canGive_ofRecord typeGiven)
    rw [memberInnerClass?_eq_some_iff memberGiven]
    simp
  rw [isGiving_state.mem_filterMapM_iff rest decided]
  constructor
  · rintro ⟨item, inMembers, typeName, rfl, member, marker, stored, marked, keeps, rfl⟩
    exact ⟨member, .member isList valueGiven inMembers stored marked keeps⟩
  · rintro ⟨described, describes⟩
    cases describes with
    | itself isMarker =>
        rw [isList] at isMarker
        exact absurd isMarker (by decide)
    | member _ sameValue inValues stored marked keeps =>
        rw [valueGiven] at sameValue
        cases sameValue
        exact ⟨_, inValues, _, rfl, described, _, stored, marked, keeps, rfl⟩

/--
An annotation adds the entries by which it describes classes, and no others.  Two kinds of
annotations add entries; the others have another type and describe nothing.
-/
theorem mem_innerClasses_addAnnotationToClass
    {tree result : ClassTree}
    (given : CanGive (addAnnotationToClass surroundings record tree note) result) :
    entry ∈ result.innerClasses
      ↔ entry ∈ tree.innerClasses
        ∨ ∃ described, surroundings.Describes record note described entry := by
  cases takesNote_of_addAnnotationToClass given with
  | nested isMarker ownGiven =>
      rw [List.mem_append, Option.mem_toList, own_describes_iff isMarker ownGiven]
  | members isList membersGiven =>
      rw [List.mem_append, mem_memberInnerClasses_iff isList membersGiven]
  | leftOut _ noMarker noList => simp [not_describes noMarker noList]
  | enclosing isOther | permitted isOther =>
      have noMarker : note.annotationType ≠ Platform.innerClass := by
        rw [isOther]
        decide
      have noList : note.annotationType ≠ Platform.memberClasses := by
        rw [isOther]
        decide
      simp [not_describes noMarker noList]
  | kept isKept =>
      have noMarker : note.annotationType ≠ Platform.innerClass := by
        rintro isMarker
        exact isKept (isMarker ▸ by decide)
      have noList : note.annotationType ≠ Platform.memberClasses := by
        rintro isList
        exact isKept (isList ▸ by decide)
      simp [not_describes noMarker noList]

/-! Classes. -/

/-- The entries after some annotations are the old ones and those that an annotation describes. -/
theorem mem_innerClasses_foldlM
    {notes : Annotations}
    {tree result : ClassTree}
    (given : CanGive (notes.foldlM (addAnnotationToClass surroundings record) tree) result) :
    entry ∈ result.innerClasses
      ↔ entry ∈ tree.innerClasses
        ∨ ∃ note ∈ notes, ∃ described, surroundings.Describes record note described entry := by
  induction notes generalizing tree with
  | nil =>
      obtain rfl := isGiving_state.of_pure given
      simp
  | cons first rest inductionHypothesis =>
      rw [List.foldlM_cons] at given
      obtain ⟨middle, firstGiven, restGiven⟩ := isGiving_state.of_bind given
      rw [inductionHypothesis restGiven, mem_innerClasses_addAnnotationToClass firstGiven, or_assoc,
        List.exists_mem_cons_iff]

/-- The head of a class has no entries about nested classes. -/
theorem innerClasses_of_classHead
    {tree : ClassTree}
    (given : classHead record = .ok tree) :
    tree.innerClasses = [] := by
  obtain ⟨signature, -, same⟩ := isGiving_except.of_bind given
  obtain rfl := Except.ok.inj same
  rfl

/-- The entries of a stub are those by which the annotations of its class describe classes. -/
theorem mem_innerClasses_iff
    {tree : ClassTree}
    (given : CanGive (emitClass? surroundings record) (some tree)) :
    entry ∈ tree.innerClasses
      ↔ ∃ note ∈ record.annotations,
          ∃ described, surroundings.Describes record note described entry := by
  obtain ⟨head, noted, _, _, headGiven, notedGiven, -, -, -, made⟩ :=
    exists_parts_of_emitClass? given
  rw [made, mem_innerClasses_foldlM notedGiven]
  simp [innerClasses_of_classHead headGiven]

end Stub

end DexSurface
