import DexSurface.Reference.Mention

namespace DexSurface

/-!
# What it means to mention a type

The lists of mentioned types are computed by flattening annotations and members.  This module says
what a mention is without a list, as relations between a class and a type, and shows that the lists
hold exactly the related types.
-/

/-- A value names a type itself or through a value that it holds. -/
inductive EncodedValue.Names : EncodedValue → TypeDescriptor → Prop where
  | literal {descriptor : TypeDescriptor} :
      Names (.type descriptor) descriptor
  | enumClass {constant : FieldRef} :
      Names (.enum constant) constant.definingClass
  | enumType {constant : FieldRef} :
      Names (.enum constant) constant.fieldType
  | fieldClass {reference : FieldRef} :
      Names (.field reference) reference.definingClass
  | fieldType {reference : FieldRef} :
      Names (.field reference) reference.fieldType
  | methodClass {reference : MethodRef} :
      Names (.method reference) reference.definingClass
  | returnType {reference : MethodRef} :
      Names (.method reference) reference.returnType
  | parameterType {reference : MethodRef} {descriptor : TypeDescriptor} :
      descriptor ∈ reference.parameterTypes →
      Names (.method reference) descriptor
  | annotationType {annotationType : TypeDescriptor} {elements : List (String × EncodedValue)} :
      Names (.nested annotationType elements) annotationType
  | element
      {annotationType descriptor : TypeDescriptor}
      {elements : List (String × EncodedValue)}
      {element : String × EncodedValue} :
      element ∈ elements →
      Names element.2 descriptor →
      Names (.nested annotationType elements) descriptor
  | member
      {descriptor : TypeDescriptor}
      {values : List EncodedValue}
      {value : EncodedValue} :
      value ∈ values →
      Names value descriptor →
      Names (.array values) descriptor

namespace EncodedValue

mutual

/-- The listed types of a value are those that it names. -/
theorem mem_mentions_iff {descriptor : TypeDescriptor} :
    ∀ value : EncodedValue, descriptor ∈ value.mentions ↔ value.Names descriptor
  | .nested annotationType elements => by
      rw [mentions, List.mem_cons, mem_mentionsOfElements_iff elements]
      constructor
      · rintro (isType | ⟨element, member, named⟩)
        · subst isType
          exact .annotationType
        · exact .element member named
      · intro named
        cases named with
        | annotationType => exact Or.inl rfl
        | element member named => exact Or.inr ⟨_, member, named⟩
  | .array values => by
      rw [mentions, mem_mentionsOfValues_iff values]
      constructor
      · rintro ⟨value, member, named⟩
        exact .member member named
      · intro named
        cases named with
        | member member named => exact ⟨_, member, named⟩
  | .type literal => by
      rw [mentions, List.mem_singleton]
      constructor
      · intro same
        subst same
        exact .literal
      · intro named
        cases named
        rfl
  | .enum constant => by
      rw [mentions]
      constructor
      · intro listed
        rcases List.mem_cons.mp listed with isClass | inRest
        · subst isClass
          exact .enumClass
        · rw [List.mem_singleton.mp inRest]
          exact .enumType
      · intro named
        cases named <;> simp
  | .field reference => by
      rw [mentions]
      constructor
      · intro listed
        rcases List.mem_cons.mp listed with isClass | inRest
        · subst isClass
          exact .fieldClass
        · rw [List.mem_singleton.mp inRest]
          exact .fieldType
      · intro named
        cases named <;> simp
  | .method reference => by
      rw [mentions]
      constructor
      · intro listed
        rcases List.mem_cons.mp listed with isClass | inRest
        · subst isClass
          exact .methodClass
        · rcases List.mem_cons.mp inRest with isReturn | isParameter
          · subst isReturn
            exact .returnType
          · exact .parameterType isParameter
      · intro named
        cases named with
        | methodClass => simp
        | returnType => simp
        | parameterType isParameter => simp [isParameter]
  | .boolean _ | .byte _ | .short _ | .char _ | .int _ | .long _ | .float _ | .double _
  | .string _ | .null => by
      constructor
      · intro listed
        simp [mentions] at listed
      · intro named
        cases named

/-- Values mention exactly the types that one of them names. -/
theorem mem_mentionsOfValues_iff {descriptor : TypeDescriptor} :
    ∀ values : List EncodedValue,
      descriptor ∈ mentionsOfValues values ↔ ∃ value ∈ values, value.Names descriptor
  | [] => by simp [mentionsOfValues]
  | value :: rest => by
      rw [mentionsOfValues, List.mem_append, mem_mentions_iff value,
        mem_mentionsOfValues_iff rest]
      simp

/-- Named values mention exactly the types that one of them names. -/
theorem mem_mentionsOfElements_iff {descriptor : TypeDescriptor} :
    ∀ elements : List (String × EncodedValue),
      descriptor ∈ mentionsOfElements elements
        ↔ ∃ element ∈ elements, element.2.Names descriptor
  | [] => by simp [mentionsOfElements]
  | (name, value) :: rest => by
      rw [mentionsOfElements, List.mem_append, mem_mentions_iff value,
        mem_mentionsOfElements_iff rest]
      simp

end

end EncodedValue

namespace Annotation

/--
An annotation of the platform's own namespace that is not one of the three whose values name types
of the program.
-/
def IsPlatformMarker (note : Annotation) : Prop :=
  Platform.annotationNamespace.toList <+: note.annotationType.toList
    ∧ note.annotationType ≠ Platform.signature
    ∧ note.annotationType ≠ Platform.throws
    ∧ note.annotationType ≠ Platform.permittedSubclasses

/-- The test for opaque markers decides whether an annotation is a platform marker. -/
theorem isOpaqueMarker_iff {note : Annotation} :
    note.isOpaqueMarker = true ↔ note.IsPlatformMarker := by
  simp [isOpaqueMarker, IsPlatformMarker, List.isPrefixOf_iff_prefix, and_comm, and_assoc]

/-- An annotation that is no platform marker mentions its type and what its elements name. -/
def Mentions (note : Annotation) (descriptor : TypeDescriptor) : Prop :=
  ¬ note.IsPlatformMarker
    ∧ (descriptor = note.annotationType ∨ ∃ element ∈ note.elements, element.2.Names descriptor)

/-- The listed types of an annotation are those that it mentions. -/
theorem mem_mentions_iff {note : Annotation} {descriptor : TypeDescriptor} :
    descriptor ∈ note.mentions ↔ note.Mentions descriptor := by
  rw [mentions, Mentions, ← isOpaqueMarker_iff]
  cases opaqueMarker : note.isOpaqueMarker with
  | true => simp
  | false => simp [EncodedValue.mem_mentionsOfElements_iff]

end Annotation

/-- Annotations mention exactly the types that one of them mentions. -/
theorem Annotations.mem_mentions_iff
    {annotations : Annotations}
    {descriptor : TypeDescriptor} :
    descriptor ∈ annotations.mentions ↔ ∃ note ∈ annotations, note.Mentions descriptor := by
  simp [Annotations.mentions, Annotation.mem_mentions_iff]

namespace ClassRecord

/-- What a class mentions outside of its members. -/
inductive HierarchyMentions (record : ClassRecord) : TypeDescriptor → Prop where
  | superclass {descriptor : TypeDescriptor} :
      record.superclass = some descriptor →
      HierarchyMentions record descriptor
  | interface {descriptor : TypeDescriptor} :
      descriptor ∈ record.interfaces →
      HierarchyMentions record descriptor
  | inNotes {descriptor : TypeDescriptor} {note : Annotation} :
      note ∈ record.annotations →
      note.Mentions descriptor →
      HierarchyMentions record descriptor

/-- What an accessible class mentions: its hierarchy and its accessible members. -/
inductive SurfaceMentions (record : ClassRecord) : TypeDescriptor → Prop where
  | hierarchy {descriptor : TypeDescriptor} :
      record.HierarchyMentions descriptor →
      SurfaceMentions record descriptor
  | fieldType {field : FieldRecord} :
      field ∈ record.fields →
      field.flags.isAccessible = true →
      SurfaceMentions record field.fieldType
  | fieldNotes {descriptor : TypeDescriptor} {field : FieldRecord} {note : Annotation} :
      field ∈ record.fields →
      field.flags.isAccessible = true →
      note ∈ field.annotations →
      note.Mentions descriptor →
      SurfaceMentions record descriptor
  | returnType {method : MethodRecord} :
      method ∈ record.methods →
      method.flags.isAccessible = true →
      SurfaceMentions record method.returnType
  | methodNotes {descriptor : TypeDescriptor} {method : MethodRecord} {note : Annotation} :
      method ∈ record.methods →
      method.flags.isAccessible = true →
      note ∈ method.annotations →
      note.Mentions descriptor →
      SurfaceMentions record descriptor
  | parameterType {method : MethodRecord} {parameter : Parameter} :
      method ∈ record.methods →
      method.flags.isAccessible = true →
      parameter ∈ method.parameters →
      SurfaceMentions record parameter.parameterType
  | parameterNotes
      {descriptor : TypeDescriptor}
      {method : MethodRecord}
      {parameter : Parameter}
      {note : Annotation} :
      method ∈ record.methods →
      method.flags.isAccessible = true →
      parameter ∈ method.parameters →
      note ∈ parameter.annotations →
      note.Mentions descriptor →
      SurfaceMentions record descriptor

/-- The listed types of a class outside of its members are those that it mentions there. -/
theorem mem_hierarchyMentions_iff {record : ClassRecord} {descriptor : TypeDescriptor} :
    descriptor ∈ record.hierarchyMentions ↔ record.HierarchyMentions descriptor := by
  simp only [hierarchyMentions, List.mem_append, Option.mem_toList,
    Annotations.mem_mentions_iff]
  constructor
  · rintro ((isSuperclass | ⟨note, member, mentioned⟩) | isInterface)
    · exact .superclass isSuperclass
    · exact .inNotes member mentioned
    · exact .interface isInterface
  · intro mentioned
    cases mentioned with
    | superclass isSuperclass => exact Or.inl (Or.inl isSuperclass)
    | interface isInterface => exact Or.inr isInterface
    | inNotes member mentioned => exact Or.inl (Or.inr ⟨_, member, mentioned⟩)

/-- The direct supertypes of a class are among its mentions. -/
theorem mem_hierarchyMentions_of_supertype
    {record : ClassRecord}
    {typeName : TypeDescriptor}
    (supertype : typeName ∈ record.supertypes) :
    typeName ∈ record.hierarchyMentions := by
  rcases List.mem_append.mp supertype with isSuperclass | isInterface
  · exact List.mem_append_left _ (List.mem_append_left _ isSuperclass)
  · exact List.mem_append_right _ isInterface

/-- The accessible fields are the fields of the class with an accessible flag. -/
theorem mem_accessibleFields_iff {record : ClassRecord} {field : FieldRecord} :
    field ∈ record.accessibleFields
      ↔ field ∈ record.fields ∧ field.flags.isAccessible = true := by
  simp [accessibleFields]

/-- The accessible methods are the methods of the class with an accessible flag. -/
theorem mem_accessibleMethods_iff {record : ClassRecord} {method : MethodRecord} :
    method ∈ record.accessibleMethods
      ↔ method ∈ record.methods ∧ method.flags.isAccessible = true := by
  simp [accessibleMethods]

/-- What an accessible field mentions, its class mentions on its surface. -/
theorem surfaceMentions_of_mem_field
    {record : ClassRecord}
    {field : FieldRecord}
    {descriptor : TypeDescriptor}
    (member : field ∈ record.accessibleFields)
    (listed : descriptor ∈ field.mentions) :
    record.SurfaceMentions descriptor := by
  obtain ⟨inFields, accessible⟩ := mem_accessibleFields_iff.mp member
  rcases List.mem_cons.mp listed with isType | inAnnotations
  · subst isType
    exact .fieldType inFields accessible
  · obtain ⟨note, noteMember, mentioned⟩ := Annotations.mem_mentions_iff.mp inAnnotations
    exact .fieldNotes inFields accessible noteMember mentioned

/-- What an accessible method mentions, its class mentions on its surface. -/
theorem surfaceMentions_of_mem_method
    {record : ClassRecord}
    {method : MethodRecord}
    {descriptor : TypeDescriptor}
    (member : method ∈ record.accessibleMethods)
    (listed : descriptor ∈ method.mentions) :
    record.SurfaceMentions descriptor := by
  obtain ⟨inMethods, accessible⟩ := mem_accessibleMethods_iff.mp member
  rcases List.mem_cons.mp listed with isReturn | inRest
  · subst isReturn
    exact .returnType inMethods accessible
  · rcases List.mem_append.mp inRest with inParameters | inAnnotations
    · obtain ⟨parameter, parameterMember, inParameter⟩ := List.mem_flatMap.mp inParameters
      rcases List.mem_cons.mp inParameter with isType | inNotes
      · subst isType
        exact .parameterType inMethods accessible parameterMember
      · obtain ⟨note, noteMember, mentioned⟩ := Annotations.mem_mentions_iff.mp inNotes
        exact .parameterNotes inMethods accessible parameterMember noteMember mentioned
    · obtain ⟨note, noteMember, mentioned⟩ := Annotations.mem_mentions_iff.mp inAnnotations
      exact .methodNotes inMethods accessible noteMember mentioned

/-- What an accessible field mentions is listed for the surface of its class. -/
theorem mem_surfaceMentions_of_field
    {record : ClassRecord}
    {field : FieldRecord}
    {descriptor : TypeDescriptor}
    (inFields : field ∈ record.fields)
    (accessible : field.flags.isAccessible = true)
    (listed : descriptor ∈ field.mentions) :
    descriptor ∈ record.surfaceMentions := by
  have member := mem_accessibleFields_iff.mpr ⟨inFields, accessible⟩
  apply List.mem_append_left
  apply List.mem_append_right
  exact List.mem_flatMap.mpr ⟨field, member, listed⟩

/-- What an accessible method mentions is listed for the surface of its class. -/
theorem mem_surfaceMentions_of_method
    {record : ClassRecord}
    {method : MethodRecord}
    {descriptor : TypeDescriptor}
    (inMethods : method ∈ record.methods)
    (accessible : method.flags.isAccessible = true)
    (listed : descriptor ∈ method.mentions) :
    descriptor ∈ record.surfaceMentions := by
  have member := mem_accessibleMethods_iff.mpr ⟨inMethods, accessible⟩
  apply List.mem_append_right
  exact List.mem_flatMap.mpr ⟨method, member, listed⟩

/-- The listed types of an accessible class are those that it mentions. -/
theorem mem_surfaceMentions_iff {record : ClassRecord} {descriptor : TypeDescriptor} :
    descriptor ∈ record.surfaceMentions ↔ record.SurfaceMentions descriptor := by
  constructor
  · intro listed
    rcases List.mem_append.mp listed with beforeMethods | inMethods
    · rcases List.mem_append.mp beforeMethods with inHierarchy | inFields
      · exact .hierarchy (mem_hierarchyMentions_iff.mp inHierarchy)
      · obtain ⟨field, member, inField⟩ := List.mem_flatMap.mp inFields
        exact surfaceMentions_of_mem_field member inField
    · obtain ⟨method, member, inMethod⟩ := List.mem_flatMap.mp inMethods
      exact surfaceMentions_of_mem_method member inMethod
  · intro mentioned
    cases mentioned with
    | hierarchy mentioned =>
        apply List.mem_append_left
        apply List.mem_append_left
        exact mem_hierarchyMentions_iff.mpr mentioned
    | fieldType inFields accessible =>
        exact mem_surfaceMentions_of_field inFields accessible List.mem_cons_self
    | fieldNotes inFields accessible noteMember mentioned =>
        apply mem_surfaceMentions_of_field inFields accessible
        apply List.mem_cons_of_mem
        exact Annotations.mem_mentions_iff.mpr ⟨_, noteMember, mentioned⟩
    | returnType inMethods accessible =>
        exact mem_surfaceMentions_of_method inMethods accessible List.mem_cons_self
    | methodNotes inMethods accessible noteMember mentioned =>
        apply mem_surfaceMentions_of_method inMethods accessible
        apply List.mem_cons_of_mem
        apply List.mem_append_right
        exact Annotations.mem_mentions_iff.mpr ⟨_, noteMember, mentioned⟩
    | parameterType inMethods accessible parameterMember =>
        apply mem_surfaceMentions_of_method inMethods accessible
        apply List.mem_cons_of_mem
        apply List.mem_append_left
        exact List.mem_flatMap.mpr ⟨_, parameterMember, List.mem_cons_self⟩
    | parameterNotes inMethods accessible parameterMember noteMember mentioned =>
        apply mem_surfaceMentions_of_method inMethods accessible
        apply List.mem_cons_of_mem
        apply List.mem_append_left
        refine List.mem_flatMap.mpr ⟨_, parameterMember, ?_⟩
        apply List.mem_cons_of_mem
        exact Annotations.mem_mentions_iff.mpr ⟨_, noteMember, mentioned⟩

end ClassRecord

end DexSurface
