import DexSurface.Proofs.GivenValues
import DexSurface.Proofs.Output.Emission
import DexSurface.Proofs.Reference.MentionRelation

namespace DexSurface

/-!
# Types that emitted annotations name

The annotations of stubs and skeletons are translations of annotations of their classes.  A
translated annotation names no type that its source does not name, at any depth, and it is a
platform marker exactly when its source is one.
-/

namespace ClassFile

/-- A value of a class file names a type itself or through a value that it holds. -/
inductive ElementValue.Names : ElementValue → TypeDescriptor → Prop where
  | literal {descriptor : TypeDescriptor} :
      Names (.classLiteral descriptor) descriptor
  | enumType {descriptor : TypeDescriptor} {name : String} :
      Names (.enum descriptor name) descriptor
  | annotationType {descriptor : TypeDescriptor} {values : List (String × ElementValue)} :
      Names (.nested descriptor values) descriptor
  | element
      {annotationType descriptor : TypeDescriptor}
      {values : List (String × ElementValue)}
      {element : String × ElementValue} :
      element ∈ values →
      Names element.2 descriptor →
      Names (.nested annotationType values) descriptor
  | member
      {descriptor : TypeDescriptor}
      {values : List ElementValue}
      {value : ElementValue} :
      value ∈ values →
      Names value descriptor →
      Names (.array values) descriptor

namespace AnnotationTree

/-- An annotation of the platform's own namespace, apart from those whose values name types. -/
def IsPlatformMarker (note : AnnotationTree) : Prop :=
  Platform.annotationNamespace.toList <+: note.descriptor.toList
    ∧ note.descriptor ≠ Platform.signature
    ∧ note.descriptor ≠ Platform.throws
    ∧ note.descriptor ≠ Platform.permittedSubclasses

/-- An annotation that is no platform marker mentions its type and what its values name. -/
def Mentions (note : AnnotationTree) (descriptor : TypeDescriptor) : Prop :=
  ¬ note.IsPlatformMarker
    ∧ (descriptor = note.descriptor ∨ ∃ element ∈ note.values, element.2.Names descriptor)

end AnnotationTree

/-- Some annotation of an element mentions a type. -/
def AnnotationSet.Mentions (annotations : AnnotationSet) (descriptor : TypeDescriptor) : Prop :=
  ∃ note ∈ annotations.visible ++ annotations.invisible, note.Mentions descriptor

end ClassFile

namespace Stub

open ClassFile (AnnotationTree AnnotationSet ParameterTable MethodTree)

/-! A translated value names no other types. -/

mutual

/-- A type that a translated value names was named by the value. -/
theorem names_of_elementValue {descriptor : TypeDescriptor} :
    ∀ {value : EncodedValue} {translated : ClassFile.ElementValue},
      elementValue value = .ok translated →
      translated.Names descriptor →
      value.Names descriptor
  | .type literal, _, given, named => by
      obtain rfl := Except.ok.inj given
      cases named
      exact .literal
  | .enum constant, _, given, named => by
      obtain rfl := Except.ok.inj given
      cases named
      exact .enumClass
  | .field reference, _, given, named => by
      obtain rfl := Except.ok.inj given
      cases named
      exact .fieldClass
  | .method reference, _, given, named => by
      obtain rfl := Except.ok.inj given
      cases named
      exact .methodClass
  | .nested annotationType elements, _, given, named => by
      rw [elementValue] at given
      obtain ⟨values, valuesGiven, same⟩ := isGiving_except.of_bind given
      obtain rfl := Except.ok.inj same
      cases named with
      | annotationType => exact .annotationType
      | element member named =>
          obtain ⟨source, inSource, sourceNames⟩ := names_of_namedValues valuesGiven member named
          exact .element inSource sourceNames
  | .array values, _, given, named => by
      rw [elementValue] at given
      obtain ⟨translations, translationsGiven, same⟩ := isGiving_except.of_bind given
      obtain rfl := Except.ok.inj same
      cases named with
      | member member named =>
          obtain ⟨source, inSource, sourceNames⟩ :=
            names_of_elementValues translationsGiven member named
          exact .member inSource sourceNames
  | .boolean _, _, given, named | .byte _, _, given, named | .short _, _, given, named
  | .char _, _, given, named | .int _, _, given, named | .long _, _, given, named
  | .float _, _, given, named | .double _, _, given, named | .string _, _, given, named => by
      obtain rfl := Except.ok.inj given
      cases named

/-- A type that one of the translated values names was named by one of the values. -/
theorem names_of_elementValues {descriptor : TypeDescriptor} :
    ∀ {values : List EncodedValue} {translations : List ClassFile.ElementValue},
      elementValues values = .ok translations →
      ∀ {translated : ClassFile.ElementValue},
        translated ∈ translations →
        translated.Names descriptor →
        ∃ value ∈ values, value.Names descriptor
  | [], _, given, _, member, _ => by
      obtain rfl := Except.ok.inj given
      cases member
  | first :: rest, _, given, translated, member, named => by
      rw [elementValues] at given
      obtain ⟨firstTranslated, firstGiven, restGiven⟩ := isGiving_except.of_bind given
      obtain ⟨translations, translationsGiven, same⟩ := isGiving_except.of_bind restGiven
      obtain rfl := Except.ok.inj same
      rcases List.mem_cons.mp member with isFirst | inRest
      · subst isFirst
        exact ⟨first, List.mem_cons_self, names_of_elementValue firstGiven named⟩
      · obtain ⟨value, inValues, valueNames⟩ :=
          names_of_elementValues translationsGiven inRest named
        exact ⟨value, List.mem_cons_of_mem _ inValues, valueNames⟩

/-- A type that one of the translated elements names was named by one of the elements. -/
theorem names_of_namedValues {descriptor : TypeDescriptor} :
    ∀ {elements : List (String × EncodedValue)}
      {translations : List (String × ClassFile.ElementValue)},
      namedValues elements = .ok translations →
      ∀ {translated : String × ClassFile.ElementValue},
        translated ∈ translations →
        translated.2.Names descriptor →
        ∃ element ∈ elements, element.2.Names descriptor
  | [], _, given, _, member, _ => by
      obtain rfl := Except.ok.inj given
      cases member
  | (name, first) :: rest, _, given, translated, member, named => by
      rw [namedValues] at given
      obtain ⟨firstTranslated, firstGiven, restGiven⟩ := isGiving_except.of_bind given
      obtain ⟨translations, translationsGiven, same⟩ := isGiving_except.of_bind restGiven
      obtain rfl := Except.ok.inj same
      rcases List.mem_cons.mp member with isFirst | inRest
      · subst isFirst
        exact ⟨(name, first), List.mem_cons_self, names_of_elementValue firstGiven named⟩
      · obtain ⟨element, inElements, elementNames⟩ :=
          names_of_namedValues translationsGiven inRest named
        exact ⟨element, List.mem_cons_of_mem _ inElements, elementNames⟩

end

/-! Translated annotations. -/

/-- A type that a translated annotation mentions was mentioned by the annotation. -/
theorem mentions_of_annotationTree
    {note : Annotation}
    {translated : AnnotationTree}
    {descriptor : TypeDescriptor}
    (given : annotationTree note = .ok translated)
    (mentioned : translated.Mentions descriptor) :
    note.Mentions descriptor := by
  obtain ⟨values, valuesGiven, same⟩ := isGiving_except.of_bind given
  obtain rfl := Except.ok.inj same
  obtain ⟨noMarker, isType | ⟨element, member, named⟩⟩ := mentioned
  · exact ⟨noMarker, Or.inl isType⟩
  · exact ⟨noMarker, Or.inr (names_of_namedValues valuesGiven member named)⟩

/-- Adding an annotation to one side adds it to the annotations of both sides together. -/
theorem mem_add_iff
    {annotations : AnnotationSet}
    {note other : AnnotationTree}
    {visible : Bool} :
    other ∈ (annotations.add note visible).visible ++ (annotations.add note visible).invisible
      ↔ other ∈ annotations.visible ++ annotations.invisible ∨ other = note := by
  cases visible <;> simp [AnnotationSet.add, or_comm, or_left_comm]

/-- What is mentioned after an annotation was added was mentioned before or by the annotation. -/
theorem mentions_add
    {annotations : AnnotationSet}
    {note : Annotation}
    {translated : AnnotationTree}
    {visible : Bool}
    {descriptor : TypeDescriptor}
    (given : annotationTree note = .ok translated)
    (mentioned : (annotations.add translated visible).Mentions descriptor) :
    annotations.Mentions descriptor ∨ note.Mentions descriptor := by
  obtain ⟨other, member, otherMentions⟩ := mentioned
  rcases mem_add_iff.mp member with inBefore | isNew
  · exact Or.inl ⟨other, inBefore, otherMentions⟩
  · subst isNew
    exact Or.inr (mentions_of_annotationTree given otherMentions)

/-- No annotations mention no type. -/
theorem not_mentions_empty (descriptor : TypeDescriptor) :
    ¬ AnnotationSet.empty.Mentions descriptor := by
  rintro ⟨note, ⟨⟩, _⟩

/-- Emitted annotations mention nothing that the annotations of the source do not mention. -/
theorem mentions_of_annotationSet
    {reserved : List TypeDescriptor}
    {annotations : Annotations}
    {set : AnnotationSet}
    (given : annotationSet reserved annotations = .ok set) :
    ∀ descriptor, set.Mentions descriptor → ∃ note ∈ annotations, note.Mentions descriptor := by
  refine isGiving_except.foldlM_induction
    (motive := fun set =>
      ∀ descriptor, set.Mentions descriptor → ∃ note ∈ annotations, note.Mentions descriptor)
    given ?_ ?_
  · intro descriptor mentioned
    exact (not_mentions_empty descriptor mentioned).elim
  · intro before after note member fromSource stepGiven descriptor mentioned
    obtain ⟨translated, translatedGiven, same⟩ := isGiving_except.of_bind stepGiven
    obtain rfl := Except.ok.inj same
    rcases mentions_add translatedGiven mentioned with inBefore | inNote
    · exact fromSource descriptor inBefore
    · exact ⟨note, (List.mem_filter.mp member).1, inNote⟩

/-! Parameter tables and recovered parameters. -/

/-- An item of a list in which one was changed is an old item or the changed one. -/
theorem mem_modify
    {change : α → α}
    {changed : α} :
    ∀ {items : List α} {index : Nat},
      changed ∈ items.modify index change → changed ∈ items ∨ ∃ item ∈ items, changed = change item
  | [], _, member => by simp at member
  | first :: rest, index, member => by
      cases index with
      | zero =>
          rw [List.modify_zero_cons] at member
          rcases List.mem_cons.mp member with isFirst | inRest
          · exact Or.inr ⟨first, List.mem_cons_self, isFirst⟩
          · exact Or.inl (List.mem_cons_of_mem _ inRest)
      | succ index =>
          rw [List.modify_succ_cons] at member
          rcases List.mem_cons.mp member with isFirst | inRest
          · exact Or.inl (isFirst ▸ List.mem_cons_self)
          · rcases mem_modify inRest with unchanged | ⟨item, inItems, same⟩
            · exact Or.inl (List.mem_cons_of_mem _ unchanged)
            · exact Or.inr ⟨item, List.mem_cons_of_mem _ inItems, same⟩

/-- Adding an annotation to a row brings no other annotation into a table. -/
theorem exists_row_of_mem_add
    {table : ParameterTable}
    {index count : Nat}
    {note other : AnnotationTree}
    {row : List AnnotationTree}
    (inTable : row ∈ table.add index count note)
    (inRow : other ∈ row) :
    (∃ oldRow ∈ table, other ∈ oldRow) ∨ other = note := by
  have old {oldRow : List AnnotationTree}
      (member : oldRow ∈ table ++ List.replicate (max count (index + 1) - table.length) [])
      (inOldRow : other ∈ oldRow) : ∃ oldRow ∈ table, other ∈ oldRow := by
    rcases List.mem_append.mp member with inOld | isNew
    · exact ⟨oldRow, inOld, inOldRow⟩
    · rw [List.eq_of_mem_replicate isNew] at inOldRow
      cases inOldRow
  rcases mem_modify inTable with unchanged | ⟨oldRow, member, rfl⟩
  · exact Or.inl (old unchanged inRow)
  · rcases List.mem_append.mp inRow with inOldRow | isNote
    · exact Or.inl (old member inOldRow)
    · exact Or.inr (List.mem_singleton.mp isNote)

/-- A parameter with its distance is one of the parameters. -/
theorem mem_of_mem_withDistance {entry : Parameter × Nat} :
    ∀ {parameters : List Parameter}, entry ∈ withDistance parameters → entry.1 ∈ parameters
  | [], member => by cases member
  | first :: rest, member => by
      rcases List.mem_cons.mp member with isFirst | inRest
      · subst isFirst
        exact List.mem_cons_self
      · exact List.mem_cons_of_mem _ (mem_of_mem_withDistance inRest)

/-- Naming a parameter keeps its annotations. -/
theorem annotations_of_nameFrom?
    {registerCount : UInt16}
    {group : List LocalStart}
    {entry : Parameter × Nat}
    {named : Parameter}
    (given : nameFrom? registerCount group entry = some named) :
    named.annotations = entry.1.annotations := by
  rw [nameFrom?] at given
  split at given
  · rw [← Option.some.inj given]
  · obtain ⟨start, -, rfl⟩ := Option.map_eq_some_iff.mp given
    rfl

/-- A parameter with a recovered name keeps its annotations. -/
theorem exists_of_mem_recoverNames
    {body : MethodBody}
    {parameters : List Parameter}
    {parameter : Parameter}
    (member : parameter ∈ recoverNames body parameters) :
    ∃ source ∈ parameters, parameter.annotations = source.annotations := by
  rw [recoverNames] at member
  cases recovered :
      (startAddresses body.locals).findSome? fun address =>
        (withDistance parameters).mapM
          (nameFrom? body.registerCount (body.locals.filter fun start => start.address = address))
  with
  | none =>
      rw [recovered] at member
      exact ⟨parameter, member, rfl⟩
  | some named =>
      rw [recovered] at member
      obtain ⟨address, -, allNamed⟩ := List.exists_of_findSome?_eq_some recovered
      obtain ⟨entry, inEntries, given⟩ :=
        isGiving_option.exists_mem_of_mapM allNamed parameter member
      exact ⟨entry.1, mem_of_mem_withDistance inEntries, annotations_of_nameFrom? given⟩

/-- A placed parameter is one of the parameters. -/
theorem mem_of_mem_place {placed : PlacedParameter} :
    ∀ {parameters : List Parameter} {slot : Nat},
      placed ∈ place slot parameters → placed.parameter ∈ parameters
  | [], _, member => by cases member
  | first :: rest, slot, member => by
      rcases List.mem_cons.mp member with isFirst | inRest
      · subst isFirst
        exact List.mem_cons_self
      · exact List.mem_cons_of_mem _ (mem_of_mem_place inRest)

/-- A placed parameter has the annotations of a parameter of the method. -/
theorem exists_of_mem_placedParameters
    {method : MethodRecord}
    {placed : PlacedParameter}
    (member : placed ∈ placedParameters method) :
    ∃ source ∈ method.parameters, placed.parameter.annotations = source.annotations := by
  have inParameters := mem_of_mem_place member
  split at inParameters
  · split at inParameters
    · exact ⟨_, inParameters, rfl⟩
    · exact exists_of_mem_recoverNames inParameters
  · exact ⟨_, inParameters, rfl⟩

end Stub

end DexSurface
