import DexSurface.Proofs.Reference.LeastClosure
import DexSurface.Proofs.Surface.CarriedTypes

namespace DexSurface

/-!
# What emitted classes name is emitted

Stubs and skeletons take the types that they name over from their classes.  The closure follows all
of these types, so a type that an emitted class names and that resolves to an inaccessible class of
the map names a referenced class.
-/

/-- A metadata annotation of a kind lists a type. -/
def Annotations.Lists (annotations : Annotations) (kind type : TypeDescriptor) : Prop :=
  ∃ note ∈ annotations,
    note.annotationType = kind
      ∧ ∃ values, note.singleValue = .ok (.array values) ∧ .type type ∈ values

namespace Stub

open ClassFile (AnnotationTree AnnotationSet FieldTree MethodTree ClassTree)

namespace Surroundings

/-- A type that resolves to an inaccessible class of the map names a referenced class. -/
def Covers (surroundings : Surroundings) (type : TypeDescriptor) : Prop :=
  surroundings.referenced.Settles surroundings.classes type

/-- A name is the internal name of a covered type of the source. -/
def CoversName
    (surroundings : Surroundings)
    (isSource : TypeDescriptor → Prop)
    (name : InternalName) : Prop :=
  ∃ type, isSource type ∧ Descriptor.internalName type = name ∧ surroundings.Covers type

/--
The annotations of a member, apart from the restriction that is added to them, mention covered types
only.
-/
def CoversNotes
    (surroundings : Surroundings)
    (categories : HiddenApi.Categories)
    (annotations : AnnotationSet) : Prop :=
  ∃ kept,
    annotations = surroundings.addRestriction categories kept
      ∧ ∀ type, kept.Mentions type → surroundings.Covers type

/-- The types that an emitted field names are covered. -/
structure CoversField
    (surroundings : Surroundings)
    (source : FieldRecord)
    (tree : FieldTree) : Prop where
  descriptor : tree.descriptor = source.fieldType ∧ surroundings.Covers source.fieldType
  annotations : surroundings.CoversNotes source.hiddenApi tree.annotations

/-- The types that an emitted method names are covered. -/
structure CoversMethod
    (surroundings : Surroundings)
    (source : MethodRecord)
    (tree : MethodTree) : Prop where
  descriptor : tree.descriptor = Descriptor.ofMethod source.parameterTypes source.returnType
  returnType : surroundings.Covers source.returnType
  parameterTypes : ∀ type ∈ source.parameterTypes, surroundings.Covers type
  exceptions :
    ∀ name ∈ tree.exceptions,
      surroundings.CoversName (source.annotations.Lists Platform.throws) name
  annotations : surroundings.CoversNotes source.hiddenApi tree.annotations
  parameterAnnotations :
    ∀ row ∈ tree.visibleParameters ++ tree.invisibleParameters, ∀ note ∈ row,
      ∀ type, note.Mentions type → surroundings.Covers type

/-- The types that an emitted class names are covered. -/
structure CoversClass
    (surroundings : Surroundings)
    (record : ClassRecord)
    (tree : ClassTree) : Prop where
  superclass :
    ∀ name ∈ tree.superclass, surroundings.CoversName (record.superclass = some ·) name
  interfaces :
    ∀ name ∈ tree.interfaces, surroundings.CoversName (· ∈ record.interfaces) name
  permittedSubclasses :
    ∀ name ∈ tree.permittedSubclasses,
      surroundings.CoversName (record.annotations.Lists Platform.permittedSubclasses) name
  annotations : ∀ type, tree.annotations.Mentions type → surroundings.Covers type
  fields :
    ∀ field ∈ tree.fields,
      ∃ source ∈ record.fields, source.name = field.name ∧ surroundings.CoversField source field
  methods :
    ∀ method ∈ tree.methods,
      method ∈ addedMethods surroundings.configuration
        ∨ ∃ source ∈ record.methods,
            source.name = method.name ∧ surroundings.CoversMethod source method

end Surroundings

/-- A class tree that is emitted for a class of the map. -/
def IsEmittedFor (surroundings : Surroundings) (record : ClassRecord) (tree : ClassTree) : Prop :=
  (record ∈ surroundings.classes.records ∧ CanGive (emitClass? surroundings record) (some tree))
    ∨ (surroundings.referenced.Holds record ∧ skeleton? record = .ok (some tree))

variable {surroundings : Surroundings} {record : ClassRecord}

/-! Types that metadata lists. -/

/-- Only a type is taken as a type. -/
theorem asType_eq_ok_iff {value : EncodedValue} {type : TypeDescriptor} :
    value.asType = .ok type ↔ value = .type type := by
  cases value <;> simp [EncodedValue.asType]

/-- Only an array is taken as an array. -/
theorem asArray_eq_ok_iff {value : EncodedValue} {values : List EncodedValue} :
    value.asArray = .ok values ↔ value = .array values := by
  cases value <;> simp [EncodedValue.asArray]

/-- The permitted subclasses of a class are names of types that its annotation lists. -/
theorem lists_of_permittedSubclasses
    {annotations : Annotations}
    {note : Annotation}
    {names : List InternalName}
    (member : note ∈ annotations)
    (given : permittedSubclasses note = .ok names) :
    ∀ name ∈ names,
      ∃ type, annotations.Lists note.annotationType type ∧ Descriptor.internalName type = name := by
  obtain ⟨value, valueGiven, rest⟩ := isGiving_except.of_bind given
  obtain ⟨values, valuesGiven, namesGiven⟩ := isGiving_except.of_bind rest
  obtain rfl := asArray_eq_ok_iff.mp valuesGiven
  intro name isListed
  obtain ⟨item, inValues, nameGiven⟩ := isGiving_except.exists_mem_of_mapM namesGiven name isListed
  obtain ⟨type, typeGiven, same⟩ := isGiving_except.of_bind nameGiven
  obtain rfl := asType_eq_ok_iff.mp typeGiven
  exact ⟨type, ⟨note, member, rfl, values, valueGiven, inValues⟩, Except.ok.inj same⟩

/-- Checked exceptions are listed as permitted subclasses are, under another annotation type. -/
theorem lists_of_thrownExceptions
    {annotations : Annotations}
    {names : List InternalName}
    (given : annotations.thrownExceptions = .ok names) :
    ∀ name ∈ names,
      ∃ type, annotations.Lists Platform.throws type ∧ Descriptor.internalName type = name := by
  rw [Annotations.thrownExceptions] at given
  split at given
  · obtain rfl := Except.ok.inj given
    simp
  · next note found =>
      have sameType : note.annotationType = Platform.throws := by
        simpa using List.find?_some found
      rw [← sameType]
      exact lists_of_permittedSubclasses (List.mem_of_find?_eq_some found) given

/-- The types that a followed kind of metadata lists are mentioned. -/
theorem mentions_of_lists
    {annotations : Annotations}
    {kind type : TypeDescriptor}
    (followed : kind = Platform.throws ∨ kind = Platform.permittedSubclasses)
    (listed : annotations.Lists kind type) :
    ∃ note ∈ annotations, note.Mentions type := by
  obtain ⟨note, member, rfl, values, valueGiven, inValues⟩ := listed
  refine ⟨note, member, ?_, Or.inr ?_⟩
  · rintro ⟨-, -, noThrows, noPermitted⟩
    exact followed.elim noThrows noPermitted
  · unfold Annotation.singleValue at valueGiven
    split at valueGiven
    · next name value single =>
        split at valueGiven
        · obtain rfl := Except.ok.inj valueGiven
          exact ⟨_, by rw [single]; exact List.mem_singleton_self _, .member inValues .literal⟩
        · cases valueGiven
    · cases valueGiven

/-! Members. -/

/-- Emitted annotations mention covered types only, if those of the source do. -/
theorem coversNotes_of_annotationSet
    {reserved : List TypeDescriptor}
    {annotations : Annotations}
    {set : AnnotationSet}
    {categories : HiddenApi.Categories}
    (given : annotationSet reserved annotations = .ok set)
    (covered : ∀ note ∈ annotations, ∀ type, note.Mentions type → surroundings.Covers type) :
    surroundings.CoversNotes categories (surroundings.addRestriction categories set) := by
  refine ⟨set, rfl, fun type mentioned => ?_⟩
  obtain ⟨note, member, noteMentions⟩ := mentions_of_annotationSet given type mentioned
  exact covered note member type noteMentions

/-- An emitted field names covered types only, if the field of the source does. -/
theorem coversField_of_emitField
    {source : FieldRecord}
    {tree : FieldTree}
    (given : CanGive (emitField surroundings source) tree)
    (typeCovered : surroundings.Covers source.fieldType)
    (notesCovered :
      ∀ note ∈ source.annotations, ∀ type, note.Mentions type → surroundings.Covers type) :
    source.name = tree.name ∧ surroundings.CoversField source tree := by
  obtain ⟨emitted, emittedGiven, rest⟩ := isGiving_state.of_bind given
  obtain ⟨_, -, same⟩ := isGiving_state.of_bind rest
  obtain rfl := isGiving_state.of_pure same
  obtain ⟨signature, -, rest⟩ := isGiving_except.of_bind (canGive_lift emittedGiven)
  obtain ⟨value, -, rest⟩ := isGiving_except.of_bind rest
  obtain ⟨annotations, annotationsGiven, same⟩ := isGiving_except.of_bind rest
  obtain rfl := Except.ok.inj same
  exact ⟨rfl, ⟨rfl, typeCovered⟩, coversNotes_of_annotationSet annotationsGiven notesCovered⟩

/-- A parameter annotation goes to the row of its parameter and nowhere else. -/
theorem Surroundings.CoversMethod.annotateParameter
    {source : MethodRecord}
    {tree : MethodTree}
    {note : AnnotationTree}
    (covered : surroundings.CoversMethod source tree)
    (noteCovered : ∀ type, note.Mentions type → surroundings.Covers type)
    (index count : Nat)
    (visible : Bool) :
    surroundings.CoversMethod source (tree.annotateParameter index count note visible) := by
  have tableCovered {table : ClassFile.ParameterTable}
      (part : ∀ row ∈ table, row ∈ tree.visibleParameters ++ tree.invisibleParameters)
      {row : List AnnotationTree}
      (inTable : row ∈ table.add index count note)
      {other : AnnotationTree}
      (inRow : other ∈ row)
      {type : TypeDescriptor}
      (mentioned : other.Mentions type) : surroundings.Covers type := by
    rcases exists_row_of_mem_add inTable inRow with ⟨oldRow, inOld, inOldRow⟩ | rfl
    · exact covered.parameterAnnotations oldRow (part oldRow inOld) other inOldRow type mentioned
    · exact noteCovered type mentioned
  cases visible with
  | true =>
      refine { covered with parameterAnnotations := ?_ }
      intro row member other inRow type mentioned
      rcases List.mem_append.mp member with inVisible | inInvisible
      · exact tableCovered (fun _ => List.mem_append_left _) inVisible inRow mentioned
      · exact covered.parameterAnnotations row (List.mem_append_right _ inInvisible) other inRow
          type mentioned
  | false =>
      refine { covered with parameterAnnotations := ?_ }
      intro row member other inRow type mentioned
      rcases List.mem_append.mp member with inVisible | inInvisible
      · exact covered.parameterAnnotations row (List.mem_append_left _ inVisible) other inRow
          type mentioned
      · exact tableCovered (fun _ => List.mem_append_right _) inInvisible inRow mentioned

/-- Adding the annotations of parameters keeps the types of a method covered. -/
theorem coversMethod_of_addAllParameterAnnotations
    {source : MethodRecord}
    {count : Nat} :
    ∀ {parameters : List PlacedParameter} {position : Nat} {tree result : MethodTree},
      addAllParameterAnnotations count position parameters tree = .ok result →
      (∀ placed ∈ parameters, ∀ note ∈ placed.parameter.annotations,
        ∀ type, note.Mentions type → surroundings.Covers type) →
      surroundings.CoversMethod source tree →
      tree.name = result.name ∧ surroundings.CoversMethod source result
  | [], _, _, _, given, _, covered => by
      obtain rfl := Except.ok.inj given
      exact ⟨rfl, covered⟩
  | placed :: rest, position, tree, result, given, notesCovered, covered => by
      obtain ⟨middle, middleGiven, restGiven⟩ := isGiving_except.of_bind given
      have middleCovered : tree.name = middle.name ∧ surroundings.CoversMethod source middle := by
        refine isGiving_except.foldlM_induction
          (motive := fun middle =>
            tree.name = middle.name ∧ surroundings.CoversMethod source middle)
          middleGiven ⟨rfl, covered⟩ ?_
        rintro before after note member ⟨sameName, beforeCovered⟩ stepGiven
        obtain ⟨translated, translatedGiven, same⟩ := isGiving_except.of_bind stepGiven
        obtain rfl := Except.ok.inj same
        refine ⟨?_, beforeCovered.annotateParameter (fun type mentioned => ?_) _ _ _⟩
        · rw [sameName, MethodTree.annotateParameter]
          split <;> rfl
        · exact notesCovered placed List.mem_cons_self note (List.mem_filter.mp member).1 type
            (mentions_of_annotationTree translatedGiven mentioned)
      obtain ⟨sameName, resultCovered⟩ := coversMethod_of_addAllParameterAnnotations restGiven
        (fun other inRest => notesCovered other (List.mem_cons_of_mem _ inRest)) middleCovered.2
      exact ⟨middleCovered.1.trans sameName, resultCovered⟩

/-- The types that a method mentions are covered. -/
structure Surroundings.CoversMentions
    (surroundings : Surroundings)
    (source : MethodRecord) : Prop where
  returnType : surroundings.Covers source.returnType
  parameterTypes : ∀ parameter ∈ source.parameters, surroundings.Covers parameter.parameterType
  notes : ∀ note ∈ source.annotations, ∀ type, note.Mentions type → surroundings.Covers type
  parameterNotes :
    ∀ parameter ∈ source.parameters, ∀ note ∈ parameter.annotations,
      ∀ type, note.Mentions type → surroundings.Covers type

/-- The head of an emitted method names covered types only, if the method of the source does. -/
theorem coversMethod_of_methodHead
    {defaults : AnnotationDefaults}
    {source : MethodRecord}
    {tree : MethodTree}
    (given : methodHead surroundings defaults source = .ok tree)
    (mentions : surroundings.CoversMentions source) :
    source.name = tree.name ∧ surroundings.CoversMethod source tree := by
  obtain ⟨signature, -, rest⟩ := isGiving_except.of_bind given
  obtain ⟨exceptions, exceptionsGiven, rest⟩ := isGiving_except.of_bind rest
  obtain ⟨value, -, rest⟩ := isGiving_except.of_bind rest
  obtain ⟨annotations, annotationsGiven, same⟩ := isGiving_except.of_bind rest
  obtain rfl := Except.ok.inj same
  refine ⟨rfl, rfl, mentions.returnType, ?_, ?_,
    coversNotes_of_annotationSet annotationsGiven mentions.notes, ?_⟩
  · intro type member
    obtain ⟨parameter, inParameters, rfl⟩ := List.mem_map.mp member
    exact mentions.parameterTypes parameter inParameters
  · intro name member
    obtain ⟨type, listed, sameName⟩ :=
      lists_of_thrownExceptions (RunError.ofRecord_eq_ok_iff.mp exceptionsGiven) name member
    obtain ⟨note, inNotes, mentioned⟩ := mentions_of_lists (Or.inl rfl) listed
    exact ⟨type, listed, sameName, mentions.notes note inNotes type mentioned⟩
  · rintro row ⟨⟩

/-- An emitted method names covered types only, if the method of the source does. -/
theorem coversMethod_of_emitMethod
    {defaults : AnnotationDefaults}
    {source : MethodRecord}
    {tree : MethodTree}
    (given : CanGive (emitMethod surroundings record defaults source) tree)
    (mentions : surroundings.CoversMentions source) :
    source.name = tree.name ∧ surroundings.CoversMethod source tree := by
  obtain ⟨head, headGiven, rest⟩ := isGiving_state.of_bind given
  obtain ⟨_, -, rest⟩ := isGiving_state.of_bind rest
  obtain ⟨headName, headCovered⟩ := coversMethod_of_methodHead (canGive_lift headGiven) mentions
  obtain ⟨annotated, annotatedGiven, rest⟩ := isGiving_except.of_bind (canGive_lift rest)
  obtain ⟨sameName, covered⟩ := coversMethod_of_addAllParameterAnnotations annotatedGiven
    (by
      intro placed member note inNotes
      obtain ⟨parameter, inParameters, sameNotes⟩ := exists_of_mem_placedParameters member
      exact mentions.parameterNotes parameter inParameters note (sameNotes ▸ inNotes))
    headCovered
  split at rest
  · obtain rfl := Except.ok.inj rest
    exact ⟨headName.trans sameName, { covered with }⟩
  · obtain rfl := Except.ok.inj rest
    exact ⟨headName.trans sameName, covered⟩

/-! Classes. -/

/-- The head of an emitted class names covered types only, if the hierarchy of the source does. -/
theorem coversClass_of_classHead
    {tree : ClassTree}
    (given : classHead record = .ok tree)
    (covered : ∀ type, record.HierarchyMentions type → surroundings.Covers type) :
    surroundings.CoversClass record tree := by
  obtain ⟨signature, -, same⟩ := isGiving_except.of_bind given
  obtain rfl := Except.ok.inj same
  refine ⟨?_, ?_, ?_, ?_, ?_, ?_⟩
  · intro name member
    obtain ⟨type, isSuperclass, sameName⟩ := Option.map_eq_some_iff.mp member
    exact ⟨type, isSuperclass, sameName, covered type (.superclass isSuperclass)⟩
  · intro name member
    obtain ⟨type, isInterface, sameName⟩ := List.mem_map.mp member
    exact ⟨type, isInterface, sameName, covered type (.interface isInterface)⟩
  · rintro name ⟨⟩
  · intro type mentioned
    exact (not_mentions_empty type mentioned).elim
  · rintro field ⟨⟩
  · rintro method ⟨⟩

/--
An annotation adds only names of covered types.  Metadata that only says how the class is nested
adds none.
-/
theorem coversClass_of_addAnnotationToClass
    {tree result : ClassTree}
    {note : Annotation}
    (given : CanGive (addAnnotationToClass surroundings record tree note) result)
    (member : note ∈ record.annotations)
    (noteCovered : ∀ type, note.Mentions type → surroundings.Covers type)
    (hierarchy : ∀ type, record.HierarchyMentions type → surroundings.Covers type)
    (covered : surroundings.CoversClass record tree) :
    surroundings.CoversClass record result := by
  cases takesNote_of_addAnnotationToClass given with
  | enclosing | nested | members => exact { covered with }
  | leftOut => exact covered
  | permitted isPermitted subclassesGiven =>
      refine { covered with permittedSubclasses := ?_ }
      intro name inNames
      obtain ⟨type, listed, sameName⟩ :=
        lists_of_permittedSubclasses member subclassesGiven name inNames
      rw [isPermitted] at listed
      obtain ⟨source, inNotes, mentioned⟩ := mentions_of_lists (Or.inr rfl) listed
      exact ⟨type, listed, sameName, hierarchy type (.inNotes inNotes mentioned)⟩
  | kept _ translated =>
      refine { covered with annotations := ?_ }
      intro type mentioned
      rcases mentions_add translated mentioned with inBefore | inNote
      · exact covered.annotations type inBefore
      · exact noteCovered type inNote

/-- An emitted class names covered types only, if the surface of the source does. -/
theorem coversClass_of_emitClass
    {tree : ClassTree}
    (given : CanGive (emitClass surroundings record) tree)
    (covered : ∀ type, record.SurfaceMentions type → surroundings.Covers type) :
    surroundings.CoversClass record tree := by
  have hierarchy (type : TypeDescriptor) (mentioned : record.HierarchyMentions type) :
      surroundings.Covers type := covered type (.hierarchy mentioned)
  obtain ⟨head, headGiven, rest⟩ := isGiving_state.of_bind given
  obtain ⟨noted, notedGiven, rest⟩ := isGiving_state.of_bind rest
  obtain ⟨fields, fieldsGiven, rest⟩ := isGiving_state.of_bind rest
  obtain ⟨defaults, -, rest⟩ := isGiving_state.of_bind rest
  obtain ⟨methods, methodsGiven, same⟩ := isGiving_state.of_bind rest
  obtain rfl := isGiving_state.of_pure same
  have headCovered := coversClass_of_classHead (canGive_ofRecord headGiven) hierarchy
  have notedCovered : surroundings.CoversClass record noted := by
    refine isGiving_state.foldlM_induction notedGiven { headCovered with } ?_
    intro before after note member beforeCovered stepGiven
    exact coversClass_of_addAnnotationToClass stepGiven member
      (fun type mentioned => hierarchy type (.inNotes member mentioned)) hierarchy beforeCovered
  refine { notedCovered with fields := ?_, methods := ?_ }
  · intro field inFields
    obtain ⟨source, inSources, fieldGiven⟩ :=
      isGiving_state.exists_mem_of_mapM fieldsGiven field inFields
    obtain ⟨inRecord, accessible⟩ := ClassRecord.mem_accessibleFields_iff.mp inSources
    refine ⟨source, inRecord, ?_⟩
    refine coversField_of_emitField fieldGiven (covered _ (.fieldType inRecord accessible)) ?_
    intro note inNotes type mentioned
    exact covered type (.fieldNotes inRecord accessible inNotes mentioned)
  · intro method inMethods
    rcases List.mem_append.mp inMethods with isEmitted | isAdded
    · right
      obtain ⟨source, inSources, methodGiven⟩ :=
        isGiving_state.exists_mem_of_mapM methodsGiven method isEmitted
      obtain ⟨inRecord, emitted⟩ := List.mem_filter.mp inSources
      have accessible : source.flags.isAccessible = true := by
        simp only [Stub.isEmitted, Bool.and_eq_true] at emitted
        exact emitted.1.1.1
      refine ⟨source, inRecord, coversMethod_of_emitMethod methodGiven ⟨?_, ?_, ?_, ?_⟩⟩
      · exact covered _ (.returnType inRecord accessible)
      · exact fun parameter inParameters =>
          covered _ (.parameterType inRecord accessible inParameters)
      · exact fun note inNotes type mentioned =>
          covered type (.methodNotes inRecord accessible inNotes mentioned)
      · exact fun parameter inParameters note inNotes type mentioned =>
          covered type (.parameterNotes inRecord accessible inParameters inNotes mentioned)
    · exact Or.inl isAdded

/--
Whatever an emitted class names and resolves to an inaccessible class of the map names a referenced
class: a stub names what the surface of its class mentions, a skeleton what its class mentions
outside of its members.
-/
theorem coversClass_of_isEmittedFor
    {classes : ClassMap}
    {configuration : Configuration}
    {tree : ClassTree}
    (keyed : classes.IsKeyedByName)
    (emitted : IsEmittedFor ⟨classes, classes.referenced, configuration⟩ record tree) :
    Surroundings.CoversClass ⟨classes, classes.referenced, configuration⟩ record tree := by
  have closed := ClassMap.isClosed_referenced keyed
  rcases emitted with ⟨inMap, given⟩ | ⟨held, given⟩
  · rw [emitClass?] at given
    split at given
    · cases isGiving_state.of_pure given
    · next accessible =>
        have isAccessible : record.flags.isAccessible = true := by
          rw [AccessFlags.isAccessible, Bool.eq_false_iff.mpr accessible, Bool.not_false]
        obtain ⟨isHidden, -, rest⟩ := isGiving_state.of_bind given
        split at rest
        · cases isGiving_state.of_pure rest
        · rw [map_eq_pure_bind] at rest
          obtain ⟨emittedTree, treeGiven, same⟩ := isGiving_state.of_bind rest
          obtain rfl := Option.some.inj (isGiving_state.of_pure same)
          exact coversClass_of_emitClass treeGiven fun type mentioned =>
            closed.surface record inMap isAccessible type mentioned
  · obtain ⟨isHidden, -, rest⟩ := isGiving_except.of_bind given
    split at rest
    · cases rest
    · obtain ⟨head, headGiven, same⟩ := isGiving_except.of_bind rest
      obtain rfl := Option.some.inj (Except.ok.inj same)
      exact coversClass_of_classHead headGiven fun type mentioned =>
        closed.hierarchy record held type mentioned

/-- A public class that names inaccessible classes in several places. -/
def canvas : ClassRecord :=
  { (default : ClassRecord) with
    typeName := "Lpkg/Canvas;"
    flags := AccessFlags.publicBit
    superclass := some "Lpkg/Base;"
    interfaces := ["Lpkg/Api;"]
    annotations := [⟨.runtime, "Lpkg/Mark;", [("peers", .array [.type "Lpkg/Peer;"])]⟩]
    fields := [{ (default : FieldRecord) with
      definingClass := "Lpkg/Canvas;"
      name := "brushes"
      fieldType := "[Lpkg/Brush;"
      flags := AccessFlags.publicBit
      hiddenApi := HiddenApi.Categories.ofFlags 2 }]
    methods := [{ (default : MethodRecord) with
      definingClass := "Lpkg/Canvas;"
      name := "fill"
      flags := AccessFlags.publicBit
      parameters := [⟨"Lpkg/Shape;", none, none, [⟨.build, "Lpkg/Mark;", []⟩]⟩]
      returnType := "V"
      annotations := [⟨.system, Platform.throws, [("value", .array [.type "Lpkg/Fault;"])]⟩] }] }

/-- An inaccessible class. -/
def plainClass (typeName : TypeDescriptor) : ClassRecord :=
  { (default : ClassRecord) with typeName, superclass := some Descriptor.object }

/-- A public class above inaccessible ones. -/
def studio : ClassMap :=
  ClassMap.insertAll ∅ (canvas :: ["Lpkg/Base;", "Lpkg/Api;", "Lpkg/Mark;", "Lpkg/Peer;",
    "Lpkg/Brush;", "Lpkg/Shape;", "Lpkg/Fault;"].map plainClass)

/-- The public class that names inaccessible ones is emitted with all its types covered. -/
theorem coversClass_of_isEmittedFor_canvas :
    studio.IsKeyedByName
      ∧ ∃ tree,
          IsEmittedFor ⟨studio, studio.referenced, .standard⟩ canvas tree
            ∧ Surroundings.CoversClass ⟨studio, studio.referenced, .standard⟩ canvas tree
            ∧ tree.superclass = some "pkg/Base"
            ∧ studio.referenced.Holds (plainClass "Lpkg/Base;") := by
  have keyed : studio.IsKeyedByName :=
    ClassMap.isKeyedByName_insertAll ClassMap.isKeyedByName_empty _
  have inMap : canvas ∈ studio.records := ClassMap.mem_records_iff.mpr ⟨"Lpkg/Canvas;", rfl⟩
  obtain ⟨tree, given, superclass⟩ :
      ∃ tree,
        CanGive (emitClass? ⟨studio, studio.referenced, .standard⟩ canvas) (some tree)
          ∧ tree.superclass = some "pkg/Base" :=
    ⟨_, ⟨.empty, _, rfl⟩, rfl⟩
  have emitted : IsEmittedFor ⟨studio, studio.referenced, .standard⟩ canvas tree :=
    Or.inl ⟨inMap, given⟩
  have covered := coversClass_of_isEmittedFor keyed emitted
  obtain ⟨type, isSuperclass, -, typeCovered⟩ := covered.superclass _ superclass
  obtain rfl := Option.some.inj isSuperclass
  exact ⟨keyed, tree, emitted, covered, superclass, typeCovered _ ⟨rfl, rfl⟩⟩

end Stub

end DexSurface
