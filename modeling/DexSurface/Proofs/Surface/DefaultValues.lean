import DexSurface.Proofs.Output.MemberAnnotations

namespace DexSurface

/-!
# Types that default values name

The default values of an annotation type stand in one platform annotation of the class, which
counts as an opaque marker and mentions nothing.  Emission moves them to the methods.  An
inaccessible class that a default value names is therefore a referenced class only if something else
mentions it.
-/

namespace ClassRecord

/-- A class without the default values of its methods. -/
def withoutDefaults (record : ClassRecord) : ClassRecord :=
  { record with
    annotations := record.annotations.filter fun note =>
      note.annotationType ≠ Platform.annotationDefault }

/-- An annotation of a class gives a default value under the name of a method. -/
def GivesDefault (record : ClassRecord) (name : String) (literal : EncodedValue) : Prop :=
  ∃ note ∈ record.annotations,
    note.annotationType = Platform.annotationDefault
      ∧ ∃ annotationType elements,
          note.singleValue = .ok (.nested annotationType elements) ∧ (name, literal) ∈ elements

variable {record other : ClassRecord} {type : TypeDescriptor}

/-- Default values are an opaque marker. -/
theorem not_mentions_of_annotationDefault
    {note : Annotation}
    (isDefaults : note.annotationType = Platform.annotationDefault) :
    ¬ note.Mentions type := by
  intro mentioned
  apply mentioned.1
  rw [← Annotation.isOpaqueMarker_iff, Annotation.isOpaqueMarker, isDefaults]
  decide

/-- Default values do not count for what the hierarchy of a class mentions. -/
theorem hierarchyMentions_withoutDefaults_iff :
    record.withoutDefaults.HierarchyMentions type ↔ record.HierarchyMentions type := by
  constructor
  · intro mentioned
    cases mentioned with
    | superclass isSuperclass => exact .superclass isSuperclass
    | interface isInterface => exact .interface isInterface
    | inNotes member mentioned => exact .inNotes (List.mem_of_mem_filter member) mentioned
  · intro mentioned
    cases mentioned with
    | superclass isSuperclass => exact .superclass isSuperclass
    | interface isInterface => exact .interface isInterface
    | inNotes member mentioned =>
        refine .inNotes (List.mem_filter.mpr ⟨member, decide_eq_true ?_⟩) mentioned
        exact fun isDefaults => not_mentions_of_annotationDefault isDefaults mentioned

/-- Classes with the same members mention the same on their surfaces if their hierarchies do. -/
theorem SurfaceMentions.of_sameMembers
    (mentioned : record.SurfaceMentions type)
    (sameFields : record.fields = other.fields)
    (sameMethods : record.methods = other.methods)
    (hierarchy : record.HierarchyMentions type → other.HierarchyMentions type) :
    other.SurfaceMentions type := by
  cases mentioned with
  | hierarchy mentioned => exact .hierarchy (hierarchy mentioned)
  | fieldType inFields accessible => exact .fieldType (sameFields ▸ inFields) accessible
  | fieldNotes inFields accessible member mentioned =>
      exact .fieldNotes (sameFields ▸ inFields) accessible member mentioned
  | returnType inMethods accessible => exact .returnType (sameMethods ▸ inMethods) accessible
  | methodNotes inMethods accessible member mentioned =>
      exact .methodNotes (sameMethods ▸ inMethods) accessible member mentioned
  | parameterType inMethods accessible inParameters =>
      exact .parameterType (sameMethods ▸ inMethods) accessible inParameters
  | parameterNotes inMethods accessible inParameters member mentioned =>
      exact .parameterNotes (sameMethods ▸ inMethods) accessible inParameters member mentioned

/-- Default values do not count for what the surface of a class mentions. -/
theorem surfaceMentions_withoutDefaults_iff :
    record.withoutDefaults.SurfaceMentions type ↔ record.SurfaceMentions type :=
  ⟨fun mentioned => mentioned.of_sameMembers rfl rfl hierarchyMentions_withoutDefaults_iff.mp,
    fun mentioned => mentioned.of_sameMembers rfl rfl hierarchyMentions_withoutDefaults_iff.mpr⟩

end ClassRecord

namespace ClassMap

/--
An inaccessible class is mentioned somewhere outside of default values: on the surface of an
accessible class, or in the hierarchy of a referenced one.
-/
def MentionsElsewhere (classes : ClassMap) (target : ClassRecord) : Prop :=
  ∃ type,
    classes.Resolves type target
      ∧ ((∃ user ∈ classes.records,
            user.flags.isAccessible = true ∧ user.withoutDefaults.SurfaceMentions type)
          ∨ ∃ user, classes.referenced.Holds user ∧ user.withoutDefaults.HierarchyMentions type)

variable {classes : ClassMap} {record target : ClassRecord}

/--
A class is referenced exactly if something other than a default value mentions it: the referenced
classes with such a mention are closed, and the referenced ones are the least.
-/
theorem holds_referenced_iff_mentionsElsewhere (keyed : classes.IsKeyedByName) :
    classes.referenced.Holds target ↔ classes.MentionsElsewhere target := by
  have closed := isClosed_referenced keyed
  constructor
  · intro held
    have mentionedClosed :
        classes.IsClosed
          {record | classes.referenced.Holds record ∧ classes.MentionsElsewhere record} := by
      constructor
      case inaccessible => exact fun record isMember => closed.inaccessible record isMember.1
      case surface =>
        intro user inMap accessible type mentioned target resolved
        refine ⟨closed.surface user inMap accessible type mentioned target resolved, type, resolved,
          Or.inl ⟨user, inMap, accessible, ?_⟩⟩
        exact ClassRecord.surfaceMentions_withoutDefaults_iff.mpr mentioned
      case hierarchy =>
        intro user isMember type mentioned target resolved
        refine ⟨closed.hierarchy user isMember.1 type mentioned target resolved, type, resolved,
          Or.inr ⟨user, isMember.1, ?_⟩⟩
        exact ClassRecord.hierarchyMentions_withoutDefaults_iff.mpr mentioned
    exact (reached_subset mentionedClosed ((holds_referenced_iff keyed).mp held)).2
  · rintro ⟨type, resolved, ⟨user, inMap, accessible, mentioned⟩ | ⟨user, held, mentioned⟩⟩
    · exact closed.surface user inMap accessible type
        (ClassRecord.surfaceMentions_withoutDefaults_iff.mp mentioned) target resolved
    · exact closed.hierarchy user held type
        (ClassRecord.hierarchyMentions_withoutDefaults_iff.mp mentioned) target resolved

/-- Resolving looks at the element type only. -/
theorem Resolves.of_sameElementType
    {type other : TypeDescriptor}
    (resolved : classes.Resolves type target)
    (sameElementType : Descriptor.elementType type = Descriptor.elementType other) :
    classes.Resolves other target := by
  rwa [Resolves, ← sameElementType]

end ClassMap

namespace Stub

open ClassFile (ClassTree ElementValue MethodTree)

/--
A value in a place of a declared type names a type that fits the place: the declared type itself, or
one that fits the place of an element, as an accessible annotation type of the map declares it.
-/
inductive NamesInPlace (classes : ClassMap) :
    TypeDescriptor → ElementValue → TypeDescriptor → Prop where
  | here {declared type : TypeDescriptor} {value : ElementValue} :
      value.Names type →
      Descriptor.elementType type = Descriptor.elementType declared →
      NamesInPlace classes declared value type
  | element
      {declared annotationType type : TypeDescriptor}
      {values : List (String × ElementValue)}
      {element : String × ElementValue}
      {user : ClassRecord}
      {source : MethodRecord} :
      element ∈ values →
      classes[annotationType]? = some user →
      user.flags.isAccessible = true →
      source ∈ user.methods →
      source.flags.isAccessible = true →
      source.name = element.1 →
      NamesInPlace classes source.returnType element.2 type →
      NamesInPlace classes declared (.nested annotationType values) type
  | member
      {declared type : TypeDescriptor}
      {values : List ElementValue}
      {value : ElementValue} :
      value ∈ values →
      NamesInPlace classes declared value type →
      NamesInPlace classes declared (.array values) type

/-- The default value of an emitted method, which comes from its class. -/
structure EmitsDefault
    (classes : ClassMap)
    (record : ClassRecord)
    (source : MethodRecord)
    (method : MethodTree)
    (value : ElementValue) : Prop where
  isAnnotationType : record.isAnnotationType = true
  name : method.name = source.name
  descriptor : method.descriptor = source.descriptor
  literal : ∃ literal, record.GivesDefault source.name literal ∧ elementValue literal = .ok value
  /-- Only mentions outside of default values make a named class a referenced one. -/
  held_iff :
    ∀ type,
      value.Names type →
      ∀ target,
        classes.Resolves type target →
        (classes.referenced.Holds target ↔ classes.MentionsElsewhere target)
  /-- A class that fits its place in the value is always a referenced one. -/
  inPlace :
    ∀ type,
      NamesInPlace classes source.returnType value type →
      classes.referenced.Settles classes type

variable
  {surroundings : Surroundings}
  {record : ClassRecord}
  {source : MethodRecord}
  {method : MethodTree}
  {value : ElementValue}
  {defaults : AnnotationDefaults}

/--
The return types of accessible methods are settled, whatever place they fill, and with them what
fits their places.
-/
theorem settles_of_namesInPlace
    {classes : ClassMap}
    {declared type : TypeDescriptor}
    (keyed : classes.IsKeyedByName)
    (named : NamesInPlace classes declared value type)
    (settled : classes.referenced.Settles classes declared) :
    classes.referenced.Settles classes type := by
  induction named with
  | here _ sameElementType =>
      exact fun target resolved => settled target (resolved.of_sameElementType sameElementType)
  | @element _ _ _ _ _ user source _ stored isAccessible inMethods accessible _ _
      inductionHypothesis =>
      have inMap := ClassMap.mem_records_of_getElem? stored
      refine inductionHypothesis fun target resolved => ?_
      exact (ClassMap.isClosed_referenced keyed).surface user inMap isAccessible _
        (.returnType inMethods accessible) target resolved
  | member _ _ inductionHypothesis => exact inductionHypothesis settled

/-- An emitted method has the default value that its class gives under its name. -/
theorem annotationDefault_of_emitMethod
    (given : CanGive (emitMethod surroundings record defaults source) method) :
    emittedDefault? defaults source = .ok method.annotationDefault := by
  obtain ⟨_, _, _, _, valueGiven, -, same⟩ := exists_parts_of_emitMethod given
  rw [valueGiven]
  exact congrArg Except.ok (congrArg MethodTree.annotationDefault same.symm)

/-- An emitted default value is the translation of an element under the name of the method. -/
theorem exists_literal_of_emittedDefault?
    (given : emittedDefault? defaults source = .ok (some value)) :
    ∃ literal, (source.name, literal) ∈ defaults ∧ elementValue literal = .ok value := by
  rw [emittedDefault?] at given
  split at given
  · cases given
  · next element found =>
      have sameName : element.1 = source.name := by simpa using List.find?_some found
      rw [map_eq_pure_bind] at given
      obtain ⟨translated, translatedGiven, same⟩ := isGiving_except.of_bind given
      obtain rfl := Option.some.inj (Except.ok.inj same)
      refine ⟨element.2, ?_, translatedGiven⟩
      rw [← sameName]
      exact List.mem_of_find?_eq_some found

/-- Only annotation types have default values, all from one annotation. -/
theorem givesDefault_of_annotationDefaults
    {name : String}
    {literal : EncodedValue}
    (given : annotationDefaults record = .ok defaults)
    (member : (name, literal) ∈ defaults) :
    record.isAnnotationType = true ∧ record.GivesDefault name literal := by
  rw [annotationDefaults] at given
  split at given
  · next isAnnotationType =>
      split at given
      · obtain rfl := Except.ok.inj given
        cases member
      · next note found =>
          have isDefaults : note.annotationType = Platform.annotationDefault := by
            simpa using List.find?_some found
          obtain ⟨single, singleGiven, rest⟩ := isGiving_except.of_bind given
          obtain ⟨nested, nestedGiven, same⟩ := isGiving_except.of_bind rest
          obtain rfl := Except.ok.inj same
          have isNested : single = .nested nested.1 nested.2 := by
            cases single <;> cases nestedGiven
            rfl
          exact ⟨isAnnotationType, note, List.mem_of_find?_eq_some found, isDefaults, nested.1,
            nested.2, isNested ▸ singleGiven, member⟩
  · obtain rfl := Except.ok.inj given
    cases member

/--
The default value of an emitted method comes from its class.  An inaccessible class that the value
names is a referenced class exactly if it is mentioned elsewhere, as a class that fits its place in
the value always is.
-/
theorem emitsDefault_of_emitClass?
    {classes : ClassMap}
    {configuration : Configuration}
    {tree : ClassTree}
    (keyed : classes.IsKeyedByName)
    (inMap : record ∈ classes.records)
    (given : CanGive (emitClass? ⟨classes, classes.referenced, configuration⟩ record) (some tree))
    (inMethods : method ∈ tree.methods)
    (hasDefault : method.annotationDefault = some value) :
    ∃ source ∈ record.methods, EmitsDefault classes record source method value := by
  obtain ⟨_, _, defaults, methods, -, -, -, defaultsGiven, methodsGiven, made⟩ :=
    exists_parts_of_emitClass? given
  obtain ⟨_, _, emitted⟩ := given
  have isAccessible := (emitClass?_eq_some emitted).1
  rw [made] at inMethods
  rcases List.mem_append.mp inMethods with isDeclared | isAdded
  · obtain ⟨source, isSelected, methodGiven⟩ :=
      isGiving_state.exists_mem_of_mapM methodsGiven method isDeclared
    obtain ⟨inRecord, isEmitted⟩ := List.mem_filter.mp isSelected
    have isNode := isNodeOfMethod_of_emitMethod methodGiven
    have valueGiven := annotationDefault_of_emitMethod methodGiven
    rw [hasDefault] at valueGiven
    obtain ⟨literal, isElement, translated⟩ := exists_literal_of_emittedDefault? valueGiven
    obtain ⟨isAnnotationType, gives⟩ :=
      givesDefault_of_annotationDefaults defaultsGiven isElement
    refine ⟨source, inRecord, isAnnotationType, isNode.name, isNode.descriptor,
      ⟨literal, gives, translated⟩, ?_, ?_⟩
    · exact fun type _ target _ => ClassMap.holds_referenced_iff_mentionsElsewhere keyed
    · intro type named
      have accessible : source.flags.isAccessible = true := by
        simp only [Stub.isEmitted, Bool.and_eq_true] at isEmitted
        exact isEmitted.1.1.1
      refine settles_of_namesInPlace keyed named fun target resolved => ?_
      exact (ClassMap.isClosed_referenced keyed).surface record inMap isAccessible _
        (.returnType inRecord accessible) target resolved
  · rw [addedMethods] at isAdded
    split at isAdded
    · obtain rfl := List.mem_singleton.mp isAdded
      cases hasDefault
    · cases isAdded

/-- A method of an annotation type. -/
def formatMethod (name : String) (returnType : TypeDescriptor) : MethodRecord :=
  { (default : MethodRecord) with
    definingClass := "Lpkg/Format;"
    name
    flags := AccessFlags.publicBit ||| AccessFlags.abstractBit
    returnType }

/-- A constant of an inaccessible enum. -/
def plainStyle : FieldRef where
  definingClass := "Lpkg/Style;"
  name := "PLAIN"
  fieldType := "Lpkg/Style;"

/-- A public annotation type whose two default values name inaccessible classes. -/
def format : ClassRecord :=
  { (default : ClassRecord) with
    typeName := "Lpkg/Format;"
    flags := AccessFlags.publicBit ||| AccessFlags.interfaceBit ||| AccessFlags.abstractBit
      ||| AccessFlags.annotationBit
    superclass := some Descriptor.object
    interfaces := ["Ljava/lang/annotation/Annotation;"]
    annotations := [⟨.system, Platform.annotationDefault,
      [("value", .nested "Lpkg/Format;"
        [("codec", .type "Lpkg/PlainCodec;"), ("style", .enum plainStyle)])]⟩]
    methods := [formatMethod "codec" "Ljava/lang/Class;", formatMethod "style" "Lpkg/Style;"] }

/-- The annotation type and the two classes. -/
def formats : ClassMap :=
  ClassMap.insertAll ∅ [format, plainClass "Lpkg/PlainCodec;", plainClass "Lpkg/Style;"]

/-- The map of the annotation type is keyed by name. -/
theorem isKeyedByName_formats : formats.IsKeyedByName :=
  ClassMap.isKeyedByName_insertAll ClassMap.isKeyedByName_empty _

/-- The stub of the annotation type has the two methods with the default values. -/
theorem emitClass?_format :
    ∃ tree codec style,
      CanGive (emitClass? ⟨formats, formats.referenced, .standard⟩ format) (some tree)
        ∧ codec ∈ tree.methods
        ∧ codec.annotationDefault = some (.classLiteral "Lpkg/PlainCodec;")
        ∧ style ∈ tree.methods
        ∧ style.annotationDefault = some (.enum "Lpkg/Style;" "PLAIN") :=
  ⟨_, _, _, ⟨.empty, _, rfl⟩, List.mem_cons_self, rfl,
    List.mem_cons_of_mem _ List.mem_cons_self, rfl⟩

/-- The type of an enum constant is referenced, since the method returns it. -/
theorem emitsDefault_of_emitClass?_style :
    formats.IsKeyedByName
      ∧ format ∈ formats.records
      ∧ ∃ tree method,
          CanGive (emitClass? ⟨formats, formats.referenced, .standard⟩ format) (some tree)
            ∧ method ∈ tree.methods
            ∧ method.annotationDefault = some (.enum "Lpkg/Style;" "PLAIN")
            ∧ (∃ source ∈ format.methods,
                EmitsDefault formats format source method (.enum "Lpkg/Style;" "PLAIN"))
            ∧ formats.referenced.Holds (plainClass "Lpkg/Style;") := by
  have keyed := isKeyedByName_formats
  have inMap : format ∈ formats.records := List.mem_cons_self
  obtain ⟨tree, _, method, given, -, -, inMethods, hasDefault⟩ := emitClass?_format
  obtain ⟨source, inSources, emits⟩ :=
    emitsDefault_of_emitClass? keyed inMap given inMethods hasDefault
  have resolved : formats.Resolves "Lpkg/Style;" (plainClass "Lpkg/Style;") := ⟨rfl, rfl⟩
  have returned :
      format.withoutDefaults.SurfaceMentions (formatMethod "style" "Lpkg/Style;").returnType :=
    .returnType (List.mem_cons_of_mem _ List.mem_cons_self) rfl
  have elsewhere : formats.MentionsElsewhere (plainClass "Lpkg/Style;") :=
    ⟨"Lpkg/Style;", resolved, Or.inl ⟨format, inMap, rfl, returned⟩⟩
  exact ⟨keyed, inMap, tree, method, given, inMethods, hasDefault, ⟨source, inSources, emits⟩,
    (emits.held_iff "Lpkg/Style;" .enumType _ resolved).mpr elsewhere⟩

/-- Of the two inaccessible classes only the enum is referenced, for the return type of a method. -/
theorem referenced_formats :
    formats.referenced =
      (∅ : ReferencedSet).insert "Lpkg/Style;" (plainClass "Lpkg/Style;") := by
  have mentions :
      formats.accessibleClasses.flatMap ClassRecord.surfaceMentions =
        [Descriptor.object, "Ljava/lang/annotation/Annotation;", "Ljava/lang/Class;",
          "Lpkg/Style;"] :=
    rfl
  have styleMentions :
      (plainClass "Lpkg/Style;").hierarchyMentions = [Descriptor.object] :=
    rfl
  have unresolved : formats.inaccessible? Descriptor.object = none := rfl
  have resolved : formats.inaccessible? "Lpkg/Style;" = some (plainClass "Lpkg/Style;") := rfl
  have reached :
      formats.reached =
        (∅ : ReferencedSet).insert "Lpkg/Style;" (plainClass "Lpkg/Style;") := by
    rw [ClassMap.reached, mentions, ClassMap.follow_cons_of_unresolved unresolved,
      ClassMap.follow_cons_of_unresolved rfl, ClassMap.follow_cons_of_unresolved rfl,
      ClassMap.follow_cons_of_fresh resolved (by simp), List.append_nil, styleMentions,
      ClassMap.follow_cons_of_unresolved unresolved, ClassMap.follow_nil]
    rfl
  rw [ClassMap.referenced, reached]
  rfl

/-- A class literal names an inaccessible class that is not referenced. -/
theorem not_settles_codec :
    formats.IsKeyedByName
      ∧ format ∈ formats.records
      ∧ format.isAnnotationType = true
      ∧ ∃ tree method value,
          CanGive (emitClass? ⟨formats, formats.referenced, .standard⟩ format) (some tree)
            ∧ method ∈ tree.methods
            ∧ method.annotationDefault = some value
            ∧ value.Names "Lpkg/PlainCodec;"
            ∧ formats.Resolves "Lpkg/PlainCodec;" (plainClass "Lpkg/PlainCodec;")
            ∧ ¬ formats.referenced.Settles formats "Lpkg/PlainCodec;" := by
  obtain ⟨tree, method, _, given, inMethods, hasDefault, -⟩ := emitClass?_format
  have resolved : formats.Resolves "Lpkg/PlainCodec;" (plainClass "Lpkg/PlainCodec;") := ⟨rfl, rfl⟩
  refine ⟨isKeyedByName_formats, List.mem_cons_self, rfl, tree, method, _, given, inMethods,
    hasDefault, .literal, resolved, fun settles => ?_⟩
  have held := settles _ resolved
  rw [ReferencedSet.Holds, referenced_formats] at held
  cases held

end Stub

end DexSurface
