import Mathlib.Data.List.Forall2
import DexSurface.Proofs.Surface.CoveredClasses

namespace DexSurface

/-!
# The annotations of emitted members

The annotations of a member are translated in order, each on its side.  The annotation for a
restriction comes last on the invisible side, after the constant of a field and before the
parameters of a method, which both leave it where it is.
-/

namespace ClassFile

/-- The annotations of one side. -/
def AnnotationSet.side (annotations : AnnotationSet) : Bool → List AnnotationTree
  | true => annotations.visible
  | false => annotations.invisible

/-- An added annotation stands last on its side. -/
theorem AnnotationSet.side_add
    (annotations : AnnotationSet)
    (note : AnnotationTree)
    (visible side : Bool) :
    (annotations.add note visible).side side =
      annotations.side side ++ if visible = side then [note] else [] := by
  cases visible <;> cases side <;> simp [add, AnnotationSet.side]

/-- A method without what its parameters and its body add to it. -/
def MethodTree.declaration (method : MethodTree) : MethodTree :=
  { method with
    visibleParameters := []
    invisibleParameters := []
    parameters := []
    body := none }

/-- Annotating a parameter does not change the declaration of a method. -/
theorem MethodTree.declaration_annotateParameter
    (method : MethodTree)
    (index count : Nat)
    (note : AnnotationTree)
    (visible : Bool) :
    (method.annotateParameter index count note visible).declaration = method.declaration := by
  cases visible <;> rfl

end ClassFile

namespace HiddenApi

/-- A member with these categories is restricted: it has some, and the whitelist is none of them. -/
structure Categories.Restrict (categories : Categories) : Prop where
  someCategory : categories.toList ≠ []
  isUnlisted : Category.whitelist ∉ categories.toList

/-- Categories are found to restrict exactly if they do. -/
theorem Categories.isRestricted_iff {categories : Categories} :
    categories.isRestricted = true ↔ categories.Restrict := by
  simp only [isRestricted, Bool.and_eq_true, Bool.not_eq_true', List.isEmpty_eq_false_iff,
    List.contains_eq_mem, decide_eq_false_iff_not]
  constructor
  · rintro ⟨someCategory, isUnlisted⟩
    exact ⟨someCategory, isUnlisted⟩
  · rintro ⟨someCategory, isUnlisted⟩
    exact ⟨someCategory, isUnlisted⟩

end HiddenApi

namespace Stub

open ClassFile (AnnotationTree AnnotationSet FieldTree MethodTree ClassTree)
open HiddenApi (Category Categories)

/-- The annotations of one side that are not reserved are translated in order. -/
def Translates
    (reserved : List TypeDescriptor)
    (visible : Bool)
    (source : Annotations)
    (translated : List AnnotationTree) : Prop :=
  List.Forall₂ (fun note tree => annotationTree note = .ok tree)
    (source.filter fun note =>
      !reserved.contains note.annotationType && note.visibility.isRuntimeVisible == visible)
    translated

/-- The annotation that lists the names of categories in the order of their declaration. -/
def categoryList (categories : Categories) : AnnotationTree where
  descriptor := "Landroid/annotation/HiddenApiRestriction;"
  values :=
    [("value",
      .array ((Category.all.filter (· ∈ categories.toList)).map fun category =>
        .string category.name))]

/--
The invisible annotations of a member: the translated ones, and then the restriction if it is to be
shown.
-/
structure MarksRestriction
    (configuration : Configuration)
    (reserved : List TypeDescriptor)
    (source : Annotations)
    (categories : Categories)
    (invisible : List AnnotationTree) : Prop where
  shown :
    configuration.hiddenApiAnnotations = true → categories.Restrict →
      ∃ translated,
        Translates reserved false source translated
          ∧ invisible = translated ++ [categoryList categories]
  notShown :
    ¬ (configuration.hiddenApiAnnotations = true ∧ categories.Restrict) →
      Translates reserved false source invisible

/-- The node of a field, which has its constant whether or not it shows a restriction. -/
structure IsNodeOfField
    (configuration : Configuration)
    (source : FieldRecord)
    (node : FieldTree) : Prop where
  name : node.name = source.name
  descriptor : node.descriptor = source.fieldType
  value : emittedConstant? configuration source = .ok node.value
  restriction :
    MarksRestriction configuration reservedOnFields source.annotations source.hiddenApi
      node.annotations.invisible

/-- The node of a method. -/
structure IsNodeOfMethod
    (configuration : Configuration)
    (source : MethodRecord)
    (node : MethodTree) : Prop where
  name : node.name = source.name
  descriptor : node.descriptor = source.descriptor
  restriction :
    MarksRestriction configuration reservedOnMethods source.annotations source.hiddenApi
      node.annotations.invisible

/--
The members of a class tree: one node for each emitted member, and the methods that are added, which
have no annotations.
-/
structure HasNodesOf
    (configuration : Configuration)
    (record : ClassRecord)
    (tree : ClassTree) : Prop where
  fields : List.Forall₂ (IsNodeOfField configuration) record.accessibleFields tree.fields
  methods :
    ∃ declared,
      List.Forall₂ (IsNodeOfMethod configuration) (record.methods.filter isEmitted) declared
        ∧ tree.methods = declared ++ addedMethods configuration
  added : ∀ method ∈ addedMethods configuration, method.annotations = .empty

variable
  {surroundings : Surroundings}
  {record : ClassRecord}
  {reserved : List TypeDescriptor}
  {source : Annotations}
  {categories : Categories}

/-! Translated annotations. -/

/-- Annotations that are added one after the other go behind those of their side. -/
theorem side_of_foldlM_add
    {notes : Annotations}
    {start result : AnnotationSet}
    (given :
      notes.foldlM
          (fun set note => do
            return set.add (← annotationTree note) note.visibility.isRuntimeVisible)
          start
        = .ok result)
    (side : Bool) :
    ∃ translated,
      List.Forall₂ (fun note tree => annotationTree note = .ok tree)
          (notes.filter fun note => note.visibility.isRuntimeVisible == side) translated
        ∧ result.side side = start.side side ++ translated := by
  induction notes generalizing start with
  | nil =>
      obtain rfl := Except.ok.inj given
      exact ⟨[], .nil, (List.append_nil _).symm⟩
  | cons first rest inductionHypothesis =>
      rw [List.foldlM_cons] at given
      obtain ⟨middle, firstGiven, restGiven⟩ := isGiving_except.of_bind given
      obtain ⟨tree, treeGiven, same⟩ := isGiving_except.of_bind firstGiven
      obtain rfl := Except.ok.inj same
      obtain ⟨translated, isTranslated, appended⟩ := inductionHypothesis restGiven
      rw [AnnotationSet.side_add, List.append_assoc] at appended
      by_cases onSide : first.visibility.isRuntimeVisible = side
      case pos =>
        refine ⟨tree :: translated, ?_, by simpa [onSide] using appended⟩
        rw [List.filter_cons_of_pos (by simpa using onSide)]
        exact .cons treeGiven isTranslated
      case neg =>
        refine ⟨translated, ?_, by simpa [onSide] using appended⟩
        rw [List.filter_cons_of_neg (by simpa using onSide)]
        exact isTranslated

/-- Each side of a translated set holds the translations of its annotations. -/
theorem translates_of_annotationSet
    {set : AnnotationSet}
    (given : annotationSet reserved source = .ok set)
    (visible : Bool) :
    Translates reserved visible source (set.side visible) := by
  obtain ⟨translated, isTranslated, appended⟩ := side_of_foldlM_add given visible
  have fromNone : set.side visible = translated := by
    rw [appended]
    cases visible <;> rfl
  rw [Translates, fromNone]
  simpa only [List.filter_filter, Bool.and_comm] using isTranslated

/-! The restriction. -/

/-- The mark for a restriction lists the names of its categories. -/
theorem restrictionMark_eq_categoryList (categories : Categories) :
    restrictionMark categories = categoryList categories := by
  have ordered : Category.all.filter (· ∈ categories.toList) = categories.toList := by
    simpa using categories.ordered
  rw [restrictionMark, categoryList, Categories.names, ordered, List.map_map]
  rfl

/-- The invisible annotations of a member end with the mark of a restriction that is shown. -/
theorem marksRestriction_of_annotationSet
    {set : AnnotationSet}
    (given : annotationSet reserved source = .ok set) :
    MarksRestriction surroundings.configuration reserved source categories
      (surroundings.addRestriction categories set).invisible := by
  have translates := translates_of_annotationSet given false
  rw [Surroundings.addRestriction]
  constructor
  case shown =>
    intro isOn restricted
    have shows : surroundings.showsRestriction categories = true := by
      rw [Surroundings.showsRestriction, isOn, Categories.isRestricted_iff.mpr restricted]
      rfl
    rw [if_pos shows, restrictionMark_eq_categoryList]
    exact ⟨set.invisible, translates, rfl⟩
  case notShown =>
    intro hidden
    rw [if_neg]
    · exact translates
    · rwa [Surroundings.showsRestriction, Bool.and_eq_true, Categories.isRestricted_iff]

/-! Members. -/

/-- The parts of an emitted field. -/
theorem exists_parts_of_emitField
    {field : FieldRecord}
    {node : FieldTree}
    (given : CanGive (emitField surroundings field) node) :
    ∃ signature value set,
      emittedConstant? surroundings.configuration field = .ok value
        ∧ annotationSet reservedOnFields field.annotations = .ok set
        ∧ node =
            { flags := memberFlags field.flags field.annotations
              name := field.name
              descriptor := field.fieldType
              signature
              value
              annotations := surroundings.addRestriction field.hiddenApi set } := by
  obtain ⟨emitted, emittedGiven, rest⟩ := isGiving_state.of_bind given
  obtain ⟨_, -, same⟩ := isGiving_state.of_bind rest
  obtain rfl := isGiving_state.of_pure same
  obtain ⟨signature, -, rest⟩ := isGiving_except.of_bind (canGive_lift emittedGiven)
  obtain ⟨value, valueGiven, rest⟩ := isGiving_except.of_bind rest
  obtain ⟨set, setGiven, same⟩ := isGiving_except.of_bind rest
  exact ⟨signature, value, set, valueGiven, setGiven, (Except.ok.inj same).symm⟩

/-- An emitted field is the node of its source. -/
theorem isNodeOfField_of_emitField
    {field : FieldRecord}
    {node : FieldTree}
    (given : CanGive (emitField surroundings field) node) :
    IsNodeOfField surroundings.configuration field node := by
  obtain ⟨_, _, set, valueGiven, setGiven, rfl⟩ := exists_parts_of_emitField given
  exact ⟨rfl, rfl, valueGiven, marksRestriction_of_annotationSet setGiven⟩

/-- Annotating one parameter does not change the declaration of a method. -/
theorem declaration_of_addParameterAnnotations
    {count position : Nat}
    {parameter : Parameter}
    {head node : MethodTree}
    (given : addParameterAnnotations count position parameter head = .ok node) :
    node.declaration = head.declaration := by
  refine isGiving_except.foldlM_induction
    (motive := fun node => node.declaration = head.declaration) given rfl ?_
  intro before after note _ same stepGiven
  obtain ⟨tree, -, added⟩ := isGiving_except.of_bind stepGiven
  obtain rfl := Except.ok.inj added
  rw [MethodTree.declaration_annotateParameter, same]

/-- Annotating all parameters does not change the declaration of a method. -/
theorem declaration_of_addAllParameterAnnotations
    {count position : Nat}
    {parameters : List PlacedParameter}
    {head node : MethodTree}
    (given : addAllParameterAnnotations count position parameters head = .ok node) :
    node.declaration = head.declaration := by
  induction parameters generalizing position head with
  | nil =>
      obtain rfl := Except.ok.inj given
      rfl
  | cons first rest inductionHypothesis =>
      obtain ⟨middle, firstGiven, restGiven⟩ := isGiving_except.of_bind given
      rw [inductionHypothesis restGiven, declaration_of_addParameterAnnotations firstGiven]

/-- Parameters and a body leave the rest of a method as it is. -/
theorem declaration_of_methodTail
    {method : MethodRecord}
    {head node : MethodTree}
    (given : methodTail record method head = .ok node) :
    node.declaration = head.declaration := by
  obtain ⟨annotated, annotatedGiven, rest⟩ := isGiving_except.of_bind given
  rw [← declaration_of_addAllParameterAnnotations annotatedGiven]
  split at rest <;> (obtain rfl := Except.ok.inj rest; rfl)

/-- The parts of an emitted method apart from its parameters and its body. -/
theorem exists_parts_of_emitMethod
    {defaults : AnnotationDefaults}
    {method : MethodRecord}
    {node : MethodTree}
    (given : CanGive (emitMethod surroundings record defaults method) node) :
    ∃ signature exceptions annotationDefault set,
      emittedDefault? defaults method = .ok annotationDefault
        ∧ annotationSet reservedOnMethods method.annotations = .ok set
        ∧ node.declaration =
            { MethodTree.bare (methodFlags method) method.name method.descriptor with
              signature
              exceptions
              annotationDefault
              annotations := surroundings.addRestriction method.hiddenApi set } := by
  obtain ⟨head, headGiven, rest⟩ := isGiving_state.of_bind given
  obtain ⟨_, -, rest⟩ := isGiving_state.of_bind rest
  have same := declaration_of_methodTail (canGive_lift rest)
  obtain ⟨signature, -, rest⟩ := isGiving_except.of_bind (canGive_lift headGiven)
  obtain ⟨exceptions, -, rest⟩ := isGiving_except.of_bind rest
  obtain ⟨value, valueGiven, rest⟩ := isGiving_except.of_bind rest
  obtain ⟨set, setGiven, made⟩ := isGiving_except.of_bind rest
  obtain rfl := Except.ok.inj made
  exact ⟨signature, exceptions, value, set, valueGiven, setGiven, same⟩

/-- An emitted method is the node of its source. -/
theorem isNodeOfMethod_of_emitMethod
    {defaults : AnnotationDefaults}
    {method : MethodRecord}
    {node : MethodTree}
    (given : CanGive (emitMethod surroundings record defaults method) node) :
    IsNodeOfMethod surroundings.configuration method node := by
  obtain ⟨_, _, _, set, -, setGiven, same⟩ := exists_parts_of_emitMethod given
  have annotations : node.annotations = surroundings.addRestriction method.hiddenApi set :=
    congrArg MethodTree.annotations same
  refine ⟨congrArg MethodTree.name same, congrArg MethodTree.descriptor same, ?_⟩
  rw [annotations]
  exact marksRestriction_of_annotationSet setGiven

/-! Classes. -/

/-- An emitted class has the nodes of its members. -/
theorem hasNodesOf_of_emitClass
    {tree : ClassTree}
    (given : CanGive (emitClass surroundings record) tree) :
    HasNodesOf surroundings.configuration record tree := by
  obtain ⟨head, -, rest⟩ := isGiving_state.of_bind given
  obtain ⟨noted, -, rest⟩ := isGiving_state.of_bind rest
  obtain ⟨fields, fieldsGiven, rest⟩ := isGiving_state.of_bind rest
  obtain ⟨defaults, -, rest⟩ := isGiving_state.of_bind rest
  obtain ⟨methods, methodsGiven, same⟩ := isGiving_state.of_bind rest
  obtain rfl := isGiving_state.of_pure same
  constructor
  case fields =>
    exact (isGiving_state.forall₂_of_mapM fieldsGiven).imp fun _ _ => isNodeOfField_of_emitField
  case methods =>
    exact ⟨methods,
      (isGiving_state.forall₂_of_mapM methodsGiven).imp fun _ _ => isNodeOfMethod_of_emitMethod,
      rfl⟩
  case added =>
    intro method member
    rw [addedMethods] at member
    split at member
    · obtain rfl := List.mem_singleton.mp member
      rfl
    · cases member

/-- A class with a stub is emitted as any accessible class is. -/
theorem emitClass_of_emitClass?
    {tree : ClassTree}
    (given : CanGive (emitClass? surroundings record) (some tree)) :
    CanGive (emitClass surroundings record) tree := by
  rw [emitClass?] at given
  split at given
  · cases isGiving_state.of_pure given
  · obtain ⟨hidden, -, rest⟩ := isGiving_state.of_bind given
    split at rest
    · cases isGiving_state.of_pure rest
    · rw [map_eq_pure_bind] at rest
      obtain ⟨emitted, emittedGiven, same⟩ := isGiving_state.of_bind rest
      obtain rfl := Option.some.inj (isGiving_state.of_pure same)
      exact emittedGiven

/-- The parts of a stub: what the annotations add to the head of the class, and the members. -/
theorem exists_parts_of_emitClass?
    {tree : ClassTree}
    (given : CanGive (emitClass? surroundings record) (some tree)) :
    ∃ head noted defaults methods,
      classHead record = .ok head
        ∧ CanGive
            (record.annotations.foldlM (addAnnotationToClass surroundings record)
              { head with sourceFile := record.sourceFile })
            noted
        ∧ CanGive (record.accessibleFields.mapM (emitField surroundings)) tree.fields
        ∧ annotationDefaults record = .ok defaults
        ∧ CanGive
            ((record.methods.filter isEmitted).mapM (emitMethod surroundings record defaults))
            methods
        ∧ tree =
            { noted with
              fields := tree.fields
              methods := methods ++ addedMethods surroundings.configuration } := by
  obtain ⟨head, headGiven, rest⟩ := isGiving_state.of_bind (emitClass_of_emitClass? given)
  obtain ⟨noted, notedGiven, rest⟩ := isGiving_state.of_bind rest
  obtain ⟨fields, fieldsGiven, rest⟩ := isGiving_state.of_bind rest
  obtain ⟨defaults, defaultsGiven, rest⟩ := isGiving_state.of_bind rest
  obtain ⟨methods, methodsGiven, same⟩ := isGiving_state.of_bind rest
  obtain rfl := isGiving_state.of_pure same
  exact ⟨head, noted, defaults, methods, canGive_ofRecord headGiven, notedGiven, fieldsGiven,
    canGive_ofRecord defaultsGiven, methodsGiven, rfl⟩

/-- A stub has the nodes of the members of its class. -/
theorem hasNodesOf_of_emitClass?
    {tree : ClassTree}
    (given : CanGive (emitClass? surroundings record) (some tree)) :
    HasNodesOf surroundings.configuration record tree :=
  hasNodesOf_of_emitClass (emitClass_of_emitClass? given)

end Stub

end DexSurface
