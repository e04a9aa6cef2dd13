import DexSurface.Proofs.Output.ExactTiers
import DexSurface.Proofs.Output.SelectedMembers
import DexSurface.Proofs.Stub.TranslatedValues

namespace DexSurface

/-!
# The annotations of stubs by visibility

A stub keeps the annotations of its class and of its members that no attribute stands for.  Runtime
annotations are visible and all others are invisible, in the order of the source on either side.  An
annotation that would be kept and holds a null makes the whole extraction fail.
-/

/-- A null stands somewhere in an annotation. -/
def Annotation.HoldsNull (note : Annotation) : Prop :=
  ∃ element ∈ note.elements, element.2.HoldsNull

instance (categories : HiddenApi.Categories) : Decidable categories.Restrict :=
  decidable_of_iff _ HiddenApi.Categories.isRestricted_iff

namespace Stub

open ClassFile (AnnotationTree AnnotationSet FieldTree MethodTree ClassTree)
open HiddenApi (Categories)

/-- The elements with annotations of their own. -/
inductive Level where
  | ofClass
  | ofField
  | ofMethod
  | ofParameter

/-- The metadata that is not kept as an annotation, by its simple name. -/
def Level.reservedNames : Level → List String
  | .ofClass =>
      ["EnclosingClass", "EnclosingMethod", "InnerClass", "MemberClasses", "PermittedSubclasses",
        "Record", "Signature", "Throws", "AnnotationDefault"]
  | .ofField => ["Signature"]
  | .ofMethod => ["Signature", "Throws", "MethodParameters"]
  | .ofParameter => ["Signature"]

/-- The types of the metadata that is not kept as an annotation. -/
def Level.reservedTypes (level : Level) : List TypeDescriptor :=
  level.reservedNames.map fun name => "Ldalvik/annotation/" ++ name ++ ";"

/-- The annotations that a stub keeps: those of types that are not reserved. -/
def Level.kept (level : Level) (source : Annotations) : Annotations :=
  source.filter fun note => note.annotationType ∉ level.reservedTypes

/--
An annotation tree has the type of an annotation, and its values have the names and the forms of the
elements.
-/
structure IsTranslation (note : Annotation) (tree : AnnotationTree) : Prop where
  annotationType : tree.descriptor = note.annotationType
  elements : HaveForms note.elements tree.values

/--
The annotations of an element are sorted: the runtime annotations that are kept on the visible side,
the other ones that are kept on the invisible side, and what the stub adds behind them.
-/
structure SortsAnnotations
    (level : Level)
    (source : Annotations)
    (added : List AnnotationTree)
    (set : AnnotationSet) : Prop where
  visible :
    List.Forall₂ IsTranslation
      ((level.kept source).filter fun note => note.visibility = .runtime) set.visible
  invisible :
    ∃ translated,
      List.Forall₂ IsTranslation
          ((level.kept source).filter fun note =>
            note.visibility = .build ∨ note.visibility = .system)
          translated
        ∧ set.invisible = translated ++ added

/-- The annotation that shows the restriction of a member. -/
def shownRestriction (configuration : Configuration) (categories : Categories) :
    List AnnotationTree :=
  if configuration.hiddenApiAnnotations = true ∧ categories.Restrict then
    [categoryList categories]
  else
    []

/-- The annotations of a class, of its accessible fields and of its selected methods are sorted. -/
structure SortsStub
    (configuration : Configuration)
    (record : ClassRecord)
    (tree : ClassTree) : Prop where
  ofClass : SortsAnnotations .ofClass record.annotations [] tree.annotations
  fields :
    List.Forall₂
      (fun (field : FieldRecord) (node : FieldTree) =>
        SortsAnnotations .ofField field.annotations
          (shownRestriction configuration field.hiddenApi) node.annotations)
      (record.fields.filter fun field => field.flags.isAccessible) tree.fields
  methods :
    ∃ declared,
      List.Forall₂
          (fun (method : MethodRecord) (node : MethodTree) =>
            SortsAnnotations .ofMethod method.annotations
              (shownRestriction configuration method.hiddenApi) node.annotations)
          (record.methods.filter fun method => IsSelected method) declared
        ∧ tree.methods =
            declared ++ if configuration.stubInitializer then [throwingInitializer] else []

/-- A null stands in an annotation that the stub of a class would keep. -/
inductive KeepsNull (record : ClassRecord) : Prop where
  | ofClass {note : Annotation} :
      note ∈ Level.ofClass.kept record.annotations →
      note.HoldsNull →
      KeepsNull record
  | ofField {field : FieldRecord} {note : Annotation} :
      field ∈ record.fields →
      field.flags.isAccessible = true →
      note ∈ Level.ofField.kept field.annotations →
      note.HoldsNull →
      KeepsNull record
  | ofMethod {method : MethodRecord} {note : Annotation} :
      method ∈ record.methods →
      IsSelected method →
      note ∈ Level.ofMethod.kept method.annotations →
      note.HoldsNull →
      KeepsNull record

variable
  {surroundings : Surroundings}
  {record : ClassRecord}
  {level : Level}
  {source : Annotations}

/-! Kept annotations. -/

/-- The types that a set of annotations leaves out at each level. -/
def Level.leftOut : Level → List TypeDescriptor
  | .ofClass => reservedOnClasses
  | .ofField => reservedOnFields
  | .ofMethod => reservedOnMethods
  | .ofParameter => reservedOnParameters

/-- What is left out at a level is its reserved metadata. -/
theorem Level.leftOut_eq (level : Level) : level.leftOut = level.reservedTypes := by
  cases level <;> rfl

/-- An annotation is translated to exactly the trees that are its translation. -/
theorem annotationTree_eq_ok_iff {note : Annotation} {tree : AnnotationTree} :
    annotationTree note = .ok tree ↔ IsTranslation note tree := by
  rw [annotationTree]
  constructor
  · intro given
    obtain ⟨values, valuesGiven, same⟩ := isGiving_except.of_bind given
    obtain rfl := Except.ok.inj same
    exact ⟨rfl, namedValues_eq_ok_iff.mp valuesGiven⟩
  · rintro ⟨sameType, haveForms⟩
    obtain ⟨descriptor, values⟩ := tree
    obtain rfl : descriptor = note.annotationType := sameType
    rw [namedValues_eq_ok_iff.mpr haveForms]
    rfl

/-- What has a translation holds no null. -/
theorem IsTranslation.not_holdsNull
    {note : Annotation}
    {tree : AnnotationTree}
    (isTranslation : IsTranslation note tree) : ¬ note.HoldsNull :=
  (failsExactly_namedValues note.elements).exists_ok_iff.mp
    ⟨tree.values, namedValues_eq_ok_iff.mpr isTranslation.elements⟩

/-- The kept annotations are those of types that are not left out. -/
theorem Level.kept_eq_filter (level : Level) (source : Annotations) :
    level.kept source =
      source.filter fun note => !level.leftOut.contains note.annotationType := by
  rw [Level.kept, level.leftOut_eq]
  exact List.filter_congr fun note _ => by simp

/-- The kept annotations of a side are those that are translated onto it. -/
theorem filter_kept_eq
    (level : Level)
    (source : Annotations)
    (isOnSide : Annotation → Bool)
    {visible : Bool}
    (same : ∀ note : Annotation, isOnSide note = (note.visibility.isRuntimeVisible == visible)) :
    (level.kept source).filter isOnSide =
      source.filter fun note =>
        !level.leftOut.contains note.annotationType
          && note.visibility.isRuntimeVisible == visible := by
  rw [level.kept_eq_filter, List.filter_filter]
  refine List.filter_congr fun note _ => ?_
  rw [same, Bool.and_comm]

/-- A translated set with annotations added at its invisible end is sorted. -/
theorem sortsAnnotations_of_annotationSet
    (level : Level)
    {set : AnnotationSet}
    (given : annotationSet level.leftOut source = .ok set)
    (added : List AnnotationTree) :
    SortsAnnotations level source added { set with invisible := set.invisible ++ added } := by
  have visible := translates_of_annotationSet given true
  have invisible := translates_of_annotationSet given false
  rw [Translates] at visible invisible
  rw [← filter_kept_eq level source (fun note => note.visibility = .runtime)
    (by rintro ⟨_ | _ | _, _, _⟩ <;> rfl)] at visible
  rw [← filter_kept_eq level source
    (fun note => note.visibility = .build ∨ note.visibility = .system)
    (by rintro ⟨_ | _ | _, _, _⟩ <;> rfl)] at invisible
  exact ⟨visible.imp fun _ _ => annotationTree_eq_ok_iff.mp,
    ⟨_, invisible.imp fun _ _ => annotationTree_eq_ok_iff.mp, rfl⟩⟩

/-- Sorted annotations hold no null where they are kept. -/
theorem SortsAnnotations.not_holdsNull
    {added : List AnnotationTree}
    {set : AnnotationSet}
    {note : Annotation}
    (sorts : SortsAnnotations level source added set)
    (isKept : note ∈ level.kept source) : ¬ note.HoldsNull := by
  have translated {isOnSide : Annotation → Bool} {trees : List AnnotationTree}
      (areTranslations :
        List.Forall₂ IsTranslation ((level.kept source).filter isOnSide) trees)
      (onSide : isOnSide note = true) : ∃ tree, IsTranslation note tree := by
    obtain ⟨⟨index, inRange⟩, rfl⟩ :=
      List.mem_iff_get.mp (List.mem_filter.mpr ⟨isKept, onSide⟩)
    exact ⟨_, areTranslations.get inRange (areTranslations.length_eq ▸ inRange)⟩
  obtain ⟨invisible, areInvisible, -⟩ := sorts.invisible
  obtain ⟨tree, isTranslation⟩ : ∃ tree, IsTranslation note tree := by
    cases visibility : note.visibility with
    | runtime => exact translated sorts.visible (by simp [visibility])
    | build => exact translated areInvisible (by simp [visibility])
    | system => exact translated areInvisible (by simp [visibility])
  exact isTranslation.not_holdsNull

/-! Members. -/

/-- A restriction adds its mark at the invisible end. -/
theorem addRestriction_eq_append (categories : Categories) (set : AnnotationSet) :
    surroundings.addRestriction categories set =
      { set with
        invisible :=
          set.invisible ++ shownRestriction surroundings.configuration categories } := by
  have isShown :
      surroundings.showsRestriction categories = true
        ↔ surroundings.configuration.hiddenApiAnnotations = true ∧ categories.Restrict := by
    rw [Surroundings.showsRestriction, Bool.and_eq_true, Categories.isRestricted_iff]
  rw [Surroundings.addRestriction, shownRestriction]
  by_cases shows : surroundings.showsRestriction categories = true
  case pos =>
    rw [if_pos shows, if_pos (isShown.mp shows), restrictionMark_eq_categoryList]
    rfl
  case neg =>
    rw [if_neg shows, if_neg fun shown => shows (isShown.mpr shown), List.append_nil]

/-- The annotations of an emitted field are sorted, its restriction last. -/
theorem sortsAnnotations_of_emitField
    {field : FieldRecord}
    {node : FieldTree}
    (given : CanGive (emitField surroundings field) node) :
    SortsAnnotations .ofField field.annotations
      (shownRestriction surroundings.configuration field.hiddenApi) node.annotations := by
  obtain ⟨_, _, set, -, setGiven, rfl⟩ := exists_parts_of_emitField given
  rw [addRestriction_eq_append]
  exact sortsAnnotations_of_annotationSet .ofField setGiven _

/-- The annotations of an emitted method are sorted, its restriction last. -/
theorem sortsAnnotations_of_emitMethod
    {defaults : AnnotationDefaults}
    {method : MethodRecord}
    {node : MethodTree}
    (given : CanGive (emitMethod surroundings record defaults method) node) :
    SortsAnnotations .ofMethod method.annotations
      (shownRestriction surroundings.configuration method.hiddenApi) node.annotations := by
  obtain ⟨_, _, _, set, -, setGiven, same⟩ := exists_parts_of_emitMethod given
  have annotations : node.annotations = surroundings.addRestriction method.hiddenApi set :=
    congrArg MethodTree.annotations same
  rw [annotations, addRestriction_eq_append]
  exact sortsAnnotations_of_annotationSet .ofMethod setGiven _

/-! Classes. -/

/--
The annotations of a class are added one by one as those of a member are.  Metadata leaves the
annotations as they are, of whatever kind it is.
-/
theorem annotationSet_of_foldlM
    {notes : Annotations}
    {tree result : ClassTree}
    (given : CanGive (notes.foldlM (addAnnotationToClass surroundings record) tree) result) :
    (notes.filter fun note => !reservedOnClasses.contains note.annotationType).foldlM
        (fun set note => do
          return set.add (← annotationTree note) note.visibility.isRuntimeVisible)
        tree.annotations
      = .ok result.annotations := by
  induction notes generalizing tree with
  | nil =>
      obtain rfl := isGiving_state.of_pure given
      rfl
  | cons first rest inductionHypothesis =>
      rw [List.foldlM_cons] at given
      obtain ⟨middle, firstGiven, restGiven⟩ := isGiving_state.of_bind given
      have restAdded := inductionHypothesis restGiven
      have skips (isReserved : first.annotationType ∈ reservedOnClasses) :
          ((first :: rest).filter fun note => !reservedOnClasses.contains note.annotationType) =
            rest.filter fun note => !reservedOnClasses.contains note.annotationType :=
        List.filter_cons_of_neg (by simpa using isReserved)
      cases takesNote_of_addAnnotationToClass firstGiven with
      | enclosing isReserved | nested isReserved | members isReserved | permitted isReserved =>
          rw [skips (by rw [isReserved]; decide)]
          exact restAdded
      | leftOut isReserved =>
          rw [skips isReserved]
          exact restAdded
      | kept isKept translated =>
          rw [List.filter_cons_of_pos (by simpa using isKept), List.foldlM_cons, translated]
          exact restAdded

/-- The head of a class has no annotations. -/
theorem annotations_of_classHead
    {tree : ClassTree}
    (given : classHead record = .ok tree) :
    tree.annotations = .empty := by
  obtain ⟨signature, -, same⟩ := isGiving_except.of_bind given
  obtain rfl := Except.ok.inj same
  rfl

/-- The annotations of a stub are sorted, with nothing added. -/
theorem sortsAnnotations_of_emitClass?
    {tree : ClassTree}
    (given : CanGive (emitClass? surroundings record) (some tree)) :
    SortsAnnotations .ofClass record.annotations [] tree.annotations := by
  obtain ⟨head, noted, _, _, headGiven, notedGiven, -, -, -, made⟩ :=
    exists_parts_of_emitClass? given
  have setGiven := annotationSet_of_foldlM notedGiven
  rw [annotations_of_classHead headGiven] at setGiven
  have sorts := sortsAnnotations_of_annotationSet .ofClass setGiven []
  rw [List.append_nil] at sorts
  rw [made]
  exact sorts

/-- The annotations of a stub are sorted, those of its class and those of its members. -/
theorem sortsStub_of_emitClass?
    {tree : ClassTree}
    (given : CanGive (emitClass? surroundings record) (some tree)) :
    SortsStub surroundings.configuration record tree := by
  obtain ⟨_, _, defaults, methods, -, -, fieldsGiven, -, methodsGiven, made⟩ :=
    exists_parts_of_emitClass? given
  refine ⟨sortsAnnotations_of_emitClass? given, ?_, methods, ?_, congrArg ClassTree.methods made⟩
  · exact (isGiving_state.forall₂_of_mapM fieldsGiven).imp fun _ _ => sortsAnnotations_of_emitField
  · rw [filter_isEmitted_eq] at methodsGiven
    exact (isGiving_state.forall₂_of_mapM methodsGiven).imp fun _ _ =>
      sortsAnnotations_of_emitMethod

/-! Nulls. -/

/-- Where annotations are sorted, no null is kept. -/
theorem SortsStub.not_keepsNull
    {configuration : Configuration}
    {tree : ClassTree}
    (sorts : SortsStub configuration record tree) : ¬ KeepsNull record := by
  intro keeps
  cases keeps with
  | ofClass isKept holds => exact sorts.ofClass.not_holdsNull isKept holds
  | ofField inRecord accessible isKept holds =>
      obtain ⟨node, fieldSorts⟩ :=
        exists_of_mem_of_forall₂ sorts.fields (List.mem_filter.mpr ⟨inRecord, accessible⟩)
      exact fieldSorts.not_holdsNull isKept holds
  | ofMethod inRecord isSelected isKept holds =>
      obtain ⟨declared, areSorted, -⟩ := sorts.methods
      obtain ⟨node, methodSorts⟩ :=
        exists_of_mem_of_forall₂ areSorted
          (List.mem_filter.mpr ⟨inRecord, decide_eq_true isSelected⟩)
      exact methodSorts.not_holdsNull isKept holds

end Stub

namespace Extraction

open Stub (KeepsNull SortsStub Surroundings)

/--
The annotations of every stub are sorted, and a null in an annotation that some stub would keep
makes the extraction fail.
-/
structure SortsByVisibility (surroundings : Surroundings) : Prop where
  stubs :
    ∀ record tree,
      CanGive (Stub.emitClass? surroundings record) (some tree) →
      SortsStub surroundings.configuration record tree
  nulls :
    ∀ record ∈ stubClasses surroundings.classes,
      KeepsNull record →
      Fails (transform surroundings.configuration surroundings.classes)

/-- The classes with a stub are the accessible ones of the map that are not hidden. -/
theorem mem_stubClasses_iff {classes : ClassMap} {record : ClassRecord} :
    record ∈ stubClasses classes
      ↔ record ∈ classes.records ∧ record.flags.isAccessible = true ∧ isHidden record = false := by
  rw [stubClasses, List.mem_filter, Bool.and_eq_true, Bool.not_eq_true']

/-- An extraction that succeeds gives a tree for every class that has a stub. -/
theorem exists_tree_of_transform
    {configuration : Configuration}
    {classes : ClassMap}
    {tiers : OutputTiers}
    {record : ClassRecord}
    (given : CanGive (transform configuration classes) tiers)
    (hasStub : record ∈ stubClasses classes) :
    ∃ tree,
      CanGive
        (Stub.emitClass? { classes, referenced := classes.referenced, configuration } record)
        (some tree) := by
  obtain ⟨inRecords, accessible, isOpen⟩ := mem_stubClasses_iff.mp hasStub
  obtain ⟨-, -, emitted⟩ := isGiving_state.of_bind given
  obtain ⟨-, -, forgotten⟩ := isGiving_state.of_bind emitted
  obtain ⟨-, -, entered⟩ := isGiving_state.of_bind forgotten
  obtain ⟨stubs, stubsGiven, -⟩ := isGiving_state.of_bind entered
  obtain ⟨_, _, stubEntered⟩ := isGiving_state.exists_of_mem_foldlM stubsGiven inRecords
  obtain ⟨tree?, treeGiven, -⟩ := isGiving_state.of_bind stubEntered
  cases tree? with
  | some tree => exact ⟨tree, treeGiven⟩
  | none =>
      obtain ⟨before, after, ran⟩ := treeGiven
      rcases Stub.emitClass?_eq_none ran with inaccessible | hidden
      · rw [accessible] at inaccessible
        cases inaccessible
      · rw [isHidden, hidden] at isOpen
        cases isOpen

/--
Every stub has its annotations sorted, and a null that would be kept makes the extraction fail.
-/
theorem sortsByVisibility (surroundings : Surroundings) : SortsByVisibility surroundings where
  stubs _ _ given := Stub.sortsStub_of_emitClass? given
  nulls _ hasStub keeps :=
    fails_of_forall_not_canGive fun _ given =>
      have ⟨_, treeGiven⟩ := exists_tree_of_transform given hasStub
      (Stub.sortsStub_of_emitClass? treeGiven).not_keepsNull keeps

end Extraction

end DexSurface
