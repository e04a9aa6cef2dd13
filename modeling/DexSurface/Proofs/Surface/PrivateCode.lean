import DexSurface.Extraction
import DexSurface.Proofs.Surface.Agreement

namespace DexSurface

/-!
# Private code does not influence the output

Emission reads the members of a class only through its accessible members, and the instructions of a
method only to see whether a monitor is entered.  Extraction from two class maps that agree on their
surface is therefore one and the same run: the same class files in the same tiers, or the same
failure, and the same journal.
-/

/-- Lists of related elements give the same result under a fold whose steps are the same. -/
theorem foldlM_eq_of_forall₂
    {m : Type → Type}
    [Monad m]
    {α β σ : Type}
    {related : α → β → Prop}
    {leftStep : σ → α → m σ}
    {rightStep : σ → β → m σ}
    (sameStep :
      ∀ state left right, related left right → leftStep state left = rightStep state right)
    {lefts : List α}
    {rights : List β}
    (areRelated : List.Forall₂ related lefts rights)
    (state : σ) :
    lefts.foldlM leftStep state = rights.foldlM rightStep state := by
  induction areRelated generalizing state with
  | nil => rfl
  | cons first rest inductionHypothesis =>
      rw [List.foldlM_cons, List.foldlM_cons, sameStep state _ _ first]
      congr 1
      funext next
      exact inductionHypothesis next

/-- Lists of related elements give the same result when they are mapped to the same. -/
theorem mapM_eq_of_forall₂
    {m : Type → Type}
    [Monad m]
    [LawfulMonad m]
    {α β γ : Type}
    {related : α → β → Prop}
    {leftMap : α → m γ}
    {rightMap : β → m γ}
    (sameMap : ∀ left right, related left right → leftMap left = rightMap right)
    {lefts : List α}
    {rights : List β}
    (areRelated : List.Forall₂ related lefts rights) :
    lefts.mapM leftMap = rights.mapM rightMap := by
  induction areRelated with
  | nil => rfl
  | cons first rest inductionHypothesis =>
      rw [List.mapM_cons, List.mapM_cons, sameMap _ _ first, inductionHypothesis]

namespace MethodRecord.Agrees

variable {left right : MethodRecord}

/-- Methods that agree both have a body, or none of them has. -/
theorem isSome_body_eq (agrees : left.Agrees right) :
    left.body.isSome = right.body.isSome := by
  have related := agrees.body
  generalize left.body = leftBody at related ⊢
  generalize right.body = rightBody at related ⊢
  cases related <;> rfl

/-- Methods that agree are both static, or none of them is. -/
theorem isStatic_eq (agrees : left.Agrees right) : left.isStatic = right.isStatic := by
  rw [MethodRecord.isStatic, MethodRecord.isStatic, agrees.flags]

/-- Methods that agree have the same parameter types. -/
theorem parameterTypes_eq (agrees : left.Agrees right) :
    left.parameterTypes = right.parameterTypes := by
  rw [parameterTypes, parameterTypes, agrees.parameters]

/-- Methods that agree have the same descriptor. -/
theorem descriptor_eq (agrees : left.Agrees right) : left.descriptor = right.descriptor := by
  rw [descriptor, descriptor, agrees.parameterTypes_eq, agrees.returnType]

end MethodRecord.Agrees

namespace Stub

open MethodRecord (Agrees)

section Restrictions

variable {left right : Surroundings}

/-- The configuration alone decides whether restrictions are shown. -/
theorem showsRestriction_eq (same : left.configuration = right.configuration) :
    left.showsRestriction = right.showsRestriction := by
  funext categories
  rw [Surroundings.showsRestriction, Surroundings.showsRestriction, same]

/-- The configuration alone decides how a restriction is added. -/
theorem addRestriction_eq (same : left.configuration = right.configuration) :
    left.addRestriction = right.addRestriction := by
  funext categories annotations
  rw [Surroundings.addRestriction, Surroundings.addRestriction, showsRestriction_eq same]

/-- The configuration alone decides which restrictions are noted. -/
theorem noteRestriction_eq (same : left.configuration = right.configuration) :
    left.noteRestriction = right.noteRestriction := by
  funext categories
  rw [Surroundings.noteRestriction, Surroundings.noteRestriction, showsRestriction_eq same]

/-- Under one configuration a field is emitted in one way. -/
theorem emitField_eq (same : left.configuration = right.configuration) :
    emitField left = emitField right := by
  funext field
  rw [emitField, emitField, fieldTree, fieldTree, same, addRestriction_eq same,
    noteRestriction_eq same]

end Restrictions

section Methods

variable {left right : MethodRecord}

/-- Methods that agree are both emitted, or none of them is. -/
theorem isEmitted_eq (agrees : left.Agrees right) : isEmitted left = isEmitted right := by
  rw [isEmitted, isEmitted, isInheritedFromRoot, isInheritedFromRoot, agrees.isStatic_eq,
    agrees.flags, agrees.name, agrees.definingClass, agrees.parameterTypes_eq, agrees.returnType]

/-- Of the opcodes only the entering of a monitor shows in the flags. -/
theorem methodFlags_eq (agrees : left.Agrees right) : methodFlags left = methodFlags right := by
  have related := agrees.body
  rw [methodFlags, methodFlags, agrees.flags, agrees.annotations]
  generalize left.body = leftBody at related
  generalize right.body = rightBody at related
  cases related with
  | none => rfl
  | some bodiesAgree => simp only [bodiesAgree.hasMonitorEnter]

/-- Recovered names depend on registers and locals, not on opcodes. -/
theorem recoverNames_eq
    {leftBody rightBody : MethodBody}
    (agrees : leftBody.Agrees rightBody)
    (parameters : List Parameter) :
    recoverNames leftBody parameters = recoverNames rightBody parameters := by
  rw [recoverNames, recoverNames, agrees.locals, agrees.registerCount]

/-- Methods that agree have the same parameters in the same slots. -/
theorem placedParameters_eq (agrees : left.Agrees right) :
    placedParameters left = placedParameters right := by
  have related := agrees.body
  rw [placedParameters, placedParameters, receiverWidth, receiverWidth, agrees.isStatic_eq,
    MethodRecord.isAbstract, MethodRecord.isAbstract, agrees.flags, agrees.parameters]
  generalize left.body = leftBody at related
  generalize right.body = rightBody at related
  cases related with
  | none => rfl
  | some bodiesAgree => simp only [recoverNames_eq bodiesAgree]

/-- Agreeing methods of classes with one superclass have the same stub body. -/
theorem methodBody_eq
    {leftRecord rightRecord : ClassRecord}
    (sameSuperclass : leftRecord.superclass = rightRecord.superclass)
    (agrees : left.Agrees right)
    (parameters : List PlacedParameter) :
    methodBody leftRecord left parameters = methodBody rightRecord right parameters := by
  have sameInstructions : instructions leftRecord left = instructions rightRecord right := by
    rw [instructions, instructions, chainedSuperclass?, chainedSuperclass?, agrees.name,
      agrees.isStatic_eq, agrees.returnType, agrees.definingClass, sameSuperclass]
  have sameLocals : maxLocals left = maxLocals right := by
    rw [maxLocals, maxLocals, receiverWidth, receiverWidth, agrees.isStatic_eq, agrees.parameters]
  have sameReceiver : receiverVariables left = receiverVariables right := by
    rw [receiverVariables, receiverVariables, agrees.isStatic_eq, agrees.definingClass]
  rw [methodBody, methodBody, sameInstructions, sameLocals, sameReceiver]

/-- Methods that agree have the same head under one configuration. -/
theorem methodHead_eq
    {leftSurroundings rightSurroundings : Surroundings}
    (sameConfiguration : leftSurroundings.configuration = rightSurroundings.configuration)
    (defaults : AnnotationDefaults)
    (agrees : left.Agrees right) :
    methodHead leftSurroundings defaults left = methodHead rightSurroundings defaults right := by
  rw [methodHead, methodHead, agrees.annotations, methodFlags_eq agrees, agrees.name,
    agrees.descriptor_eq, agrees.hiddenApi, emittedDefault?, emittedDefault?, agrees.name,
    addRestriction_eq sameConfiguration]

/-- Agreeing methods of classes with one superclass have the same tail. -/
theorem methodTail_eq
    {leftRecord rightRecord : ClassRecord}
    (sameSuperclass : leftRecord.superclass = rightRecord.superclass)
    (agrees : left.Agrees right)
    (tree : ClassFile.MethodTree) :
    methodTail leftRecord left tree = methodTail rightRecord right tree := by
  rw [methodTail, methodTail, placedParameters_eq agrees, agrees.isSome_body_eq]
  simp only [methodBody_eq sameSuperclass agrees]

/-- Agreeing methods are emitted in the same way. -/
theorem emitMethod_eq
    {leftSurroundings rightSurroundings : Surroundings}
    (sameConfiguration : leftSurroundings.configuration = rightSurroundings.configuration)
    {leftRecord rightRecord : ClassRecord}
    (sameSuperclass : leftRecord.superclass = rightRecord.superclass)
    (defaults : AnnotationDefaults)
    (agrees : left.Agrees right) :
    emitMethod leftSurroundings leftRecord defaults left =
      emitMethod rightSurroundings rightRecord defaults right := by
  have sameTail : methodTail leftRecord left = methodTail rightRecord right := by
    funext tree
    exact methodTail_eq sameSuperclass agrees tree
  rw [emitMethod, emitMethod, methodHead_eq sameConfiguration defaults agrees, agrees.hiddenApi,
    noteRestriction_eq sameConfiguration, sameTail]

end Methods

section Classes

variable {left right : ClassRecord}

/-- Classes that agree have the same internal name. -/
theorem internalName_eq (agrees : left.Agrees right) : left.internalName = right.internalName := by
  rw [ClassRecord.internalName, ClassRecord.internalName, agrees.typeName]

/-- Classes that agree are emitted with the same flags. -/
theorem classFlags_eq (agrees : left.Agrees right) : classFlags left = classFlags right := by
  rw [classFlags, classFlags, ClassRecord.isInterface, ClassRecord.isInterface, agrees.flags,
    agrees.annotations]

/-- Classes that agree are emitted with the same head. -/
theorem classHead_eq (agrees : left.Agrees right) : classHead left = classHead right := by
  rw [classHead, classHead, classFlags_eq agrees, agrees.annotations, internalName_eq agrees,
    agrees.superclass, agrees.interfaces]

/-- Classes that agree carry the same inner-class marker. -/
theorem innerClassMarker?_eq (agrees : left.Agrees right) :
    left.innerClassMarker? = right.innerClassMarker? := by
  rw [ClassRecord.innerClassMarker?, ClassRecord.innerClassMarker?, agrees.annotations]

/-- Classes that agree are both hidden nested classes, or none of them is. -/
theorem isHiddenNested_eq (agrees : left.Agrees right) :
    isHiddenNested left = isHiddenNested right := by
  rw [isHiddenNested, isHiddenNested, innerClassMarker?_eq agrees]

/-- Classes that agree have the same skeleton. -/
theorem skeleton?_eq (agrees : left.Agrees right) : skeleton? left = skeleton? right := by
  rw [skeleton?, skeleton?, isHiddenNested_eq agrees, classHead_eq agrees]

/-- Classes that agree give the same default values. -/
theorem annotationDefaults_eq (agrees : left.Agrees right) :
    annotationDefaults left = annotationDefaults right := by
  rw [annotationDefaults, annotationDefaults, ClassRecord.isAnnotationType,
    ClassRecord.isAnnotationType, agrees.flags, agrees.annotations]

end Classes

/-- The same configuration, and maps that agree on their surface. -/
structure Surroundings.Agrees (left right : Surroundings) : Prop where
  classes :
    left.classes.Agrees right.classes
  referenced :
    ClassMap.Agrees left.referenced right.referenced
  configuration :
    left.configuration = right.configuration

section Emission

variable {left right : Surroundings} {leftRecord rightRecord : ClassRecord}

/-- Surroundings that agree keep the same entries for nested classes. -/
theorem keepsInnerClass_eq (agrees : left.Agrees right) :
    left.keepsInnerClass = right.keepsInnerClass := by
  funext typeName marker
  rw [Surroundings.keepsInnerClass, Surroundings.keepsInnerClass,
    agrees.referenced.contains_eq]

/-- Classes that agree describe themselves as nested classes alike. -/
theorem ownInnerClass?_eq
    (agrees : left.Agrees right)
    (recordsAgree : leftRecord.Agrees rightRecord)
    (note : Annotation) :
    ownInnerClass? left leftRecord note = ownInnerClass? right rightRecord note := by
  rw [ownInnerClass?, ownInnerClass?, keepsInnerClass_eq agrees, internalName_eq recordsAgree,
    recordsAgree.typeName]

/-- Surroundings that agree describe the member classes of a class alike. -/
theorem memberInnerClass?_eq
    (agrees : left.Agrees right)
    (recordsAgree : leftRecord.Agrees rightRecord) :
    memberInnerClass? left leftRecord = memberInnerClass? right rightRecord := by
  funext memberType
  have related := agrees.classes memberType
  rw [memberInnerClass?, memberInnerClass?]
  generalize left.classes[memberType]? = leftMember at related
  generalize right.classes[memberType]? = rightMember at related
  cases related with
  | none => rfl
  | some membersAgree =>
      dsimp only
      rw [innerClassMarker?_eq membersAgree, keepsInnerClass_eq agrees,
        internalName_eq membersAgree, internalName_eq recordsAgree]

/-- Agreeing classes take an annotation into account in the same way. -/
theorem addAnnotationToClass_eq
    (agrees : left.Agrees right)
    (recordsAgree : leftRecord.Agrees rightRecord) :
    addAnnotationToClass left leftRecord = addAnnotationToClass right rightRecord := by
  funext tree note
  rw [addAnnotationToClass, addAnnotationToClass, ownInnerClass?_eq agrees recordsAgree,
    memberInnerClasses, memberInnerClasses, memberInnerClass?_eq agrees recordsAgree,
    recordsAgree.typeName]

/-- The emitted methods are found among the accessible ones. -/
theorem filter_isEmitted (record : ClassRecord) :
    record.methods.filter isEmitted = record.accessibleMethods.filter isEmitted := by
  rw [ClassRecord.accessibleMethods, List.filter_filter]
  apply List.filter_congr
  intro method member
  cases accessible : method.flags.isAccessible <;> simp [isEmitted, accessible]

/-- The emitted methods of agreeing accessible classes agree. -/
theorem forall₂_filter_isEmitted
    (recordsAgree : leftRecord.Agrees rightRecord)
    (accessible : leftRecord.flags.isAccessible = true) :
    List.Forall₂ MethodRecord.Agrees
      (leftRecord.methods.filter isEmitted) (rightRecord.methods.filter isEmitted) := by
  rw [filter_isEmitted, filter_isEmitted]
  refine List.rel_filter ?_ (recordsAgree.methods accessible)
  intro leftMethod rightMethod methodsAgree
  dsimp only
  rw [isEmitted_eq methodsAgree]

/-- Agreeing accessible classes are emitted in the same way. -/
theorem emitClass_eq
    (agrees : left.Agrees right)
    (recordsAgree : leftRecord.Agrees rightRecord)
    (accessible : leftRecord.flags.isAccessible = true) :
    emitClass left leftRecord = emitClass right rightRecord := by
  have sameMethods (defaults : AnnotationDefaults) :
      (leftRecord.methods.filter isEmitted).mapM (emitMethod left leftRecord defaults) =
        (rightRecord.methods.filter isEmitted).mapM (emitMethod right rightRecord defaults) :=
    mapM_eq_of_forall₂
      (fun _ _ methodsAgree =>
        emitMethod_eq agrees.configuration recordsAgree.superclass defaults methodsAgree)
      (forall₂_filter_isEmitted recordsAgree accessible)
  simp only [emitClass, sameMethods]
  rw [classHead_eq recordsAgree, addAnnotationToClass_eq agrees recordsAgree,
    emitField_eq agrees.configuration, annotationDefaults_eq recordsAgree,
    recordsAgree.annotations, recordsAgree.sourceFile, recordsAgree.fields accessible,
    agrees.configuration]

/-- Agreeing classes have the same stub or none. -/
theorem emitClass?_eq
    (agrees : left.Agrees right)
    (recordsAgree : leftRecord.Agrees rightRecord) :
    emitClass? left leftRecord = emitClass? right rightRecord := by
  cases inaccessible : leftRecord.flags.isInaccessible with
  | true => rw [emitClass?, emitClass?, ← recordsAgree.flags, if_pos inaccessible,
      if_pos inaccessible]
  | false =>
      have accessible : leftRecord.flags.isAccessible = true := by
        rw [AccessFlags.isAccessible, inaccessible]
        rfl
      rw [emitClass?, emitClass?, ← recordsAgree.flags, isHiddenNested_eq recordsAgree,
        emitClass_eq agrees recordsAgree accessible]

end Emission

end Stub

namespace Extraction

/--
Extraction from class maps that agree on their surface is one run: it gives the same tiers or the
same failure, and reports the same events.
-/
theorem transform_eq_of_agrees
    (configuration : Configuration)
    {left right : ClassMap}
    (agrees : left.Agrees right) :
    transform configuration left = transform configuration right := by
  have referencedAgrees := agrees.referenced
  have surroundingsAgree :
      Stub.Surroundings.Agrees
        { classes := left, referenced := left.referenced, configuration }
        { classes := right, referenced := right.referenced, configuration } :=
    ⟨agrees, referencedAgrees, rfl⟩
  have sameStubs (tiers : OutputTiers) :
      left.records.foldlM
          (enterStub { classes := left, referenced := left.referenced, configuration }) tiers =
        right.records.foldlM
          (enterStub { classes := right, referenced := right.referenced, configuration })
          tiers := by
    refine foldlM_eq_of_forall₂ ?_ agrees.forall₂_records tiers
    intro state leftRecord rightRecord recordsAgree
    rw [enterStub, enterStub, Stub.emitClass?_eq surroundingsAgree recordsAgree]
  have sameSkeletons (tiers : OutputTiers) :
      (left.referenced.toList.map Prod.snd).foldlM enterSkeleton tiers =
        (right.referenced.toList.map Prod.snd).foldlM enterSkeleton tiers := by
    refine foldlM_eq_of_forall₂ ?_ referencedAgrees.forall₂_records tiers
    intro state leftRecord rightRecord recordsAgree
    rw [enterSkeleton, enterSkeleton, Stub.skeleton?_eq recordsAgree]
  simp only [transform, emit, sameStubs, sameSkeletons, agrees.size_eq, referencedAgrees.size_eq]

/-- A public class with one public method, whose body has some opcodes, and some fields. -/
def widgetWith (opcodes : List UInt8) (fields : List FieldRecord) : ClassRecord :=
  { (default : ClassRecord) with
    typeName := "Lpkg/Widget;"
    flags := AccessFlags.publicBit
    fields
    methods := [
      { (default : MethodRecord) with
        name := "get"
        flags := AccessFlags.publicBit
        returnType := "Lpkg/Base;"
        body := some { registerCount := 1, opcodes, locals := [] } }] }

/-- A private field whose type is no type. -/
def privateField : FieldRecord :=
  { (default : FieldRecord) with name := "state", fieldType := "?", flags := 0x0002 }

/-- An inaccessible class with some methods. -/
def baseWith (methods : List MethodRecord) : ClassRecord :=
  { (default : ClassRecord) with typeName := "Lpkg/Base;", methods }

/-- Other opcodes, a private field and a method of an inaccessible class change nothing. -/
theorem transform_eq_of_agrees_widget :
    let left : ClassMap := ClassMap.insertAll ∅ [widgetWith [0x1d, 0x0f] [], baseWith []]
    let right : ClassMap :=
      ClassMap.insertAll ∅ [widgetWith [0x12, 0x1d, 0x0f] [privateField], baseWith [default]]
    left.Agrees right ∧ transform .standard left = transform .standard right := by
  intro left right
  have methodsAgree :
      List.Forall₂ MethodRecord.Agrees
        (widgetWith [0x1d, 0x0f] []).accessibleMethods
        (widgetWith [0x12, 0x1d, 0x0f] [privateField]).accessibleMethods :=
    .cons ⟨rfl, rfl, rfl, rfl, rfl, rfl, rfl, .some ⟨rfl, rfl, rfl⟩⟩ .nil
  have widgetsAgree :
      (widgetWith [0x1d, 0x0f] []).Agrees (widgetWith [0x12, 0x1d, 0x0f] [privateField]) :=
    ⟨rfl, rfl, rfl, rfl, rfl, rfl, fun _ => rfl, fun _ => methodsAgree⟩
  have basesAgree : (baseWith []).Agrees (baseWith [default]) :=
    ⟨rfl, rfl, rfl, rfl, rfl, rfl, fun accessible => absurd accessible (by decide),
      fun accessible => absurd accessible (by decide)⟩
  have agrees : left.Agrees right :=
    (ClassMap.Agrees.empty.insert "Lpkg/Widget;" widgetsAgree).insert "Lpkg/Base;" basesAgree
  exact ⟨agrees, transform_eq_of_agrees .standard agrees⟩

end Extraction

end DexSurface
