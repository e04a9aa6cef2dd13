import DexSurface.Extraction
import DexSurface.Proofs.GivenValues
import DexSurface.Proofs.Output.SteadyRun

namespace DexSurface

/-!
# What emission does apart from its trees

Emitting a stub is steady: it looks at no journal, and it reports missing member classes and
untransformed records only.  An emitted tree has the name of its class.
-/

/-- An event that does not say that a class file was replaced. -/
def Event.IsQuiet : Event → Prop
  | .stubReplaced _ | .stubRemoved _ | .skeletonReplaced _ => False
  | _ => True

/-- A metadata error is the only thing that is passed on differently. -/
theorem RunError.ofRecord_eq_ok_iff {result : Except RecordError α} {value : α} :
    RunError.ofRecord result = .ok value ↔ result = .ok value := by
  cases result with
  | ok given =>
      change Except.ok given = Except.ok value ↔ Except.ok given = Except.ok value
      rw [Except.ok.injEq, Except.ok.injEq]
  | error error =>
      constructor
      · intro isOk
        cases isOk
      · intro isOk
        cases isOk

namespace Stub

open ClassFile (AnnotationTree ClassTree InnerClass)

variable {surroundings : Surroundings} {record : ClassRecord}

/-! Metadata of a class is only reported on. -/

section Metadata

variable {holds : {α : Type} → Run α → Prop}

/-- Describing one member class has every property that quiet sequences keep. -/
theorem holds_memberInnerClass?
    (compositional : Run.IsCompositional Event.IsQuiet holds)
    (memberType : TypeDescriptor) :
    holds (memberInnerClass? surroundings record memberType) := by
  rw [memberInnerClass?]
  split
  · exact compositional.bind (compositional.of_report trivial) fun _ => compositional.of_pure none
  · refine compositional.bind (compositional.of_lift _) fun marker? => ?_
    cases marker? with
    | none => exact compositional.of_pure none
    | some marker =>
        dsimp only
        split <;> exact compositional.of_pure _

/-- Describing all member classes has every property that quiet sequences keep. -/
theorem holds_memberInnerClasses
    (compositional : Run.IsCompositional Event.IsQuiet holds)
    (note : Annotation) :
    holds (memberInnerClasses surroundings record note) := by
  refine compositional.bind (compositional.of_lift _) fun members => ?_
  refine compositional.filterMapM (fun member => ?_) members
  exact compositional.bind (compositional.of_lift _) (holds_memberInnerClass? compositional)

/-- Taking an annotation into account has every property that quiet sequences keep. -/
theorem holds_addAnnotationToClass
    (compositional : Run.IsCompositional Event.IsQuiet holds)
    (tree : ClassTree)
    (note : Annotation) :
    holds (addAnnotationToClass surroundings record tree note) := by
  have lifted {α : Type} (result : Except RunError α) (change : α → ClassTree) :
      holds (do return change (← Run.lift result)) := by
    refine compositional.bind (compositional.of_lift result) fun value => ?_
    exact compositional.of_pure _
  simp only [addAnnotationToClass]
  split
  · exact lifted _ _
  split
  · exact lifted _ _
  split
  · refine compositional.bind (holds_memberInnerClasses compositional note) fun members => ?_
    exact compositional.of_pure _
  split
  · exact lifted _ _
  split
  · refine compositional.bind (compositional.of_report trivial) fun _ => ?_
    exact compositional.of_pure _
  split
  · exact compositional.of_pure _
  · exact lifted _ _

end Metadata

/-! Steadiness follows the structure of each emitting run. -/

/-- Noting a restriction depends on no journal and reports nothing. -/
theorem isSteady_noteRestriction (categories : HiddenApi.Categories) :
    Run.IsSteady Event.IsQuiet (surroundings.noteRestriction categories) := by
  rw [Surroundings.noteRestriction]
  split
  · exact Run.isSteady_noteRestriction
  · exact Run.isSteady_pure ()

/-- Emitting a field depends on no journal and reports nothing but quiet events. -/
theorem isSteady_emitField (field : FieldRecord) :
    Run.IsSteady Event.IsQuiet (emitField surroundings field) := by
  apply (Run.isSteady_lift _).bind
  intro tree
  exact (isSteady_noteRestriction field.hiddenApi).bind fun _ => Run.isSteady_pure tree

/-- Emitting a method depends on no journal and reports nothing but quiet events. -/
theorem isSteady_emitMethod (defaults : AnnotationDefaults) (method : MethodRecord) :
    Run.IsSteady Event.IsQuiet (emitMethod surroundings record defaults method) := by
  apply (Run.isSteady_lift _).bind
  intro head
  exact (isSteady_noteRestriction method.hiddenApi).bind fun _ => Run.isSteady_lift _

/-- Emitting a class depends on no journal and reports nothing but quiet events. -/
theorem isSteady_emitClass : Run.IsSteady Event.IsQuiet (emitClass surroundings record) := by
  apply (Run.isSteady_lift _).bind
  intro head
  have compositional : Run.IsCompositional Event.IsQuiet (Run.IsSteady Event.IsQuiet) :=
    Run.isCompositional_isSteady
  apply (compositional.foldlM (holds_addAnnotationToClass compositional) _ _).bind
  intro tree
  apply (compositional.mapM isSteady_emitField _).bind
  intro fields
  apply (Run.isSteady_lift _).bind
  intro defaults
  apply (compositional.mapM (isSteady_emitMethod defaults) _).bind
  intro methods
  exact Run.isSteady_pure _

/-- Emitting the stub of a class, if it has one, is steady and reports no replaced class file. -/
theorem isSteady_emitClass? : Run.IsSteady Event.IsQuiet (emitClass? surroundings record) := by
  rw [emitClass?]
  split
  · exact Run.isSteady_pure none
  · apply (Run.isSteady_lift _).bind
    intro isHidden
    cases isHidden with
    | true => exact Run.isSteady_pure none
    | false => exact isSteady_emitClass.map some

/-! What single steps can give. -/

/-- A lifted result gives only its own value. -/
theorem canGive_lift
    {result : Except RunError α}
    {value : α}
    (given : CanGive (Run.lift result) value) :
    result = .ok value := by
  obtain ⟨before, after, lifted⟩ := given
  exact (Run.lift_eq_ok_iff.mp lifted).1

/-- A lifted result of reading a record gives only its own value. -/
theorem canGive_ofRecord
    {result : Except RecordError α}
    {value : α}
    (given : CanGive (Run.lift (RunError.ofRecord result)) value) :
    result = .ok value :=
  RunError.ofRecord_eq_ok_iff.mp (canGive_lift given)

/-- What becomes of a class when one of its annotations is taken into account. -/
inductive TakesNote
    (surroundings : Surroundings)
    (record : ClassRecord)
    (tree : ClassTree)
    (note : Annotation) : ClassTree → Prop where
  | enclosing {method : ClassFile.EnclosingMethod} :
      note.annotationType = Platform.enclosingMethod →
      enclosingMethod note = .ok method →
      TakesNote surroundings record tree note { tree with enclosingMethod := some method }
  | nested {own? : Option InnerClass} :
      note.annotationType = Platform.innerClass →
      ownInnerClass? surroundings record note = .ok own? →
      TakesNote surroundings record tree note
        { tree with innerClasses := tree.innerClasses ++ own?.toList }
  | members {entries : List InnerClass} :
      note.annotationType = Platform.memberClasses →
      CanGive (memberInnerClasses surroundings record note) entries →
      TakesNote surroundings record tree note
        { tree with innerClasses := tree.innerClasses ++ entries }
  | permitted {subclasses : List InternalName} :
      note.annotationType = Platform.permittedSubclasses →
      permittedSubclasses note = .ok subclasses →
      TakesNote surroundings record tree note { tree with permittedSubclasses := subclasses }
  | leftOut :
      note.annotationType ∈ reservedOnClasses →
      note.annotationType ≠ Platform.innerClass →
      note.annotationType ≠ Platform.memberClasses →
      TakesNote surroundings record tree note tree
  | kept {translated : AnnotationTree} :
      note.annotationType ∉ reservedOnClasses →
      annotationTree note = .ok translated →
      TakesNote surroundings record tree note
        { tree with
          annotations := tree.annotations.add translated note.visibility.isRuntimeVisible }

/-- An annotation that was taken into account changes a class in one of the known ways. -/
theorem takesNote_of_addAnnotationToClass
    {tree result : ClassTree}
    {note : Annotation}
    (given : CanGive (addAnnotationToClass surroundings record tree note) result) :
    TakesNote surroundings record tree note result := by
  simp only [addAnnotationToClass] at given
  split at given
  · next isMethod =>
      obtain ⟨_, methodGiven, same⟩ := isGiving_state.of_bind given
      obtain rfl := isGiving_state.of_pure same
      exact .enclosing isMethod (canGive_ofRecord methodGiven)
  split at given
  · next isMarker =>
      obtain ⟨_, ownGiven, same⟩ := isGiving_state.of_bind given
      obtain rfl := isGiving_state.of_pure same
      exact .nested isMarker (canGive_ofRecord ownGiven)
  split at given
  · next isList =>
      obtain ⟨_, entriesGiven, same⟩ := isGiving_state.of_bind given
      obtain rfl := isGiving_state.of_pure same
      exact .members isList entriesGiven
  split at given
  · next isPermitted =>
      obtain ⟨_, subclassesGiven, same⟩ := isGiving_state.of_bind given
      obtain rfl := isGiving_state.of_pure same
      exact .permitted isPermitted (canGive_ofRecord subclassesGiven)
  split at given
  · next noMarker noList _ isRecord =>
      obtain ⟨_, -, same⟩ := isGiving_state.of_bind given
      obtain rfl := isGiving_state.of_pure same
      exact .leftOut (by rw [isRecord]; decide) noMarker noList
  split at given
  · next noMarker noList _ _ isReserved =>
      obtain rfl := isGiving_state.of_pure given
      exact .leftOut (List.contains_iff_mem.mp isReserved) noMarker noList
  · next isKept =>
      obtain ⟨_, translated, same⟩ := isGiving_state.of_bind given
      obtain rfl := isGiving_state.of_pure same
      exact .kept (fun reserved => isKept (List.contains_iff_mem.mpr reserved))
        (canGive_lift translated)

/-! The name of a tree is set with its head and never changed. -/

variable {before after : Journal}

/-- The head of an emitted class has the internal name of the class. -/
theorem classHead_name {tree : ClassTree} (succeeded : classHead record = .ok tree) :
    tree.name = record.internalName := by
  rw [classHead] at succeeded
  cases signature : record.annotations.genericSignature? with
  | error error =>
      rw [signature] at succeeded
      cases succeeded
  | ok value =>
      rw [signature] at succeeded
      cases succeeded
      rfl

/-- Taking an annotation into account keeps the name of a class. -/
theorem addAnnotationToClass_name
    {tree changed : ClassTree}
    {note : Annotation}
    (succeeded : addAnnotationToClass surroundings record tree note before = .ok changed after) :
    changed.name = tree.name := by
  cases takesNote_of_addAnnotationToClass ⟨before, after, succeeded⟩ <;> rfl

/-- Taking all annotations into account keeps the name of a class. -/
theorem foldlM_addAnnotationToClass_name
    (annotations : Annotations)
    {tree changed : ClassTree}
    (succeeded :
      annotations.foldlM (addAnnotationToClass surroundings record) tree before
        = .ok changed after) :
    changed.name = tree.name := by
  induction annotations generalizing tree before with
  | nil =>
      rw [List.foldlM_nil] at succeeded
      rw [(Run.pure_eq_ok_iff.mp succeeded).1]
  | cons first rest inductionHypothesis =>
      rw [List.foldlM_cons] at succeeded
      obtain ⟨middleTree, middle, firstSucceeded, restSucceeded⟩ := Run.bind_eq_ok_iff.mp succeeded
      rw [inductionHypothesis restSucceeded, addAnnotationToClass_name firstSucceeded]

/-- An emitted class has the internal name of its source. -/
theorem emitClass_name
    {tree : ClassTree}
    (succeeded : emitClass surroundings record before = .ok tree after) :
    tree.name = record.internalName := by
  rw [emitClass] at succeeded
  obtain ⟨head, _, headGiven, rest⟩ := Run.bind_eq_ok_iff.mp succeeded
  obtain ⟨marked, _, notesAdded, rest⟩ := Run.bind_eq_ok_iff.mp rest
  obtain ⟨fields, _, -, rest⟩ := Run.bind_eq_ok_iff.mp rest
  obtain ⟨defaults, _, -, rest⟩ := Run.bind_eq_ok_iff.mp rest
  obtain ⟨methods, _, -, given⟩ := Run.bind_eq_ok_iff.mp rest
  rw [← (Run.pure_eq_ok_iff.mp given).1]
  have headResult := RunError.ofRecord_eq_ok_iff.mp (Run.lift_eq_ok_iff.mp headGiven).1
  have sameName := foldlM_addAnnotationToClass_name _ notesAdded
  have headName := classHead_name headResult
  exact sameName.trans headName

/-- Only accessible classes that are not hidden have stubs, and a stub has the name of its class. -/
theorem emitClass?_eq_some
    {tree : ClassTree}
    (succeeded : emitClass? surroundings record before = .ok (some tree) after) :
    record.flags.isAccessible = true
      ∧ isHiddenNested record = .ok false
      ∧ tree.name = record.internalName := by
  rw [emitClass?] at succeeded
  split at succeeded
  · cases (Run.pure_eq_ok_iff.mp succeeded).1
  · next accessible =>
      obtain ⟨isHidden, _, hiddenGiven, emitted⟩ := Run.bind_eq_ok_iff.mp succeeded
      have hiddenResult := RunError.ofRecord_eq_ok_iff.mp (Run.lift_eq_ok_iff.mp hiddenGiven).1
      cases isHidden with
      | true => cases (Run.pure_eq_ok_iff.mp emitted).1
      | false =>
          rw [if_neg Bool.false_ne_true, map_eq_pure_bind] at emitted
          obtain ⟨given, _, givenByClass, same⟩ := Run.bind_eq_ok_iff.mp emitted
          obtain rfl := Option.some.inj (Run.pure_eq_ok_iff.mp same).1
          refine ⟨?_, hiddenResult, emitClass_name givenByClass⟩
          rw [AccessFlags.isAccessible, Bool.eq_false_iff.mpr accessible, Bool.not_false]

/-- A class without a stub is inaccessible or hidden. -/
theorem emitClass?_eq_none
    (succeeded : emitClass? surroundings record before = .ok none after) :
    record.flags.isAccessible = false ∨ isHiddenNested record = .ok true := by
  rw [emitClass?] at succeeded
  split at succeeded
  · next inaccessible =>
      rw [AccessFlags.isAccessible, inaccessible]
      exact Or.inl rfl
  · obtain ⟨isHidden, _, hiddenGiven, emitted⟩ := Run.bind_eq_ok_iff.mp succeeded
    have hiddenResult := RunError.ofRecord_eq_ok_iff.mp (Run.lift_eq_ok_iff.mp hiddenGiven).1
    cases isHidden with
    | true => exact Or.inr hiddenResult
    | false =>
        rw [if_neg Bool.false_ne_true, map_eq_pure_bind] at emitted
        obtain ⟨_, _, -, same⟩ := Run.bind_eq_ok_iff.mp emitted
        cases (Run.pure_eq_ok_iff.mp same).1

/-- A skeleton has the name of its class, which is not hidden. -/
theorem skeleton?_eq_some
    {tree : ClassTree}
    (succeeded : skeleton? record = .ok (some tree)) :
    isHiddenNested record = .ok false ∧ tree.name = record.internalName := by
  rw [skeleton?] at succeeded
  cases hidden : isHiddenNested record with
  | error error =>
      rw [hidden] at succeeded
      cases succeeded
  | ok isHidden =>
      rw [hidden] at succeeded
      cases isHidden with
      | true => cases succeeded
      | false =>
          cases headResult : classHead record with
          | error error =>
              rw [headResult] at succeeded
              cases succeeded
          | ok head =>
              rw [headResult] at succeeded
              cases succeeded
              exact ⟨rfl, classHead_name headResult⟩

/-- A class without a skeleton is hidden. -/
theorem skeleton?_eq_none (succeeded : skeleton? record = .ok none) :
    isHiddenNested record = .ok true := by
  rw [skeleton?] at succeeded
  cases hidden : isHiddenNested record with
  | error error =>
      rw [hidden] at succeeded
      cases succeeded
  | ok isHidden =>
      rw [hidden] at succeeded
      cases isHidden with
      | true => rfl
      | false =>
          cases headResult : classHead record with
          | error error =>
              rw [headResult] at succeeded
              cases succeeded
          | ok head =>
              rw [headResult] at succeeded
              cases succeeded

end Stub

end DexSurface
