import DexSurface.Proofs.Dex.DraftMeaning
import DexSurface.Proofs.Dex.StableEntries

namespace DexSurface

namespace Dex

/-!
# Numbered classes denote their drafts

Writing values, annotations and debug information is stable, and so is numbering whole classes.  A
class whose numbers are settled therefore denotes its draft part by part.
-/

open Dex.Numbering (IsStable Settles isStable_pure)

variable {tables : EntryTables}

mutual

/-- Encoding a value is stable. -/
theorem isStable_valueBytes : (draft : ValueDraft) → IsStable (valueBytes draft)
  | .boolean _ => isStable_pure _
  | .byte _ => isStable_pure _
  | .char _ => isStable_pure _
  | .int _ => isStable_pure _
  | .long _ => isStable_pure _
  | .float _ => isStable_pure _
  | .double _ => isStable_pure _
  | .methodType => isStable_pure _
  | .null => isStable_pure _
  | .string text => (Numbering.isStable_string text).map _
  | .type descriptor => (Numbering.isStable_typeName descriptor).map _
  | .enum constant => (Numbering.isStable_field constant).map _
  | .array values => (isStable_valuesBytes values).bind fun stored => isStable_pure _
  | .nested annotationType elements => by
      refine (Numbering.isStable_typeName annotationType).bind fun typeIndex => ?_
      exact (isStable_elementsBytes elements).bind fun stored => isStable_pure _

/-- Encoding the values of an array is stable. -/
theorem isStable_valuesBytes : (drafts : List ValueDraft) → IsStable (valuesBytes drafts)
  | [] => isStable_pure _
  | first :: rest => by
      refine (isStable_valueBytes first).bind fun value => ?_
      exact (isStable_valuesBytes rest).bind fun values => isStable_pure _

/-- Encoding the elements of an annotation is stable. -/
theorem isStable_elementsBytes :
    (drafts : List (String × ValueDraft)) → IsStable (elementsBytes drafts)
  | [] => isStable_pure _
  | (name, first) :: rest => by
      refine (Numbering.isStable_string name).bind fun nameIndex => ?_
      refine (isStable_valueBytes first).bind fun value => ?_
      exact (isStable_elementsBytes rest).bind fun elements => isStable_pure _

end

/-- Encoding an annotation is stable. -/
theorem isStable_annotationBytes (draft : AnnotationDraft) : IsStable draft.bytes := by
  refine (Numbering.isStable_typeName _).bind fun typeIndex => ?_
  exact (isStable_elementsBytes _).bind fun stored => isStable_pure _

/-- Encoding the name of a parameter is stable. -/
theorem isStable_parameterNameBytes (name? : Option String) :
    IsStable (parameterNameBytes name?) := by
  cases name? with
  | none => exact isStable_pure _
  | some name => exact (Numbering.isStable_string name).map _

/-- Encoding a debug event is stable. -/
theorem isStable_eventBytes (event : DebugEvent) : IsStable event.bytes := by
  cases event with
  | advanceAddress amount => exact isStable_pure _
  | endLocal register => exact isStable_pure _
  | startLocal register name localType =>
      refine (Numbering.isStable_string name).bind fun nameIndex => ?_
      exact (Numbering.isStable_typeName localType).bind fun typeIndex => isStable_pure _
  | startLocalExtended register name localType signature =>
      refine (Numbering.isStable_string name).bind fun nameIndex => ?_
      refine (Numbering.isStable_typeName localType).bind fun typeIndex => ?_
      exact (Numbering.isStable_string signature).bind fun signatureIndex => isStable_pure _

/-- Encoding the names of parameters is stable. -/
theorem isStable_parameterNames (names : List (Option String)) :
    IsStable (names.mapM parameterNameBytes) :=
  Numbering.isStable_listMapM names fun name _ => isStable_parameterNameBytes name

/-- Encoding debug events is stable. -/
theorem isStable_events (events : List DebugEvent) : IsStable (events.mapM DebugEvent.bytes) :=
  Numbering.isStable_listMapM events fun event _ => isStable_eventBytes event

/-- Encoding debug information is stable. -/
theorem isStable_debugBytes (draft : DebugDraft) : IsStable draft.bytes := by
  refine (isStable_parameterNames _).bind fun names => ?_
  exact (isStable_events _).bind fun events => isStable_pure _

/-- Encoding a fragment is stable, whatever it is. -/
theorem isStable_fragmentBytes (fragment : Fragment) : IsStable fragment.bytes := by
  cases fragment with
  | value draft => exact isStable_valueBytes draft
  | note draft => exact isStable_annotationBytes draft
  | debugInfo draft => exact isStable_debugBytes draft

namespace Numbering

/-- Encoding annotations is stable. -/
theorem isStable_annotationItems (drafts : List AnnotationDraft) :
    IsStable (annotationItems drafts) :=
  isStable_listMapM drafts fun draft _ => isStable_annotationBytes draft

/-- Encoding a body is stable. -/
theorem isStable_numberedBody (draft : BodyDraft) : IsStable (numberedBody draft) :=
  (isStable_optionMapM isStable_debugBytes _).bind fun _ => isStable_pure _

/-- Encoding the annotations of parameters is stable. -/
theorem isStable_parameterItems (drafts : List (List AnnotationDraft)) :
    IsStable (drafts.mapM annotationItems) :=
  isStable_listMapM drafts fun draft _ => isStable_annotationItems draft

/-- Encoding the parts of a method is stable. -/
theorem isStable_methodParts (draft : MethodDraft) : IsStable (methodParts draft) := by
  refine (isStable_annotationItems _).bind fun annotations => ?_
  refine (isStable_parameterItems _).bind fun parameterAnnotations => ?_
  exact (isStable_optionMapM isStable_numberedBody _).bind fun body => isStable_pure _

/-- Numbering a field of a class is stable. -/
theorem isStable_numberedField
    (definingClass : TypeDescriptor)
    (draft : FieldDraft)
    (annotations : List Item) :
    IsStable (numberedField definingClass draft annotations) :=
  (isStable_field _).bind fun _ => isStable_pure _

/-- Numbering a method of a class is stable. -/
theorem isStable_numberedMethod
    (definingClass : TypeDescriptor)
    (draft : MethodDraft)
    (parts : MethodParts) :
    IsStable (numberedMethod definingClass draft parts) :=
  (isStable_method _).bind fun _ => isStable_pure _

/-- A relation between optional values follows from a narrower one. -/
theorem optionRel_imp
    {first second : α → β → Prop}
    (implies : ∀ element value, first element value → second element value)
    {element? : Option α}
    {value? : Option β}
    (related : Option.Rel first element? value?) :
    Option.Rel second element? value? := by
  rcases related with ⟨holds⟩ | _
  · exact .some (implies _ _ holds)
  · exact .none

/-! Items that belong to drafts. -/

/-- Items are those of annotations, for a way to tell the item of a fragment. -/
def MatchNotes
    (belongs : Fragment → Item → Prop)
    (drafts : List AnnotationDraft)
    (items : List Item) : Prop :=
  List.Forall₂ (fun draft item => belongs (.note draft) item) drafts items

/-- A numbered body is that of a draft, for a way to tell the item of a fragment. -/
structure MatchBody
    (belongs : Fragment → Item → Prop)
    (draft : BodyDraft)
    (entry : NumberedBody) : Prop where
  registerCount : entry.registerCount = draft.registerCount
  units : entry.units = draft.units
  debug : Option.Rel (fun debug item => belongs (.debugInfo debug) item) draft.debug entry.debug

/-- The parts of a method are those of a draft, for a way to tell the item of a fragment. -/
structure MatchParts
    (belongs : Fragment → Item → Prop)
    (draft : MethodDraft)
    (parts : MethodParts) : Prop where
  annotations : MatchNotes belongs draft.annotations parts.annotations
  parameterAnnotations :
    List.Forall₂ (MatchNotes belongs) draft.parameterAnnotations parts.parameterAnnotations
  body : Option.Rel (MatchBody belongs) draft.body parts.body

/-- The items of a class are those of a draft, for a way to tell the item of a fragment. -/
structure MatchItems
    (belongs : Fragment → Item → Prop)
    (draft : ClassDraft)
    (items : ClassItems) : Prop where
  annotations : MatchNotes belongs draft.annotations items.annotations
  staticFields :
    List.Forall₂ (fun field => MatchNotes belongs field.annotations)
      draft.staticFields items.staticFields
  instanceFields :
    List.Forall₂ (fun field => MatchNotes belongs field.annotations)
      draft.instanceFields items.instanceFields
  directMethods : List.Forall₂ (MatchParts belongs) draft.directMethods items.directMethods
  virtualMethods : List.Forall₂ (MatchParts belongs) draft.virtualMethods items.virtualMethods
  staticValues :
    List.Forall₂ (fun value item => belongs (.value value) item)
      draft.staticValues items.staticValues

section Implication

variable
  {belongs others : Fragment → Item → Prop}
  (implies : ∀ fragment item, belongs fragment item → others fragment item)

include implies

/-- Items of annotations are so for every wider way to tell the item of a fragment. -/
theorem MatchNotes.imp
    {drafts : List AnnotationDraft}
    {items : List Item}
    (matched : MatchNotes belongs drafts items) :
    MatchNotes others drafts items :=
  List.Forall₂.imp (fun draft item => implies (.note draft) item) matched

/-- The parts of a method are so for every wider way to tell the item of a fragment. -/
theorem MatchParts.imp
    {draft : MethodDraft}
    {parts : MethodParts}
    (matched : MatchParts belongs draft parts) :
    MatchParts others draft parts where
  annotations := matched.annotations.imp implies
  parameterAnnotations := matched.parameterAnnotations.imp fun _ _ notes => notes.imp implies
  body := by
    refine optionRel_imp (fun body entry bodyMatches => ?_) matched.body
    refine ⟨bodyMatches.registerCount, bodyMatches.units, ?_⟩
    exact optionRel_imp (fun debug item => implies (.debugInfo debug) item) bodyMatches.debug

/-- The items of a class are so for every wider way to tell the item of a fragment. -/
theorem MatchItems.imp
    {draft : ClassDraft}
    {items : ClassItems}
    (matched : MatchItems belongs draft items) :
    MatchItems others draft items where
  annotations := matched.annotations.imp implies
  staticFields := matched.staticFields.imp fun _ _ notes => notes.imp implies
  instanceFields := matched.instanceFields.imp fun _ _ notes => notes.imp implies
  directMethods := matched.directMethods.imp fun _ _ parts => parts.imp implies
  virtualMethods := matched.virtualMethods.imp fun _ _ parts => parts.imp implies
  staticValues := matched.staticValues.imp fun value item => implies (.value value) item

end Implication

/-- An item is what a fragment is encoded as in some tables, which need no further entry for it. -/
def IsSettled (tables : EntryTables) (fragment : Fragment) (item : Item) : Prop :=
  Settles tables fragment.bytes item

/-! What a numbered class denotes. -/

/-- A numbered field denotes a field of a class. -/
structure DenotesField
    (tables : EntryTables)
    (definingClass : TypeDescriptor)
    (draft : FieldDraft)
    (entry : NumberedField) : Prop where
  index : Settles tables (field (draft.reference definingClass)) entry.index
  flags : entry.flags = draft.flags
  annotations : MatchNotes (IsSettled tables) draft.annotations entry.annotations

/-- A numbered method denotes a method of a class. -/
structure DenotesMethod
    (tables : EntryTables)
    (definingClass : TypeDescriptor)
    (draft : MethodDraft)
    (entry : NumberedMethod) : Prop where
  index : Settles tables (method (draft.reference definingClass)) entry.index
  flags : entry.flags = draft.flags
  annotations : MatchNotes (IsSettled tables) draft.annotations entry.annotations
  parameterAnnotations :
    List.Forall₂ (MatchNotes (IsSettled tables)) draft.parameterAnnotations
      entry.parameterAnnotations
  body : Option.Rel (MatchBody (IsSettled tables)) draft.body entry.body

/-- A numbered class denotes a class. -/
structure Denotes (tables : EntryTables) (draft : ClassDraft) (entry : NumberedClass) : Prop where
  typeIndex : Settles tables (typeName draft.typeName) entry.typeIndex
  flags : entry.flags = draft.flags
  superclass :
    Option.Rel (fun descriptor index => Settles tables (typeName descriptor) index)
      draft.superclass entry.superclass
  interfaces : Settles tables (draft.interfaces.mapM typeName) entry.interfaces
  sourceFile :
    Option.Rel (fun text index => Settles tables (string text) index)
      draft.sourceFile entry.sourceFile
  annotations : MatchNotes (IsSettled tables) draft.annotations entry.annotations
  staticFields :
    List.Forall₂ (DenotesField tables draft.typeName) draft.staticFields entry.staticFields
  instanceFields :
    List.Forall₂ (DenotesField tables draft.typeName) draft.instanceFields entry.instanceFields
  directMethods :
    List.Forall₂ (DenotesMethod tables draft.typeName) draft.directMethods entry.directMethods
  virtualMethods :
    List.Forall₂ (DenotesMethod tables draft.typeName) draft.virtualMethods entry.virtualMethods
  staticValues :
    List.Forall₂ (fun value item => Settles tables (valueBytes value) item)
      draft.staticValues entry.staticValues
  restrictions : entry.restrictions = draft.restrictions

/-- A run on an element that may be absent settles as the run on the element does. -/
theorem settles_optionMapM_iff
    {item : α → Numbering β}
    (stable : ∀ element, IsStable (item element))
    {element? : Option α}
    {value? : Option β} :
    Settles tables (element?.mapM item) value?
      ↔ Option.Rel (fun element value => Settles tables (item element) value) element? value? := by
  cases element? with
  | none =>
      change Settles tables (pure none) value? ↔ _
      rw [settles_pure_iff]
      constructor
      · rintro rfl
        exact .none
      · rintro ⟨⟩
        rfl
  | some element =>
      change Settles tables (some <$> item element) value? ↔ _
      rw [settles_map_iff (stable element)]
      constructor
      · rintro ⟨value, settled, rfl⟩
        exact .some settled
      · rintro (⟨settled⟩ | _)
        exact ⟨_, settled, rfl⟩

/-- Two relations in a row are joined when the second one is about the zipped lists. -/
theorem forall₂_of_zip
    {first : α → β → Prop}
    {second : α × β → γ → Prop}
    {joined : α → γ → Prop}
    (join : ∀ element middle result,
      first element middle → second (element, middle) result → joined element result)
    {elements : List α}
    {middles : List β}
    {results : List γ}
    (firstHolds : List.Forall₂ first elements middles)
    (secondHolds : List.Forall₂ second (elements.zip middles) results) :
    List.Forall₂ joined elements results := by
  induction firstHolds generalizing results with
  | nil =>
      cases secondHolds
      exact .nil
  | cons holds rest inductionHypothesis =>
      rw [List.zip_cons_cons] at secondHolds
      cases secondHolds with
      | cons secondHolds others =>
          exact .cons (join _ _ _ holds secondHolds) (inductionHypothesis others)

/-- A stable computation whose settled value has a property. -/
def Ensures (tables : EntryTables) (run : Numbering α) (holds : α → Prop) : Prop :=
  IsStable run ∧ ∀ value, Settles tables run value → holds value

/-- A value with a property settles at once. -/
theorem ensures_pure {value : α} {holds : α → Prop} (isHeld : holds value) :
    Ensures tables (pure value) holds := by
  refine ⟨isStable_pure value, fun result settled => ?_⟩
  rw [← settles_pure_iff.mp settled]
  exact isHeld

/-- What follows a step may use that the value of the step is settled. -/
theorem ensures_bind
    {run : Numbering α}
    {next : α → Numbering β}
    {holds : β → Prop}
    (stable : IsStable run)
    (nextEnsures : ∀ value,
      Ensures tables (next value) fun result => Settles tables run value → holds result) :
    Ensures tables (run >>= next) holds := by
  have nextStable : ∀ value, IsStable (next value) := fun value => (nextEnsures value).1
  refine ⟨stable.bind nextStable, fun result settled => ?_⟩
  rw [settles_bind_iff stable nextStable] at settled
  obtain ⟨value, valueSettled, nextSettled⟩ := settled
  exact (nextEnsures value).2 result nextSettled valueSettled

/-- Changing a settled value gives one with a property that follows. -/
theorem ensures_map
    {run : Numbering α}
    {change : α → β}
    {holds : β → Prop}
    (stable : IsStable run)
    (isHeld : ∀ value, Settles tables run value → holds (change value)) :
    Ensures tables (change <$> run) holds := by
  rw [map_eq_pure_bind]
  exact ensures_bind stable fun value => ensures_pure (isHeld value)

/-! Items that are settled belong to their drafts, and the other way round. -/

/-- The items of annotations are settled if each of them is. -/
theorem settles_annotationItems_iff {drafts : List AnnotationDraft} {items : List Item} :
    Settles tables (annotationItems drafts) items ↔ MatchNotes (IsSettled tables) drafts items :=
  settles_listMapM_iff fun draft _ => isStable_annotationBytes draft

/-- A numbered body is settled if its debug information is. -/
theorem settles_numberedBody_iff {draft : BodyDraft} {entry : NumberedBody} :
    Settles tables (numberedBody draft) entry ↔ MatchBody (IsSettled tables) draft entry := by
  constructor
  · intro settled
    have ensured : Ensures tables (numberedBody draft) (MatchBody (IsSettled tables) draft) := by
      refine ensures_bind (isStable_optionMapM isStable_debugBytes _) fun debug => ?_
      refine ensures_pure fun debugSettled => ?_
      exact ⟨rfl, rfl, (settles_optionMapM_iff isStable_debugBytes).mp debugSettled⟩
    exact ensured.2 entry settled
  · rintro ⟨sameCount, sameUnits, debugMatches⟩
    have debugSettled : Settles tables (draft.debug.mapM DebugDraft.bytes) entry.debug :=
      (settles_optionMapM_iff isStable_debugBytes).mpr debugMatches
    refine debugSettled.bind ?_
    rw [← sameCount, ← sameUnits]
    rfl

/-- The parts of a method are settled if their items are. -/
theorem settles_methodParts_iff {draft : MethodDraft} {parts : MethodParts} :
    Settles tables (methodParts draft) parts ↔ MatchParts (IsSettled tables) draft parts := by
  constructor
  · intro settled
    have ensured : Ensures tables (methodParts draft) (MatchParts (IsSettled tables) draft) := by
      refine ensures_bind (isStable_annotationItems _) fun annotations => ?_
      refine ensures_bind (isStable_parameterItems _) fun parameterAnnotations => ?_
      refine ensures_bind (isStable_optionMapM isStable_numberedBody _) fun body => ?_
      refine ensures_pure fun bodySettled parametersSettled annotationsSettled => ?_
      refine ⟨settles_annotationItems_iff.mp annotationsSettled, ?_, ?_⟩
      · rw [settles_listMapM_iff fun notes _ => isStable_annotationItems notes]
          at parametersSettled
        exact parametersSettled.imp fun notes items => settles_annotationItems_iff.mp
      · rw [settles_optionMapM_iff isStable_numberedBody] at bodySettled
        exact optionRel_imp (fun _ _ => settles_numberedBody_iff.mp) bodySettled
    exact ensured.2 parts settled
  · rintro ⟨notesMatch, parametersMatch, bodyMatches⟩
    have parametersSettled :
        Settles tables (draft.parameterAnnotations.mapM annotationItems)
          parts.parameterAnnotations := by
      rw [settles_listMapM_iff fun notes _ => isStable_annotationItems notes]
      exact parametersMatch.imp fun notes items => settles_annotationItems_iff.mpr
    have bodySettled : Settles tables (draft.body.mapM numberedBody) parts.body := by
      rw [settles_optionMapM_iff isStable_numberedBody]
      exact optionRel_imp (fun _ _ => settles_numberedBody_iff.mpr) bodyMatches
    refine (settles_annotationItems_iff.mpr notesMatch).bind ?_
    exact parametersSettled.bind (bodySettled.bind rfl)

/-- Encoding the annotations of fields is stable. -/
theorem isStable_fieldItems (drafts : List FieldDraft) :
    IsStable (drafts.mapM fun draft => annotationItems draft.annotations) :=
  isStable_listMapM drafts fun _ _ => isStable_annotationItems _

/-- Encoding the parts of methods is stable. -/
theorem isStable_methodItems (drafts : List MethodDraft) : IsStable (drafts.mapM methodParts) :=
  isStable_listMapM drafts fun draft _ => isStable_methodParts draft

/-- Encoding values in a row is stable. -/
theorem isStable_values (drafts : List ValueDraft) : IsStable (drafts.mapM valueBytes) :=
  isStable_listMapM drafts fun draft _ => isStable_valueBytes draft

/-- The items of fields are settled if the items of each of them are. -/
theorem settles_fieldItems_iff {drafts : List FieldDraft} {items : List (List Item)} :
    Settles tables (drafts.mapM fun draft => annotationItems draft.annotations) items ↔
      List.Forall₂ (fun field => MatchNotes (IsSettled tables) field.annotations)
        drafts items := by
  rw [settles_listMapM_iff fun draft _ => isStable_annotationItems draft.annotations]
  simp only [settles_annotationItems_iff]

/-- The parts of methods are settled if those of each of them are. -/
theorem settles_methodItems_iff {drafts : List MethodDraft} {parts : List MethodParts} :
    Settles tables (drafts.mapM methodParts) parts ↔
      List.Forall₂ (MatchParts (IsSettled tables)) drafts parts := by
  rw [settles_listMapM_iff fun draft _ => isStable_methodParts draft]
  simp only [settles_methodParts_iff]

/-- Encoding the items of a class is stable. -/
theorem isStable_classItems (draft : ClassDraft) : IsStable (classItems draft) := by
  refine (isStable_annotationItems _).bind fun annotations => ?_
  refine (isStable_fieldItems _).bind fun staticFields => ?_
  refine (isStable_fieldItems _).bind fun instanceFields => ?_
  refine (isStable_methodItems _).bind fun directMethods => ?_
  refine (isStable_methodItems _).bind fun virtualMethods => ?_
  exact (isStable_values _).bind fun staticValues => isStable_pure _

/-- The items of a class are settled if each of them is. -/
theorem settles_classItems_iff {draft : ClassDraft} {items : ClassItems} :
    Settles tables (classItems draft) items ↔ MatchItems (IsSettled tables) draft items := by
  constructor
  · intro settled
    have ensured : Ensures tables (classItems draft) (MatchItems (IsSettled tables) draft) := by
      refine ensures_bind (isStable_annotationItems _) fun annotations => ?_
      refine ensures_bind (isStable_fieldItems _) fun staticFields => ?_
      refine ensures_bind (isStable_fieldItems _) fun instanceFields => ?_
      refine ensures_bind (isStable_methodItems _) fun directMethods => ?_
      refine ensures_bind (isStable_methodItems _) fun virtualMethods => ?_
      refine ensures_bind (isStable_values _) fun staticValues => ?_
      refine ensures_pure fun valuesSettled virtualSettled directSettled instanceSettled
        staticSettled annotationsSettled => ?_
      exact {
        annotations := settles_annotationItems_iff.mp annotationsSettled
        staticFields := settles_fieldItems_iff.mp staticSettled
        instanceFields := settles_fieldItems_iff.mp instanceSettled
        directMethods := settles_methodItems_iff.mp directSettled
        virtualMethods := settles_methodItems_iff.mp virtualSettled
        staticValues := (settles_listMapM_iff fun _ _ => isStable_valueBytes _).mp valuesSettled
      }
    exact ensured.2 items settled
  · intro matched
    have valuesSettled : Settles tables (draft.staticValues.mapM valueBytes) items.staticValues :=
      (settles_listMapM_iff fun _ _ => isStable_valueBytes _).mpr matched.staticValues
    refine (settles_annotationItems_iff.mpr matched.annotations).bind ?_
    refine (settles_fieldItems_iff.mpr matched.staticFields).bind ?_
    refine (settles_fieldItems_iff.mpr matched.instanceFields).bind ?_
    refine (settles_methodItems_iff.mpr matched.directMethods).bind ?_
    refine (settles_methodItems_iff.mpr matched.virtualMethods).bind ?_
    exact valuesSettled.bind rfl

/-! Classes that are numbered with their items. -/

/-- A field that is numbered with its items denotes its draft. -/
theorem denotesField_of_settles
    {definingClass : TypeDescriptor}
    {draft : FieldDraft}
    {items : List Item}
    {entry : NumberedField}
    (annotations : MatchNotes (IsSettled tables) draft.annotations items)
    (settled : Settles tables (numberedField definingClass draft items) entry) :
    DenotesField tables definingClass draft entry := by
  have ensured : Ensures tables (numberedField definingClass draft items)
      (DenotesField tables definingClass draft) := by
    refine ensures_bind (isStable_field _) fun index => ?_
    refine ensures_pure fun indexSettled => ?_
    exact ⟨indexSettled, rfl, annotations⟩
  exact ensured.2 entry settled

/-- A method that is numbered with its parts denotes its draft. -/
theorem denotesMethod_of_settles
    {definingClass : TypeDescriptor}
    {draft : MethodDraft}
    {parts : MethodParts}
    {entry : NumberedMethod}
    (matched : MatchParts (IsSettled tables) draft parts)
    (settled : Settles tables (numberedMethod definingClass draft parts) entry) :
    DenotesMethod tables definingClass draft entry := by
  have ensured : Ensures tables (numberedMethod definingClass draft parts)
      (DenotesMethod tables definingClass draft) := by
    refine ensures_bind (isStable_method _) fun index => ?_
    refine ensures_pure fun indexSettled => ?_
    exact ⟨indexSettled, rfl, matched.annotations, matched.parameterAnnotations, matched.body⟩
  exact ensured.2 entry settled

/-- Numbering the fields of a class is stable. -/
theorem isStable_fields
    (definingClass : TypeDescriptor)
    (pairs : List (FieldDraft × List Item)) :
    IsStable (pairs.mapM fun pair => numberedField definingClass pair.1 pair.2) :=
  isStable_listMapM pairs fun _ _ => isStable_numberedField _ _ _

/-- Numbering the methods of a class is stable. -/
theorem isStable_methods
    (definingClass : TypeDescriptor)
    (pairs : List (MethodDraft × MethodParts)) :
    IsStable (pairs.mapM fun pair => numberedMethod definingClass pair.1 pair.2) :=
  isStable_listMapM pairs fun _ _ => isStable_numberedMethod _ _ _

/-- Fields that are numbered with their items denote their drafts. -/
theorem forall₂_denotesField
    {definingClass : TypeDescriptor}
    {drafts : List FieldDraft}
    {items : List (List Item)}
    {entries : List NumberedField}
    (matched :
      List.Forall₂ (fun field => MatchNotes (IsSettled tables) field.annotations) drafts items)
    (settled :
      Settles tables
        ((drafts.zip items).mapM fun pair => numberedField definingClass pair.1 pair.2) entries) :
    List.Forall₂ (DenotesField tables definingClass) drafts entries := by
  rw [settles_listMapM_iff fun pair _ => isStable_numberedField definingClass pair.1 pair.2]
    at settled
  exact forall₂_of_zip (fun _ _ _ => denotesField_of_settles) matched settled

/-- Methods that are numbered with their parts denote their drafts. -/
theorem forall₂_denotesMethod
    {definingClass : TypeDescriptor}
    {drafts : List MethodDraft}
    {parts : List MethodParts}
    {entries : List NumberedMethod}
    (matched : List.Forall₂ (MatchParts (IsSettled tables)) drafts parts)
    (settled :
      Settles tables
        ((drafts.zip parts).mapM fun pair => numberedMethod definingClass pair.1 pair.2)
        entries) :
    List.Forall₂ (DenotesMethod tables definingClass) drafts entries := by
  rw [settles_listMapM_iff fun pair _ => isStable_numberedMethod definingClass pair.1 pair.2]
    at settled
  exact forall₂_of_zip (fun _ _ _ => denotesMethod_of_settles) matched settled

/-- A class that is numbered with its items denotes its draft. -/
theorem ensures_classWith (draft : ClassDraft) (items : ClassItems) :
    Ensures tables (classWith draft items) fun entry =>
      MatchItems (IsSettled tables) draft items → Denotes tables draft entry := by
  refine ensures_bind (isStable_typeName _) fun typeIndex => ?_
  refine ensures_bind (isStable_optionMapM isStable_typeName _) fun superclass => ?_
  refine ensures_bind (isStable_typeNames _) fun interfaces => ?_
  refine ensures_bind (isStable_optionMapM isStable_string _) fun sourceFile => ?_
  refine ensures_bind (isStable_fields _ _) fun staticFields => ?_
  refine ensures_bind (isStable_fields _ _) fun instanceFields => ?_
  refine ensures_bind (isStable_methods _ _) fun directMethods => ?_
  refine ensures_bind (isStable_methods _ _) fun virtualMethods => ?_
  refine ensures_pure fun virtualSettled directSettled instanceSettled staticSettled
    sourceFileSettled interfacesSettled superclassSettled typeSettled matched => ?_
  exact {
    typeIndex := typeSettled
    flags := rfl
    superclass := (settles_optionMapM_iff isStable_typeName).mp superclassSettled
    interfaces := interfacesSettled
    sourceFile := (settles_optionMapM_iff isStable_string).mp sourceFileSettled
    annotations := matched.annotations
    staticFields := forall₂_denotesField matched.staticFields staticSettled
    instanceFields := forall₂_denotesField matched.instanceFields instanceSettled
    directMethods := forall₂_denotesMethod matched.directMethods directSettled
    virtualMethods := forall₂_denotesMethod matched.virtualMethods virtualSettled
    staticValues := matched.staticValues
    restrictions := rfl
  }

/-- Numbering a class with its items is stable. -/
theorem isStable_classWith (draft : ClassDraft) (items : ClassItems) :
    IsStable (classWith draft items) :=
  (@ensures_classWith .empty draft items).1

/-- A class that is numbered behind its items denotes its draft. -/
theorem ensures_numberedClass (draft : ClassDraft) :
    Ensures tables (numberedClass draft) (Denotes tables draft) := by
  refine ensures_bind (isStable_classItems draft) fun items => ?_
  obtain ⟨stable, denotes⟩ := ensures_classWith draft items
  refine ⟨stable, fun entry settled itemsSettled => ?_⟩
  exact denotes entry settled (settles_classItems_iff.mp itemsSettled)

/-- Numbering a class is stable. -/
theorem isStable_numberedClass (draft : ClassDraft) : IsStable (numberedClass draft) :=
  (@ensures_numberedClass .empty draft).1

/-- The numbered classes of an image denote their drafts in its tables. -/
theorem forall₂_denotes (drafts : List ClassDraft) :
    List.Forall₂ (Denotes (Image.tablesOf drafts)) drafts
      ((drafts.mapM numberedClass).run .empty).1 := by
  have stable : ∀ draft ∈ drafts, IsStable (numberedClass draft) :=
    fun draft _ => isStable_numberedClass draft
  have settled := (isStable_listMapM drafts stable).settles (.refl (Image.tablesOf drafts))
  rw [settles_listMapM_iff stable] at settled
  exact settled.imp fun draft entry => (ensures_numberedClass draft).2 entry

end Numbering

end Dex

end DexSurface
