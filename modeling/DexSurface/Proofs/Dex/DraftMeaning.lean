import Mathlib.Algebra.GroupWithZero.Nat
import Mathlib.Tactic.MkIffOfInductiveProp
import DexSurface.Dex.ClassDefinition
import DexSurface.Dex.NumberedClass
import DexSurface.Proofs.Dex.DebugEvents
import DexSurface.Proofs.Dex.PlainText

namespace DexSurface

namespace Dex

/-!
# What drafts mean

A draft means the class that a reader of its image is to find.  A draft is readable if its texts are
plain and its values, annotations and bodies are such that a reader accepts them.  Nothing here says
how an image is laid out, except that members stand in the order of their numbers.
-/

/-- A plain text that may be a type descriptor. -/
@[mk_iff]
structure IsPlainType (descriptor : TypeDescriptor) : Prop where
  nonempty : descriptor ≠ ""
  plain : IsPlain descriptor

instance (descriptor : TypeDescriptor) : Decidable (IsPlainType descriptor) :=
  decidable_of_iff' _ (isPlainType_iff descriptor)

/-- The texts of a reference to a field are plain. -/
@[mk_iff]
structure IsPlainField (reference : FieldRef) : Prop where
  definingClass : IsPlainType reference.definingClass
  fieldType : IsPlainType reference.fieldType
  name : IsPlain reference.name

instance (reference : FieldRef) : Decidable (IsPlainField reference) :=
  decidable_of_iff' _ (isPlainField_iff reference)

namespace ValueDraft

mutual

/-- The value that is meant; a method type, which no reader accepts, counts as null. -/
def value : ValueDraft → EncodedValue
  | .boolean value => .boolean value
  | .byte value => .byte value
  | .char unit => .char unit
  | .int value => .int value
  | .long value => .long value
  | .float bits => .float bits
  | .double bits => .double bits
  | .string text => .string text
  | .type descriptor => .type descriptor
  | .enum constant => .enum constant
  | .null => .null
  | .array values => .array (valuesOf values)
  | .nested annotationType elements => .nested annotationType (elementsOf elements)
  | .methodType => .null

/-- The values that are meant by drafts in a row. -/
def valuesOf : List ValueDraft → List EncodedValue
  | [] => []
  | first :: rest => first.value :: valuesOf rest

/-- The named values that are meant by named drafts. -/
def elementsOf : List (String × ValueDraft) → List (String × EncodedValue)
  | [] => []
  | (name, first) :: rest => (name, first.value) :: elementsOf rest

end

mutual

/-- A reader accepts the value. -/
def IsReadable : ValueDraft → Prop
  | .string text => IsPlain text
  | .type descriptor => IsPlainType descriptor
  | .enum constant => IsPlainField constant
  | .array values => AreReadable values
  | .nested annotationType elements =>
      IsPlainType annotationType ∧ AreReadableElements elements
  | .methodType => False
  | _ => True

/-- A reader accepts values in a row. -/
def AreReadable : List ValueDraft → Prop
  | [] => True
  | first :: rest => first.IsReadable ∧ AreReadable rest

/-- A reader accepts named values. -/
def AreReadableElements : List (String × ValueDraft) → Prop
  | [] => True
  | (name, first) :: rest => IsPlain name ∧ first.IsReadable ∧ AreReadableElements rest

end

mutual

/-- Whether a reader accepts the value. -/
def decideReadable : (draft : ValueDraft) → Decidable draft.IsReadable
  | .string text => inferInstanceAs (Decidable (IsPlain text))
  | .type descriptor => inferInstanceAs (Decidable (IsPlainType descriptor))
  | .enum constant => inferInstanceAs (Decidable (IsPlainField constant))
  | .array values => decideAllReadable values
  | .nested annotationType elements =>
      @instDecidableAnd (IsPlainType annotationType) (AreReadableElements elements) _
        (decideElementsReadable elements)
  | .methodType => .isFalse id
  | .boolean _ | .byte _ | .char _ | .int _ | .long _ | .float _ | .double _ | .null =>
      .isTrue trivial

/-- Whether a reader accepts values in a row. -/
def decideAllReadable : (drafts : List ValueDraft) → Decidable (AreReadable drafts)
  | [] => .isTrue trivial
  | first :: rest =>
      @instDecidableAnd first.IsReadable (AreReadable rest) (decideReadable first)
        (decideAllReadable rest)

/-- Whether a reader accepts named values. -/
def decideElementsReadable :
    (drafts : List (String × ValueDraft)) → Decidable (AreReadableElements drafts)
  | [] => .isTrue trivial
  | (name, first) :: rest =>
      @instDecidableAnd (IsPlain name) (first.IsReadable ∧ AreReadableElements rest) _
        (@instDecidableAnd first.IsReadable (AreReadableElements rest) (decideReadable first)
          (decideElementsReadable rest))

end

instance (draft : ValueDraft) : Decidable draft.IsReadable :=
  decideReadable draft

instance (drafts : List (String × ValueDraft)) : Decidable (AreReadableElements drafts) :=
  decideElementsReadable drafts

/-- The values in a row are meant one by one. -/
theorem valuesOf_eq_map (drafts : List ValueDraft) : valuesOf drafts = drafts.map value := by
  induction drafts with
  | nil => rfl
  | cons first rest inductionHypothesis => rw [valuesOf, inductionHypothesis, List.map_cons]

end ValueDraft

/-- The annotation that is meant. -/
def AnnotationDraft.note (draft : AnnotationDraft) : Annotation where
  visibility := (Visibility.ofByte? draft.visibility).getD .build
  annotationType := draft.annotationType
  elements := ValueDraft.elementsOf draft.elements

/-- A reader accepts the annotation. -/
@[mk_iff]
structure AnnotationDraft.IsReadable (draft : AnnotationDraft) : Prop where
  visibility : draft.visibility ≤ 2
  annotationType : IsPlainType draft.annotationType
  elements : ValueDraft.AreReadableElements draft.elements

instance (draft : AnnotationDraft) : Decidable draft.IsReadable :=
  decidable_of_iff' _ (AnnotationDraft.isReadable_iff draft)

/-- The annotations that are meant by drafts in a row. -/
def notes (drafts : List AnnotationDraft) : Annotations :=
  drafts.map AnnotationDraft.note

/-- By how much a debug event advances the code address. -/
def DebugEvent.advance : DebugEvent → Nat
  | .advanceAddress amount => amount
  | _ => 0

/-- The local that a debug event at an address starts, if it starts one. -/
def DebugEvent.start? (address : Nat) : DebugEvent → Option LocalStart
  | .startLocal register name localType =>
      some {
        address := address.toUInt32
        register := register.toUInt16
        name := some name
        localType := some localType
        signature := none
      }
  | .startLocalExtended register name localType signature =>
      some {
        address := address.toUInt32
        register := register.toUInt16
        name := some name
        localType := some localType
        signature := some signature
      }
  | _ => none

/-- A reader accepts the debug event. -/
def DebugEvent.IsReadable : DebugEvent → Prop
  | .advanceAddress _ => True
  | .endLocal register => register < Bytes.span 2
  | .startLocal register name localType =>
      register < Bytes.span 2 ∧ IsPlain name ∧ IsPlainType localType
  | .startLocalExtended register name localType signature =>
      register < Bytes.span 2 ∧ IsPlain name ∧ IsPlainType localType ∧ IsPlain signature

instance : (event : DebugEvent) → Decidable event.IsReadable
  | .advanceAddress _ => .isTrue trivial
  | .endLocal register => inferInstanceAs (Decidable (register < Bytes.span 2))
  | .startLocal register name localType =>
      inferInstanceAs
        (Decidable (register < Bytes.span 2 ∧ IsPlain name ∧ IsPlainType localType))
  | .startLocalExtended register name localType signature =>
      inferInstanceAs
        (Decidable
          (register < Bytes.span 2 ∧ IsPlain name ∧ IsPlainType localType ∧ IsPlain signature))

/-- The locals that events from an address on start. -/
def localsFrom (address : Nat) (events : List DebugEvent) : List LocalStart :=
  startedFrom DebugEvent.advance DebugEvent.start? address events

/-- A reader accepts the debug information. -/
@[mk_iff]
structure DebugDraft.IsReadable (draft : DebugDraft) : Prop where
  names : ∀ name? ∈ draft.parameterNames, ∀ name ∈ name?, IsPlain name
  events : ∀ event ∈ draft.events, event.IsReadable
  advances : total DebugEvent.advance draft.events < Bytes.span 4

instance (draft : DebugDraft) : Decidable draft.IsReadable :=
  decidable_of_iff' _ (DebugDraft.isReadable_iff draft)

namespace BodyDraft

/-- The opcodes of a body. -/
def opcodes (draft : BodyDraft) : List UInt8 :=
  match Instructions.opcodes draft.units with
  | .ok opcodes => opcodes
  | .error _ => []

/-- The body that is meant. -/
def record (draft : BodyDraft) : MethodBody where
  registerCount := draft.registerCount
  opcodes := draft.opcodes
  locals :=
    match draft.debug with
    | none => []
    | some debug => localsFrom 0 debug.events

/-- The declared names of the parameters. -/
def parameterNames (draft : BodyDraft) : List (Option String) :=
  match draft.debug with
  | none => []
  | some debug => debug.parameterNames

/-- A reader accepts the body. -/
@[mk_iff]
structure IsReadable (draft : BodyDraft) : Prop where
  units : Instructions.opcodes draft.units = .ok draft.opcodes
  debug : ∀ debug ∈ draft.debug, debug.IsReadable

instance (draft : BodyDraft) : Decidable draft.IsReadable :=
  decidable_of_iff' _ (isReadable_iff draft)

end BodyDraft

namespace FieldDraft

/-- A reference to the field as a member of a class. -/
def reference (draft : FieldDraft) (definingClass : TypeDescriptor) : FieldRef where
  definingClass
  name := draft.name
  fieldType := draft.fieldType

/-- The field that is meant, with what the class says about it. -/
def record
    (draft : FieldDraft)
    (definingClass : TypeDescriptor)
    (initialValue : Option EncodedValue)
    (hiddenApi : HiddenApi.Categories) : FieldRecord where
  definingClass
  name := draft.name
  fieldType := draft.fieldType
  flags := draft.flags
  initialValue
  annotations := notes draft.annotations
  hiddenApi

/-- A reader accepts the field. -/
@[mk_iff]
structure IsReadable (draft : FieldDraft) : Prop where
  name : IsPlain draft.name
  fieldType : IsPlainType draft.fieldType
  annotations : ∀ note ∈ draft.annotations, note.IsReadable

instance (draft : FieldDraft) : Decidable draft.IsReadable :=
  decidable_of_iff' _ (isReadable_iff draft)

end FieldDraft

/-- The generic signature that annotations hold, if they are well formed. -/
def signatureOf (annotations : Annotations) : Option String :=
  match annotations.genericSignature? with
  | .ok signature => signature
  | .error _ => none

namespace MethodDraft

/-- A reference to the method as a member of a class. -/
def reference (draft : MethodDraft) (definingClass : TypeDescriptor) : MethodRef where
  definingClass
  name := draft.name
  parameterTypes := draft.parameterTypes
  returnType := draft.returnType

/-- The declared names of the parameters, which stand with the body. -/
def parameterNames (draft : MethodDraft) : List (Option String) :=
  match draft.body with
  | none => []
  | some body => body.parameterNames

/-- The annotations of the parameter at a position. -/
def notesAt (draft : MethodDraft) (position : Nat) : Annotations :=
  notes (draft.parameterAnnotations[position]?.getD [])

/-- The parameter at a position. -/
def parameterAt
    (draft : MethodDraft)
    (position : Nat)
    (parameterType : TypeDescriptor) : Parameter where
  parameterType
  name := draft.parameterNames[position]?.join
  signature := signatureOf (draft.notesAt position)
  annotations := draft.notesAt position

/-- The method that is meant, with what the class says about it. -/
def record
    (draft : MethodDraft)
    (definingClass : TypeDescriptor)
    (hiddenApi : HiddenApi.Categories) : MethodRecord where
  definingClass
  name := draft.name
  flags := draft.flags
  parameters := draft.parameterTypes.mapIdx draft.parameterAt
  returnType := draft.returnType
  annotations := notes draft.annotations
  hiddenApi
  body := draft.body.map BodyDraft.record

/-- A reader accepts the method. -/
@[mk_iff]
structure IsReadable (draft : MethodDraft) : Prop where
  name : IsPlain draft.name
  parameterTypes : ∀ parameterType ∈ draft.parameterTypes, IsPlainType parameterType
  returnType : IsPlainType draft.returnType
  annotations : ∀ note ∈ draft.annotations, note.IsReadable
  parameterAnnotations : ∀ set ∈ draft.parameterAnnotations, ∀ note ∈ set, note.IsReadable
  signatures :
    ∀ set ∈ draft.parameterAnnotations,
      (notes set).genericSignature? = .ok (signatureOf (notes set))
  body : ∀ body ∈ draft.body, body.IsReadable

instance (draft : MethodDraft) : Decidable draft.IsReadable :=
  decidable_of_iff' _ (isReadable_iff draft)

end MethodDraft

namespace EntryTables

/-- The number of a field of a class. -/
def fieldNumber
    (tables : EntryTables)
    (definingClass : TypeDescriptor)
    (draft : FieldDraft) : Nat :=
  (Numbering.field (draft.reference definingClass) tables).1

/-- The number of a method of a class. -/
def methodNumber
    (tables : EntryTables)
    (definingClass : TypeDescriptor)
    (draft : MethodDraft) : Nat :=
  (Numbering.method (draft.reference definingClass) tables).1

/-- Fields of a class in the order of their numbers. -/
def sortFields
    (tables : EntryTables)
    (definingClass : TypeDescriptor)
    (drafts : List FieldDraft) : List FieldDraft :=
  drafts.mergeSort fun left right =>
    tables.fieldNumber definingClass left ≤ tables.fieldNumber definingClass right

/-- Methods of a class in the order of their numbers. -/
def sortMethods
    (tables : EntryTables)
    (definingClass : TypeDescriptor)
    (drafts : List MethodDraft) : List MethodDraft :=
  drafts.mergeSort fun left right =>
    tables.methodNumber definingClass left ≤ tables.methodNumber definingClass right

end EntryTables

namespace ClassDraft

/-- The restriction categories of the member at a position of the class data. -/
def categoriesAt (draft : ClassDraft) (position : Nat) : HiddenApi.Categories :=
  match draft.restrictions with
  | none => .empty
  | some flags => .ofFlags (flags.getD position 0)

/-- The value of the static field at a position of the class data. -/
def valueAt (draft : ClassDraft) (position : Nat) : Option EncodedValue :=
  draft.staticValues[position]?.map ValueDraft.value

/--
The class that is meant.  Its members stand in the order of their numbers: static fields, other
fields, direct methods, other methods.
-/
def record (tables : EntryTables) (draft : ClassDraft) : ClassRecord :=
  let staticFields := tables.sortFields draft.typeName draft.staticFields
  let instanceFields := tables.sortFields draft.typeName draft.instanceFields
  let directMethods := tables.sortMethods draft.typeName draft.directMethods
  let virtualMethods := tables.sortMethods draft.typeName draft.virtualMethods
  let fieldCount := staticFields.length + instanceFields.length
  {
    typeName := draft.typeName
    flags := draft.flags
    superclass := draft.superclass
    interfaces := draft.interfaces
    sourceFile := draft.sourceFile
    annotations := notes draft.annotations
    fields :=
      staticFields.mapIdx (fun position field =>
          field.record draft.typeName (draft.valueAt position) (draft.categoriesAt position))
        ++ instanceFields.mapIdx fun position field =>
          field.record draft.typeName none (draft.categoriesAt (staticFields.length + position))
    methods :=
      directMethods.mapIdx (fun position method =>
          method.record draft.typeName (draft.categoriesAt (fieldCount + position)))
        ++ virtualMethods.mapIdx fun position method =>
          method.record draft.typeName
            (draft.categoriesAt (fieldCount + directMethods.length + position))
  }

/-- The fields, static ones first. -/
def fields (draft : ClassDraft) : List FieldDraft :=
  draft.staticFields ++ draft.instanceFields

/-- The methods, direct ones first. -/
def methods (draft : ClassDraft) : List MethodDraft :=
  draft.directMethods ++ draft.virtualMethods

/-- A reader accepts the class: it has no field and no method twice, and a flag for every member. -/
@[mk_iff]
structure IsReadable (draft : ClassDraft) : Prop where
  typeName : IsPlainType draft.typeName
  superclass : ∀ superclass ∈ draft.superclass, IsPlainType superclass
  interfaces : ∀ interface ∈ draft.interfaces, IsPlainType interface
  sourceFile : ∀ file ∈ draft.sourceFile, IsPlain file
  annotations : ∀ note ∈ draft.annotations, note.IsReadable
  fields : ∀ field ∈ draft.fields, field.IsReadable
  methods : ∀ method ∈ draft.methods, method.IsReadable
  staticValues : ∀ value ∈ draft.staticValues, value.IsReadable
  distinctFields : (draft.fields.map fun field => (field.name, field.fieldType)).Nodup
  distinctMethods :
    (draft.methods.map fun method =>
      (method.name, method.parameterTypes, method.returnType)).Nodup
  restrictions :
    ∀ flags ∈ draft.restrictions,
      flags.length = draft.fields.length + draft.methods.length

instance (draft : ClassDraft) : Decidable draft.IsReadable :=
  decidable_of_iff' _ (isReadable_iff draft)

end ClassDraft

/-- The tables of the image of some classes. -/
def Image.tablesOf (drafts : List ClassDraft) : EntryTables :=
  ((drafts.mapM Numbering.numberedClass).run .empty).2

end Dex

end DexSurface
