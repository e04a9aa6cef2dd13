import DexSurface.Dex.DraftEncoding

/-!
# Numbered classes

A class whose entries are numbered: names are replaced by numbers, and annotations, values and debug
information by their bytes.  What remains open are the offsets of an image.
-/

namespace DexSurface

namespace Dex

/-- The bytes of an item that stands in an image at an offset still unknown. -/
abbrev Item := List UInt8

/-- A field by its number. -/
structure NumberedField where
  index : Nat
  flags : AccessFlags
  annotations : List Item
  deriving Repr, DecidableEq

/-- A body with the bytes of its debug information. -/
structure NumberedBody where
  registerCount : UInt16
  units : List UInt16
  debug : Option Item
  deriving Repr, DecidableEq

/-- A method by its number. -/
structure NumberedMethod where
  index : Nat
  flags : AccessFlags
  annotations : List Item
  parameterAnnotations : List (List Item)
  body : Option NumberedBody
  deriving Repr, DecidableEq

/-- A class by numbers. -/
structure NumberedClass where
  typeIndex : Nat
  flags : AccessFlags
  superclass : Option Nat
  interfaces : List Nat
  sourceFile : Option Nat
  annotations : List Item
  staticFields : List NumberedField
  instanceFields : List NumberedField
  directMethods : List NumberedMethod
  virtualMethods : List NumberedMethod
  staticValues : List Item
  restrictions : Option (List UInt32)
  deriving Repr, DecidableEq

namespace NumberedClass

/-- The fields, static ones first. -/
def fields (entry : NumberedClass) : List NumberedField :=
  entry.staticFields ++ entry.instanceFields

/-- The methods, direct ones first. -/
def methods (entry : NumberedClass) : List NumberedMethod :=
  entry.directMethods ++ entry.virtualMethods

end NumberedClass

namespace Numbering

/-- The items of annotations. -/
def annotationItems (drafts : List AnnotationDraft) : Numbering (List Item) :=
  drafts.mapM AnnotationDraft.bytes

/-- A body with its debug information in bytes. -/
def numberedBody (draft : BodyDraft) : Numbering NumberedBody := do
  let debug ← draft.debug.mapM DebugDraft.bytes
  return { registerCount := draft.registerCount, units := draft.units, debug }

/-- What a method consists of besides its number. -/
structure MethodParts where
  annotations : List Item
  parameterAnnotations : List (List Item)
  body : Option NumberedBody

/-- The annotations, the annotations of the parameters and the body of a method, in this order. -/
def methodParts (draft : MethodDraft) : Numbering MethodParts := do
  let annotations ← annotationItems draft.annotations
  let parameterAnnotations ← draft.parameterAnnotations.mapM annotationItems
  let body ← draft.body.mapM numberedBody
  return { annotations, parameterAnnotations, body }

/-- A field of a class, with the items of its annotations. -/
def numberedField (definingClass : TypeDescriptor) (draft : FieldDraft) (annotations : List Item) :
    Numbering NumberedField := do
  let index ← field { definingClass, name := draft.name, fieldType := draft.fieldType }
  return { index, flags := draft.flags, annotations }

/-- A method of a class, with its parts. -/
def numberedMethod (definingClass : TypeDescriptor) (draft : MethodDraft) (parts : MethodParts) :
    Numbering NumberedMethod := do
  let index ← method {
    definingClass
    name := draft.name
    parameterTypes := draft.parameterTypes
    returnType := draft.returnType
  }
  return {
    index
    flags := draft.flags
    annotations := parts.annotations
    parameterAnnotations := parts.parameterAnnotations
    body := parts.body
  }

/-- What is encoded of a class before its own names are numbered. -/
structure ClassItems where
  annotations : List Item
  staticFields : List (List Item)
  instanceFields : List (List Item)
  directMethods : List MethodParts
  virtualMethods : List MethodParts
  staticValues : List Item

/-- The items of a class: its annotations, those of its members, the bodies and the values. -/
def classItems (draft : ClassDraft) : Numbering ClassItems := do
  let annotations ← annotationItems draft.annotations
  let staticFields ← draft.staticFields.mapM fun field => annotationItems field.annotations
  let instanceFields ← draft.instanceFields.mapM fun field => annotationItems field.annotations
  let directMethods ← draft.directMethods.mapM methodParts
  let virtualMethods ← draft.virtualMethods.mapM methodParts
  let staticValues ← draft.staticValues.mapM valueBytes
  return { annotations, staticFields, instanceFields, directMethods, virtualMethods, staticValues }

/--
A class by numbers, with items that were encoded for it: its type, its supertypes and its source
file come first, then the fields and the methods.
-/
def classWith (draft : ClassDraft) (items : ClassItems) : Numbering NumberedClass := do
  let typeIndex ← typeName draft.typeName
  let superclass ← draft.superclass.mapM typeName
  let interfaces ← draft.interfaces.mapM typeName
  let sourceFile ← draft.sourceFile.mapM string
  let fieldOf := fun (field, items) => numberedField draft.typeName field items
  let methodOf := fun (method, parts) => numberedMethod draft.typeName method parts
  let staticFields ← (draft.staticFields.zip items.staticFields).mapM fieldOf
  let instanceFields ← (draft.instanceFields.zip items.instanceFields).mapM fieldOf
  let directMethods ← (draft.directMethods.zip items.directMethods).mapM methodOf
  let virtualMethods ← (draft.virtualMethods.zip items.virtualMethods).mapM methodOf
  return {
    typeIndex
    flags := draft.flags
    superclass
    interfaces
    sourceFile
    annotations := items.annotations
    staticFields
    instanceFields
    directMethods
    virtualMethods
    staticValues := items.staticValues
    restrictions := draft.restrictions
  }

/-- A class by numbers, whose items are encoded first. -/
def numberedClass (draft : ClassDraft) : Numbering NumberedClass := do
  classWith draft (← classItems draft)

end Numbering

end Dex

end DexSurface
