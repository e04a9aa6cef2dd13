import DexSurface.EncodedValue
import DexSurface.AccessFlags

/-!
# Annotations and platform metadata

An annotation has a visibility, a type and named elements.  Annotations in the platform's own
namespace carry class-file metadata: generic signatures, checked exceptions, inner-class markers
and so on.  This module reads that metadata.
-/

namespace DexSurface

/-- How long an annotation is kept. -/
inductive Visibility where
  | build
  | runtime
  | system
  deriving Repr, DecidableEq, Inhabited

namespace Visibility

/-- The visibility that a byte encodes; bytes above two encode none. -/
def ofByte? : UInt8 → Option Visibility
  | 0 => some .build
  | 1 => some .runtime
  | 2 => some .system
  | _ => none

/-- Only runtime annotations stay visible in class files. -/
def isRuntimeVisible : Visibility → Bool
  | .runtime => true
  | _ => false

end Visibility

/-- An annotation of a class, member or parameter. -/
structure Annotation where
  visibility : Visibility
  annotationType : TypeDescriptor
  elements : List (String × EncodedValue)
  deriving Repr, BEq, Inhabited

/-! The types of the annotations that carry class-file metadata. -/

namespace Platform

/-- The start of every metadata annotation type. -/
def annotationNamespace : String := "Ldalvik/annotation"

/-- Marks a class nested in another class. -/
def enclosingClass : TypeDescriptor := "Ldalvik/annotation/EnclosingClass;"

/-- Marks a class nested in a method. -/
def enclosingMethod : TypeDescriptor := "Ldalvik/annotation/EnclosingMethod;"

/-- Holds the simple name and the source flags of a nested class. -/
def innerClass : TypeDescriptor := "Ldalvik/annotation/InnerClass;"

/-- Lists the member classes of a class. -/
def memberClasses : TypeDescriptor := "Ldalvik/annotation/MemberClasses;"

/-- Holds a generic signature in fragments. -/
def signature : TypeDescriptor := "Ldalvik/annotation/Signature;"

/-- Holds declared parameter names. -/
def methodParameters : TypeDescriptor := "Ldalvik/annotation/MethodParameters;"

/-- Lists checked exceptions. -/
def throws : TypeDescriptor := "Ldalvik/annotation/Throws;"

/-- Holds the default values of an annotation type. -/
def annotationDefault : TypeDescriptor := "Ldalvik/annotation/AnnotationDefault;"

/-- Lists the permitted subclasses of a sealed class. -/
def permittedSubclasses : TypeDescriptor := "Ldalvik/annotation/PermittedSubclasses;"

/-- Marks a record class. -/
def record : TypeDescriptor := "Ldalvik/annotation/Record;"

/-- Marks a deprecated element. -/
def deprecated : TypeDescriptor := "Ljava/lang/Deprecated;"

end Platform

namespace Annotation

/-- The value of the first element with the given name. -/
def element? (note : Annotation) (name : String) : Option EncodedValue :=
  (note.elements.find? fun element => element.1 = name).map Prod.snd

/--
Platform metadata whose values name no type worth following: everything in the platform
namespace except signatures, checked exceptions and permitted subclasses.
-/
def isOpaqueMarker (note : Annotation) : Bool :=
  !([Platform.signature, Platform.throws, Platform.permittedSubclasses].contains
      note.annotationType)
    && Platform.annotationNamespace.toList.isPrefixOf note.annotationType.toList

/-- The value of an annotation that must have exactly one element, named `value`. -/
def singleValue (note : Annotation) : Except RecordError EncodedValue :=
  match note.elements with
  | [(name, value)] =>
      if name = "value" then .ok value
      else .error (.unexpectedElement note.annotationType name)
  | elements => .error (.elementCount note.annotationType elements.length)

end Annotation

/-- The annotations of one element, in image order. -/
abbrev Annotations := List Annotation

namespace Annotations

/-- The first annotation of a type. -/
def find? (annotations : Annotations) (annotationType : TypeDescriptor) : Option Annotation :=
  List.find? (fun note => note.annotationType = annotationType) annotations

/-- Some annotation has the given type. -/
def hasType (annotations : Annotations) (annotationType : TypeDescriptor) : Bool :=
  (annotations.find? annotationType).isSome

/-- The element is marked as deprecated. -/
def isDeprecated (annotations : Annotations) : Bool :=
  annotations.hasType Platform.deprecated

/-- The class is marked as a record. -/
def isRecord (annotations : Annotations) : Bool :=
  annotations.hasType Platform.record

/-- The generic signature: the fragments of the signature annotation, joined. -/
def genericSignature? (annotations : Annotations) : Except RecordError (Option String) :=
  match annotations.find? Platform.signature with
  | none => .ok none
  | some note => do
      let fragments ← (← note.singleValue).asArray
      return some (String.join (← fragments.mapM EncodedValue.asString))

/-- The checked exceptions, as internal names. -/
def thrownExceptions (annotations : Annotations) : Except RecordError (List InternalName) :=
  match annotations.find? Platform.throws with
  | none => .ok []
  | some note => do
      let exceptions ← (← note.singleValue).asArray
      exceptions.mapM fun exception => return Descriptor.internalName (← exception.asType)

end Annotations

/-- The simple name and the source flags of a nested class. -/
structure InnerClassMarker where
  name : String
  flags : AccessFlags
  deriving Repr, DecidableEq

namespace InnerClassMarker

/-- What the elements read so far say: a null name ends the reading without a marker. -/
inductive Reading where
  | anonymous
  | partly (name : Option String) (flags : Option AccessFlags)

/-- Read one more element; later elements replace earlier ones of the same name. -/
def Reading.add (reading : Reading) (element : String × EncodedValue) :
    Except RecordError Reading :=
  match reading with
  | .anonymous => .ok .anonymous
  | .partly name flags =>
      if element.1 = "name" then
        match element.2 with
        | .null => .ok .anonymous
        | value => return .partly (some (← value.asString)) flags
      else if element.1 = "accessFlags" then
        return .partly name (some (← element.2.asInt).toUInt32)
      else
        .ok (.partly name flags)

/-- The marker that an inner-class annotation holds, if it has both a name and flags. -/
def carriedBy (note : Annotation) : Except RecordError (Option InnerClassMarker) := do
  match ← note.elements.foldlM Reading.add (.partly none none) with
  | .partly (some name) (some flags) => return some ⟨name, flags⟩
  | _ => return none

/-- The marker of the first inner-class annotation. -/
def find? (annotations : Annotations) : Except RecordError (Option InnerClassMarker) :=
  match annotations.find? Platform.innerClass with
  | none => .ok none
  | some note => carriedBy note

end InnerClassMarker

end DexSurface
