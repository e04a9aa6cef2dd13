import DexSurface.EncodedValue
import DexSurface.AccessFlags

/-!
# Drafts of images

A draft describes the classes of an image that is to be written.  It can state everything that the
tables of an image can hold, also what no reader accepts.
-/

namespace DexSurface

namespace Dex

/-- A value to be written. -/
inductive ValueDraft where
  | boolean (value : Bool)
  | byte (value : Int8)
  | char (unit : UInt16)
  | int (value : Int32)
  | long (value : Int64)
  | float (bits : UInt32)
  | double (bits : UInt64)
  | string (text : String)
  | type (descriptor : TypeDescriptor)
  | enum (constant : FieldRef)
  | null
  | array (values : List ValueDraft)
  | nested (annotationType : TypeDescriptor) (elements : List (String × ValueDraft))
  | methodType
  deriving Repr, BEq, Inhabited

/-- An annotation to be written; its visibility is any byte. -/
structure AnnotationDraft where
  visibility : UInt8
  annotationType : TypeDescriptor
  elements : List (String × ValueDraft)
  deriving Repr, BEq, Inhabited

/-- An event of the debug information of a body. -/
inductive DebugEvent where
  | advanceAddress (amount : Nat)
  | endLocal (register : Nat)
  | startLocal (register : Nat) (name : String) (localType : TypeDescriptor)
  | startLocalExtended (register : Nat) (name : String) (localType : TypeDescriptor)
      (signature : String)
  deriving Repr, DecidableEq

/-- The debug information of a body: declared parameter names, then events. -/
structure DebugDraft where
  parameterNames : List (Option String)
  events : List DebugEvent
  deriving Repr, DecidableEq

/-- The body of a method to be written. -/
structure BodyDraft where
  registerCount : UInt16
  units : List UInt16
  debug : Option DebugDraft
  deriving Repr, DecidableEq

/-- A field to be written. -/
structure FieldDraft where
  name : String
  fieldType : TypeDescriptor
  flags : AccessFlags
  annotations : List AnnotationDraft
  deriving Repr, BEq

/-- A method to be written, with the annotations of its parameters by position. -/
structure MethodDraft where
  name : String
  parameterTypes : List TypeDescriptor
  returnType : TypeDescriptor
  flags : AccessFlags
  annotations : List AnnotationDraft
  parameterAnnotations : List (List AnnotationDraft)
  body : Option BodyDraft
  deriving Repr, BEq

/--
A class to be written.  The values belong to the first static fields; the restriction flags, if
there are any, to the members in the order of the class data.
-/
structure ClassDraft where
  typeName : TypeDescriptor
  flags : AccessFlags
  superclass : Option TypeDescriptor
  interfaces : List TypeDescriptor
  sourceFile : Option String
  annotations : List AnnotationDraft
  staticFields : List FieldDraft
  instanceFields : List FieldDraft
  directMethods : List MethodDraft
  virtualMethods : List MethodDraft
  staticValues : List ValueDraft
  restrictions : Option (List UInt32)
  deriving Repr, BEq

end Dex

end DexSurface
