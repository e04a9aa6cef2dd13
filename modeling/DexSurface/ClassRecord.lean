import DexSurface.Annotation
import DexSurface.HiddenApi

/-!
# Class records

What an image says about a class: its flags, supertypes, annotations, fields and methods.  A method
body is reduced to its register count, its opcodes and the local variables of its debug
information.
-/

namespace DexSurface

/-- A debug entry that starts a local variable in a register. -/
structure LocalStart where
  /-- The code address in sixteen-bit units. -/
  address : UInt32
  register : UInt16
  name : Option String
  localType : Option TypeDescriptor
  signature : Option String
  deriving Repr, DecidableEq, Inhabited

/-- What is known about the body of a method. -/
structure MethodBody where
  registerCount : UInt16
  /-- The opcodes of the instructions in order, payloads left out. -/
  opcodes : List UInt8
  /-- The local starts in stream order. -/
  locals : List LocalStart
  deriving Repr, DecidableEq, Inhabited

/-- The opcode that enters a monitor. -/
def monitorEnterOpcode : UInt8 := 0x1d

/-- Some instruction of the body enters a monitor. -/
def MethodBody.hasMonitorEnter (body : MethodBody) : Bool :=
  body.opcodes.contains monitorEnterOpcode

/-- A method parameter; the name is the declared one, if the image kept it. -/
structure Parameter where
  parameterType : TypeDescriptor
  name : Option String
  signature : Option String
  annotations : Annotations
  deriving Repr, BEq, Inhabited

/-- A parameter whose generic signature is taken from its annotations. -/
def Parameter.ofAnnotations
    (parameterType : TypeDescriptor)
    (name : Option String)
    (annotations : Annotations) : Except RecordError Parameter := do
  let signature ← annotations.genericSignature?
  return { parameterType, name, signature, annotations }

/-- A field of a class. -/
structure FieldRecord where
  definingClass : TypeDescriptor
  name : String
  fieldType : TypeDescriptor
  flags : AccessFlags
  initialValue : Option EncodedValue
  annotations : Annotations
  hiddenApi : HiddenApi.Categories
  deriving Repr, BEq, Inhabited

/-- A method of a class. -/
structure MethodRecord where
  definingClass : TypeDescriptor
  name : String
  flags : AccessFlags
  parameters : List Parameter
  returnType : TypeDescriptor
  annotations : Annotations
  hiddenApi : HiddenApi.Categories
  body : Option MethodBody
  deriving Repr, BEq, Inhabited

namespace MethodRecord

/-- The method has no receiver. -/
def isStatic (method : MethodRecord) : Bool :=
  method.flags.has AccessFlags.staticBit

/-- The method has no implementation of its own. -/
def isAbstract (method : MethodRecord) : Bool :=
  method.flags.has AccessFlags.abstractBit

/-- The parameter types in order. -/
def parameterTypes (method : MethodRecord) : List TypeDescriptor :=
  method.parameters.map Parameter.parameterType

/-- The method descriptor. -/
def descriptor (method : MethodRecord) : String :=
  Descriptor.ofMethod method.parameterTypes method.returnType

end MethodRecord

/-- A class as an image describes it. -/
structure ClassRecord where
  typeName : TypeDescriptor
  flags : AccessFlags
  superclass : Option TypeDescriptor
  interfaces : List TypeDescriptor
  sourceFile : Option String
  annotations : Annotations
  fields : List FieldRecord
  methods : List MethodRecord
  deriving Repr, BEq, Inhabited

namespace ClassRecord

/-- The class is an interface. -/
def isInterface (record : ClassRecord) : Bool :=
  record.flags.has AccessFlags.interfaceBit

/-- The class is an annotation type. -/
def isAnnotationType (record : ClassRecord) : Bool :=
  record.flags.has AccessFlags.annotationBit

/-- The internal name of the class. -/
def internalName (record : ClassRecord) : InternalName :=
  Descriptor.internalName record.typeName

/-- The simple name and source flags, if the class is a named nested class. -/
def innerClassMarker? (record : ClassRecord) : Except RecordError (Option InnerClassMarker) :=
  InnerClassMarker.find? record.annotations

/-- The superclass, if any, followed by the interfaces. -/
def supertypes (record : ClassRecord) : List TypeDescriptor :=
  record.superclass.toList ++ record.interfaces

end ClassRecord

end DexSurface
