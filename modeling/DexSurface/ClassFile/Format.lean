import DexSurface.ClassFile.ConstantPool
import DexSurface.ClassFile.Tree

/-!
# The structures of a class file

A class file states every name, type and constant as an index into its constant pool.  These are its
structures with such indices, before they become bytes.
-/

namespace DexSurface

namespace ClassFile

/-- The instructions of a body with pool indices as operands. -/
inductive Operation where
  | simple (instruction : SimpleInstruction)
  | new (classRef : Index)
  /-- Load a string whose index fits one byte. -/
  | loadShort (index : UInt8)
  /-- Load a string whose index takes two bytes. -/
  | loadWide (index : Index)
  | invokeSpecial (method : Index)
  deriving Repr, DecidableEq

/-- The kinds of element values that are one constant of the pool. -/
inductive ElementKind where
  | byte
  | char
  | double
  | float
  | int
  | long
  | short
  | boolean
  | string
  deriving Repr, DecidableEq

/-- An element value with pool indices. -/
inductive ElementEntry where
  | constant (kind : ElementKind) (value : Index)
  | enum (type name : Index)
  | classLiteral (descriptor : Index)
  | nested (type : Index) (elements : List (Index × ElementEntry))
  | array (values : List ElementEntry)
  deriving Repr, BEq

/-- An annotation with pool indices. -/
structure AnnotationEntry where
  type : Index
  elements : List (Index × ElementEntry)
  deriving Repr, BEq

/-- An entry about a nested class; absent parts have index zero. -/
structure InnerClassEntry where
  name : Index
  outerName : Index
  innerName : Index
  flags : UInt16
  deriving Repr, DecidableEq

/-- An entry about a parameter; an absent name has index zero. -/
structure ParameterEntry where
  name : Index
  flags : UInt16
  deriving Repr, DecidableEq

/-- An entry about a local variable, with its descriptor or its signature as type. -/
structure VariableEntry where
  start : UInt16
  length : UInt16
  name : Index
  type : Index
  slot : UInt16
  deriving Repr, DecidableEq

/-- The two tables of local variables. -/
inductive VariableTableKind where
  | descriptors
  | signatures
  deriving Repr, DecidableEq

/-- A table of local variables in a body. -/
structure VariableTable where
  name : Index
  kind : VariableTableKind
  entries : List VariableEntry
  deriving Repr, DecidableEq

/-- What an attribute of a class, field or method holds. -/
inductive AttributeContent where
  | sourceFile (file : Index)
  | innerClasses (classes : List InnerClassEntry)
  | enclosingMethod (owner method : Index)
  | signature (signature : Index)
  | deprecated
  | annotations (visible : Bool) (annotations : List AnnotationEntry)
  | permittedSubclasses (classes : List Index)
  | constantValue (value : Index)
  | exceptions (classes : List Index)
  | methodParameters (parameters : List ParameterEntry)
  | annotationDefault (value : ElementEntry)
  | parameterAnnotations (visible : Bool) (rows : List (List AnnotationEntry))
  | code
      (maxStack maxLocals : UInt16)
      (operations : List Operation)
      (tables : List VariableTable)
  deriving Repr, BEq

/-- An attribute with the index of its name. -/
structure Attribute where
  name : Index
  content : AttributeContent
  deriving Repr, BEq

/-- A field or a method with pool indices. -/
structure Member where
  flags : UInt16
  name : Index
  descriptor : Index
  attributes : List Attribute
  deriving Repr, BEq

/-- A class file; an absent superclass has index zero. -/
structure File where
  version : UInt16
  pool : ConstantPool
  flags : UInt16
  thisClass : Index
  superclass : Index
  interfaces : List Index
  fields : List Member
  methods : List Member
  attributes : List Attribute

/-- The name under which an attribute is stored. -/
def AttributeContent.attributeName : AttributeContent → String
  | .sourceFile _ => "SourceFile"
  | .innerClasses _ => "InnerClasses"
  | .enclosingMethod _ _ => "EnclosingMethod"
  | .signature _ => "Signature"
  | .deprecated => "Deprecated"
  | .annotations true _ => "RuntimeVisibleAnnotations"
  | .annotations false _ => "RuntimeInvisibleAnnotations"
  | .permittedSubclasses _ => "PermittedSubclasses"
  | .constantValue _ => "ConstantValue"
  | .exceptions _ => "Exceptions"
  | .methodParameters _ => "MethodParameters"
  | .annotationDefault _ => "AnnotationDefault"
  | .parameterAnnotations true _ => "RuntimeVisibleParameterAnnotations"
  | .parameterAnnotations false _ => "RuntimeInvisibleParameterAnnotations"
  | .code _ _ _ _ => "Code"

/-- The name under which a table of local variables is stored. -/
def VariableTableKind.attributeName : VariableTableKind → String
  | .descriptors => "LocalVariableTable"
  | .signatures => "LocalVariableTypeTable"

/-- The number of bytes that an instruction takes. -/
def Operation.size : Operation → Nat
  | .simple _ => 1
  | .loadShort _ => 2
  | .new _ => 3
  | .loadWide _ => 3
  | .invokeSpecial _ => 3

end ClassFile

end DexSurface
