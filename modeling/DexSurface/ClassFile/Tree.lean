import DexSurface.AccessFlags
import DexSurface.Descriptor

/-!
# Class trees

A class with its members as names and descriptors, before they become indices of a constant pool.
Class references are internal names and types are descriptors.  Only the attributes that stubs need
are modelled.
-/

namespace DexSurface

namespace ClassFile

/-- The instructions without operands that stub bodies use. -/
inductive SimpleInstruction where
  | nop
  | pushNull
  | pushInt
  | pushLong
  | pushFloat
  | pushDouble
  | loadThis
  | dup
  | athrow
  | returnInt
  | returnLong
  | returnFloat
  | returnDouble
  | returnReference
  | returnVoid
  deriving Repr, DecidableEq, Inhabited

/-- The instructions of stub bodies, with names for their operands. -/
inductive Instruction where
  | simple (instruction : SimpleInstruction)
  /-- Create an object of a class. -/
  | new (name : InternalName)
  /-- Load a string constant. -/
  | loadString (text : String)
  /-- Call a constructor. -/
  | invokeSpecial (owner : InternalName) (name descriptor : String)
  deriving Repr, DecidableEq, Inhabited

/-- A value in an annotation; floating-point numbers are bits. -/
inductive ElementValue where
  | boolean (value : Bool)
  | byte (value : Int8)
  | short (value : Int16)
  | char (unit : UInt16)
  | int (value : Int32)
  | long (value : Int64)
  | float (bits : UInt32)
  | double (bits : UInt64)
  | string (text : String)
  | classLiteral (descriptor : TypeDescriptor)
  | enum (descriptor : TypeDescriptor) (name : String)
  | nested (descriptor : TypeDescriptor) (values : List (String × ElementValue))
  | array (values : List ElementValue)
  deriving Repr, BEq, Inhabited

/-- An annotation with its named values. -/
structure AnnotationTree where
  descriptor : TypeDescriptor
  values : List (String × ElementValue)
  deriving Repr, BEq, Inhabited

/-- The annotations of an element: those kept at run time and the others. -/
structure AnnotationSet where
  visible : List AnnotationTree
  invisible : List AnnotationTree
  deriving Repr, BEq, Inhabited

namespace AnnotationSet

/-- No annotations. -/
def empty : AnnotationSet := ⟨[], []⟩

/-- Append an annotation on its side. -/
def add (annotations : AnnotationSet) (note : AnnotationTree) (visible : Bool) :
    AnnotationSet :=
  if visible then
    { annotations with visible := annotations.visible ++ [note] }
  else
    { annotations with invisible := annotations.invisible ++ [note] }

end AnnotationSet

/-- The class and the method around a nested class. -/
structure EnclosingMethod where
  owner : InternalName
  name : Option String
  descriptor : Option String
  deriving Repr, DecidableEq, Inhabited

/-- An entry about a nested class. -/
structure InnerClass where
  name : InternalName
  outerName : Option InternalName
  innerName : Option String
  flags : AccessFlags
  deriving Repr, DecidableEq, Inhabited

/-- The constants that initialise a field. -/
inductive FieldConstant where
  | int (value : Int32)
  | long (value : Int64)
  | float (bits : UInt32)
  | double (bits : UInt64)
  | string (text : String)
  deriving Repr, DecidableEq, Inhabited

/-- A field of a class tree. -/
structure FieldTree where
  flags : AccessFlags
  name : String
  descriptor : TypeDescriptor
  signature : Option String
  value : Option FieldConstant
  annotations : AnnotationSet
  deriving Repr, BEq, Inhabited

/-- A declared parameter name; the empty name stands for none. -/
structure NamedParameter where
  name : String
  flags : AccessFlags
  deriving Repr, DecidableEq, Inhabited

/-- A local variable that lives in the whole body. -/
structure LocalVariable where
  name : String
  descriptor : TypeDescriptor
  signature : Option String
  slot : UInt16
  deriving Repr, DecidableEq, Inhabited

/-- A method body. -/
structure Body where
  maxStack : UInt16
  maxLocals : UInt16
  instructions : List Instruction
  localVariables : List LocalVariable
  deriving Repr, DecidableEq, Inhabited

/-- The annotations of a method's parameters, a row for each parameter. -/
abbrev ParameterTable := List (List AnnotationTree)

/--
Append an annotation to the row of a parameter; the table first grows to hold that row and at least
`count` rows.
-/
def ParameterTable.add
    (table : ParameterTable)
    (index count : Nat)
    (note : AnnotationTree) : ParameterTable :=
  let rows := table ++ List.replicate (max count (index + 1) - table.length) []
  rows.modify index (· ++ [note])

/-- A method of a class tree. -/
structure MethodTree where
  flags : AccessFlags
  name : String
  descriptor : String
  signature : Option String
  exceptions : List InternalName
  parameters : List NamedParameter
  annotationDefault : Option ElementValue
  annotations : AnnotationSet
  visibleParameters : ParameterTable
  invisibleParameters : ParameterTable
  body : Option Body
  deriving Repr, BEq, Inhabited

namespace MethodTree

/-- A method with a name and a descriptor and nothing else. -/
def bare (flags : AccessFlags) (name descriptor : String) : MethodTree where
  flags
  name
  descriptor
  signature := none
  exceptions := []
  parameters := []
  annotationDefault := none
  annotations := .empty
  visibleParameters := []
  invisibleParameters := []
  body := none

/-- Append an annotation to the row of a parameter, on its side. -/
def annotateParameter
    (method : MethodTree)
    (index count : Nat)
    (note : AnnotationTree)
    (visible : Bool) : MethodTree :=
  if visible then
    { method with visibleParameters := method.visibleParameters.add index count note }
  else
    { method with invisibleParameters := method.invisibleParameters.add index count note }

end MethodTree

/-- A class with its members. -/
structure ClassTree where
  version : UInt16
  flags : AccessFlags
  name : InternalName
  signature : Option String
  superclass : Option InternalName
  interfaces : List InternalName
  sourceFile : Option String
  enclosingMethod : Option EnclosingMethod
  innerClasses : List InnerClass
  permittedSubclasses : List InternalName
  annotations : AnnotationSet
  fields : List FieldTree
  methods : List MethodTree
  deriving Repr, BEq, Inhabited

/-- A class with a name and nothing else. -/
def ClassTree.bare (version : UInt16) (flags : AccessFlags) (name : InternalName) : ClassTree where
  version
  flags
  name
  signature := none
  superclass := none
  interfaces := []
  sourceFile := none
  enclosingMethod := none
  innerClasses := []
  permittedSubclasses := []
  annotations := .empty
  fields := []
  methods := []

end ClassFile

end DexSurface
