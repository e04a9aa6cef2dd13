import DexSurface.Descriptor

/-!
# Encoded values

The literal values of annotations and static field initialisers.  Floating-point values are kept
as their bit patterns, so that signed zeros and all payloads of not-a-number stay distinct.
-/

namespace DexSurface

/-- A reference to a field. -/
structure FieldRef where
  definingClass : TypeDescriptor
  name : String
  fieldType : TypeDescriptor
  deriving Repr, DecidableEq, Inhabited

/-- A reference to a method. -/
structure MethodRef where
  definingClass : TypeDescriptor
  name : String
  parameterTypes : List TypeDescriptor
  returnType : TypeDescriptor
  deriving Repr, DecidableEq, Inhabited

/-- The method descriptor of a reference. -/
def MethodRef.descriptor (method : MethodRef) : String :=
  Descriptor.ofMethod method.parameterTypes method.returnType

/-- A literal value; a nested annotation lists its named elements in order. -/
inductive EncodedValue where
  | boolean (value : Bool)
  | byte (value : Int8)
  | short (value : Int16)
  | char (unit : UInt16)
  | int (value : Int32)
  | long (value : Int64)
  | float (bits : UInt32)
  | double (bits : UInt64)
  | string (text : String)
  | type (descriptor : TypeDescriptor)
  | null
  | enum (constant : FieldRef)
  | field (field : FieldRef)
  | method (method : MethodRef)
  | nested (annotationType : TypeDescriptor) (elements : List (String × EncodedValue))
  | array (values : List EncodedValue)
  deriving Repr, BEq, Inhabited

/-- The kinds of literal values. -/
inductive ValueKind where
  | boolean
  | byte
  | short
  | char
  | int
  | long
  | float
  | double
  | string
  | type
  | null
  | enum
  | field
  | method
  | nested
  | array
  deriving Repr, DecidableEq

/-- The word for a kind in messages. -/
def ValueKind.name : ValueKind → String
  | .boolean => "boolean"
  | .byte => "byte"
  | .short => "short"
  | .char => "char"
  | .int => "int"
  | .long => "long"
  | .float => "float"
  | .double => "double"
  | .string => "string"
  | .type => "type"
  | .null => "null"
  | .enum => "enum"
  | .field => "field"
  | .method => "method"
  | .nested => "annotation"
  | .array => "array"

/-- Why a metadata annotation or a descriptor cannot be read. -/
inductive RecordError where
  | malformedDescriptor (descriptor : TypeDescriptor)
  | unexpectedValue (expected found : ValueKind)
  | unexpectedElement (annotationType : TypeDescriptor) (element : String)
  | elementCount (annotationType : TypeDescriptor) (count : Nat)
  deriving Repr, DecidableEq

/-- The text of a metadata error. -/
def RecordError.message : RecordError → String
  | .malformedDescriptor descriptor => "malformed type descriptor: " ++ descriptor
  | .unexpectedValue expected found =>
      "expected " ++ expected.name ++ " value, found " ++ found.name
  | .unexpectedElement annotationType element =>
      "malformed annotation " ++ annotationType ++ ": unexpected element " ++ element
  | .elementCount annotationType count =>
      "malformed annotation " ++ annotationType ++ ": expected 1 element, found "
        ++ Nat.repr count

/-- Refuse a text that is not a field type. -/
def Descriptor.validate (descriptor : TypeDescriptor) : Except RecordError Unit :=
  if isValid descriptor then .ok () else .error (.malformedDescriptor descriptor)

namespace EncodedValue

/-- The kind of a value. -/
def kind : EncodedValue → ValueKind
  | .boolean _ => .boolean
  | .byte _ => .byte
  | .short _ => .short
  | .char _ => .char
  | .int _ => .int
  | .long _ => .long
  | .float _ => .float
  | .double _ => .double
  | .string _ => .string
  | .type _ => .type
  | .null => .null
  | .enum _ => .enum
  | .field _ => .field
  | .method _ => .method
  | .nested _ _ => .nested
  | .array _ => .array

/-- The text of a string value. -/
def asString : EncodedValue → Except RecordError String
  | .string text => .ok text
  | other => .error (.unexpectedValue .string other.kind)

/-- The descriptor of a type value. -/
def asType : EncodedValue → Except RecordError TypeDescriptor
  | .type descriptor => .ok descriptor
  | other => .error (.unexpectedValue .type other.kind)

/-- The number of an int value. -/
def asInt : EncodedValue → Except RecordError Int32
  | .int value => .ok value
  | other => .error (.unexpectedValue .int other.kind)

/-- The members of an array value. -/
def asArray : EncodedValue → Except RecordError (List EncodedValue)
  | .array values => .ok values
  | other => .error (.unexpectedValue .array other.kind)

/-- The reference of a method value. -/
def asMethod : EncodedValue → Except RecordError MethodRef
  | .method reference => .ok reference
  | other => .error (.unexpectedValue .method other.kind)

/-- The type and the elements of an annotation value. -/
def asNested :
    EncodedValue → Except RecordError (TypeDescriptor × List (String × EncodedValue))
  | .nested annotationType elements => .ok (annotationType, elements)
  | other => .error (.unexpectedValue .nested other.kind)

end EncodedValue

end DexSurface
