import DexSurface.ClassRecord

/-!
# Mentioned types

The types that a class mentions.  Every class mentions its superclass, its interfaces and the types
in its annotations; an accessible class also mentions the types of its accessible members.
-/

namespace DexSurface

namespace EncodedValue

mutual

/-- The types that a value names, at any depth. -/
def mentions : EncodedValue → List TypeDescriptor
  | .nested annotationType elements => annotationType :: mentionsOfElements elements
  | .array values => mentionsOfValues values
  | .type descriptor => [descriptor]
  | .enum reference => [reference.definingClass, reference.fieldType]
  | .field reference => [reference.definingClass, reference.fieldType]
  | .method reference =>
      reference.definingClass :: reference.returnType :: reference.parameterTypes
  | _ => []

/-- The types that values name. -/
def mentionsOfValues : List EncodedValue → List TypeDescriptor
  | [] => []
  | value :: rest => mentions value ++ mentionsOfValues rest

/-- The types that the values of named elements name. -/
def mentionsOfElements : List (String × EncodedValue) → List TypeDescriptor
  | [] => []
  | (_, value) :: rest => mentions value ++ mentionsOfElements rest

end

end EncodedValue

/-- An opaque marker mentions nothing; another annotation its type and the types in its values. -/
def Annotation.mentions (note : Annotation) : List TypeDescriptor :=
  if note.isOpaqueMarker then
    []
  else
    note.annotationType :: EncodedValue.mentionsOfElements note.elements

/-- The types that annotations mention. -/
def Annotations.mentions (annotations : Annotations) : List TypeDescriptor :=
  annotations.flatMap Annotation.mentions

/-- A field mentions its type and the types in its annotations. -/
def FieldRecord.mentions (field : FieldRecord) : List TypeDescriptor :=
  field.fieldType :: field.annotations.mentions

/-- A parameter mentions its type and the types in its annotations. -/
def Parameter.mentions (parameter : Parameter) : List TypeDescriptor :=
  parameter.parameterType :: parameter.annotations.mentions

/-- A method mentions the types of its descriptor and of all its annotations. -/
def MethodRecord.mentions (method : MethodRecord) : List TypeDescriptor :=
  method.returnType :: (method.parameters.flatMap Parameter.mentions ++ method.annotations.mentions)

namespace ClassRecord

/-- The types that a class mentions outside of its members. -/
def hierarchyMentions (record : ClassRecord) : List TypeDescriptor :=
  record.superclass.toList ++ record.annotations.mentions ++ record.interfaces

/-- The accessible fields in order. -/
def accessibleFields (record : ClassRecord) : List FieldRecord :=
  record.fields.filter fun field => field.flags.isAccessible

/-- The accessible methods in order. -/
def accessibleMethods (record : ClassRecord) : List MethodRecord :=
  record.methods.filter fun method => method.flags.isAccessible

/-- The types that an accessible class mentions, those of its accessible members included. -/
def surfaceMentions (record : ClassRecord) : List TypeDescriptor :=
  record.hierarchyMentions
    ++ record.accessibleFields.flatMap FieldRecord.mentions
    ++ record.accessibleMethods.flatMap MethodRecord.mentions

end ClassRecord

end DexSurface
