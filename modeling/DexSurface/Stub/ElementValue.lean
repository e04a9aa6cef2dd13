import DexSurface.Annotation
import DexSurface.ClassFile.Tree
import DexSurface.RunError

/-!
# Values in class files

Annotation values and field constants of an image as class-file values.  A reference to a field or a
method becomes an enum value of its defining class and its name.  A null cannot stand in an
annotation, and as a field value it means that there is no constant.
-/

namespace DexSurface

namespace Stub

mutual

/-- The class-file form of an annotation value. -/
def elementValue : EncodedValue → Except RunError ClassFile.ElementValue
  | .boolean value => .ok (.boolean value)
  | .byte value => .ok (.byte value)
  | .short value => .ok (.short value)
  | .char unit => .ok (.char unit)
  | .int value => .ok (.int value)
  | .long value => .ok (.long value)
  | .float bits => .ok (.float bits)
  | .double bits => .ok (.double bits)
  | .string text => .ok (.string text)
  | .type descriptor => .ok (.classLiteral descriptor)
  | .enum reference => .ok (.enum reference.definingClass reference.name)
  | .field reference => .ok (.enum reference.definingClass reference.name)
  | .method reference => .ok (.enum reference.definingClass reference.name)
  | .nested annotationType elements => do
      return .nested annotationType (← namedValues elements)
  | .array values => do return .array (← elementValues values)
  | .null => .error (.unsupportedValue .null .annotationElement)

/-- The class-file forms of annotation values in order. -/
def elementValues : List EncodedValue → Except RunError (List ClassFile.ElementValue)
  | [] => .ok []
  | value :: rest => do
      let first ← elementValue value
      return first :: (← elementValues rest)

/-- The class-file forms of named annotation values in order. -/
def namedValues :
    List (String × EncodedValue) → Except RunError (List (String × ClassFile.ElementValue))
  | [] => .ok []
  | (name, value) :: rest => do
      let first ← elementValue value
      return (name, first) :: (← namedValues rest)

end

/-- The class-file form of an annotation, whose visibility decides where it goes. -/
def annotationTree (note : Annotation) : Except RunError ClassFile.AnnotationTree := do
  return { descriptor := note.annotationType, values := ← namedValues note.elements }

/-- The constant that a field value stands for. -/
def fieldConstant? : EncodedValue → Except RunError (Option ClassFile.FieldConstant)
  | .boolean value => .ok (some (.int (if value then 1 else 0)))
  | .byte value => .ok (some (.int value.toInt32))
  | .short value => .ok (some (.int value.toInt32))
  | .char unit => .ok (some (.int unit.toUInt32.toInt32))
  | .int value => .ok (some (.int value))
  | .long value => .ok (some (.long value))
  | .float bits => .ok (some (.float bits))
  | .double bits => .ok (some (.double bits))
  | .string text => .ok (some (.string text))
  | .null => .ok none
  | other => .error (.unsupportedValue other.kind .fieldInitializer)

/--
The class-file forms of annotations in order, each on the side of its visibility; annotations of a
reserved type are left out.
-/
def annotationSet (reserved : List TypeDescriptor) (annotations : Annotations) :
    Except RunError ClassFile.AnnotationSet :=
  (annotations.filter fun note => !reserved.contains note.annotationType).foldlM
    (fun set note => do
      return set.add (← annotationTree note) note.visibility.isRuntimeVisible)
    .empty

end Stub

end DexSurface
