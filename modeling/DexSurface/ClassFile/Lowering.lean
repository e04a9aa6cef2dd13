import DexSurface.ClassFile.Format
import DexSurface.Total

/-!
# Lowering class trees

Lowering turns the names and descriptors of a class tree into indices of one constant pool.  The
order in which constants are entered fixes their indices, so each function enters its parts in the
order of its lines.  Flags keep their low sixteen bits; the bit for deprecated elements becomes an
attribute.
-/

namespace DexSurface

namespace ClassFile

namespace Lowering

/-- The index of an optional class; zero when it is absent. -/
def optionalClass : Option InternalName → Interning Index
  | none => return 0
  | some name => Interning.classRef name

/-- The index of an optional text; zero when it is absent. -/
def optionalUtf8 : Option String → Interning Index
  | none => return 0
  | some text => Interning.utf8 text

/-- An attribute whose name is entered after its content. -/
def attributeOf (content : AttributeContent) : Interning Attribute := do
  return { name := ← Interning.utf8 content.attributeName, content }

mutual

/-- Lower an element value; strings and class literals refer to their text directly. -/
def elementValue : ElementValue → Interning ElementEntry
  | .boolean value => do
      return .constant .boolean (← Interning.integer (if value then 1 else 0))
  | .byte value => do return .constant .byte (← Interning.integer value.toInt32)
  | .short value => do return .constant .short (← Interning.integer value.toInt32)
  | .char unit => do return .constant .char (← Interning.integer unit.toUInt32.toInt32)
  | .int value => do return .constant .int (← Interning.integer value)
  | .long value => do return .constant .long (← Interning.long value)
  | .float bits => do return .constant .float (← Interning.float bits)
  | .double bits => do return .constant .double (← Interning.double bits)
  | .string text => do return .constant .string (← Interning.utf8 text)
  | .classLiteral descriptor => do return .classLiteral (← Interning.utf8 descriptor)
  | .enum descriptor name => do
      let type ← Interning.utf8 descriptor
      return .enum type (← Interning.utf8 name)
  | .nested descriptor values => do
      let type ← Interning.utf8 descriptor
      return .nested type (← namedValues values)
  | .array values => do return .array (← elementValues values)

/-- Lower element values in order. -/
def elementValues : List ElementValue → Interning (List ElementEntry)
  | [] => return []
  | value :: rest => do
      let entry ← elementValue value
      return entry :: (← elementValues rest)

/-- Lower the named values of an annotation in order, each name before its value. -/
def namedValues : List (String × ElementValue) → Interning (List (Index × ElementEntry))
  | [] => return []
  | (name, value) :: rest => do
      let nameIndex ← Interning.utf8 name
      let entry ← elementValue value
      return (nameIndex, entry) :: (← namedValues rest)

end

/-- Lower an annotation. -/
def annotationEntry (note : AnnotationTree) : Interning AnnotationEntry := do
  let type ← Interning.utf8 note.descriptor
  return { type, elements := ← namedValues note.values }

/-- The attribute with the annotations of one side, its name entered first; none if it is empty. -/
def annotationAttribute (visible : Bool) (annotations : List AnnotationTree) :
    Interning (List Attribute) := do
  if annotations.isEmpty then
    return []
  else
    let name ← Interning.utf8 (AttributeContent.annotations visible []).attributeName
    let entries ← annotations.mapM annotationEntry
    return [{ name, content := .annotations visible entries }]

/-- Signature, deprecation and annotations, which classes, fields and methods share. -/
def commonAttributes
    (flags : AccessFlags)
    (signature : Option String)
    (annotations : AnnotationSet) : Interning (List Attribute) := do
  let signatures ← match signature with
    | none => pure []
    | some text => do
        let name ← Interning.utf8 (AttributeContent.signature 0).attributeName
        pure [{ name, content := .signature (← Interning.utf8 text) }]
  let deprecated ←
    if flags.has AccessFlags.deprecatedBit then do
      pure [← attributeOf .deprecated]
    else
      pure []
  let visible ← annotationAttribute true annotations.visible
  let invisible ← annotationAttribute false annotations.invisible
  return signatures ++ deprecated ++ visible ++ invisible

/-- Lower an instruction; a string load is short when its index fits one byte. -/
def instruction : Instruction → Interning Operation
  | .simple instruction => return .simple instruction
  | .new name => do return .new (← Interning.classRef name)
  | .loadString text => do
      let index ← Interning.string text
      if index ≤ 0xff then
        return .loadShort index.toUInt8
      else
        return .loadWide index
  | .invokeSpecial owner name descriptor => do
      return .invokeSpecial (← Interning.methodRef owner name descriptor)

/-- The size in bytes of the instructions of a body, which must fit sixteen bits. -/
def codeLength (operations : List Operation) : Interning UInt16 :=
  let size := total Operation.size operations
  if size ≤ 0xffff then
    return size.toUInt16
  else
    throw (.tooLarge .code size)

/-- An entry about a local variable that lives in the whole body. -/
def variableEntry
    (length : UInt16)
    (localVariable : LocalVariable)
    (type : String) : Interning VariableEntry := do
  let name ← Interning.utf8 localVariable.name
  let type ← Interning.utf8 type
  return { start := 0, length, name, type, slot := localVariable.slot }

/-- A table of local variables; none if it has no entry. -/
def variableTable (kind : VariableTableKind) (entries : List VariableEntry) :
    Interning (List VariableTable) := do
  if entries.isEmpty then
    return []
  else
    return [{ name := ← Interning.utf8 kind.attributeName, kind, entries }]

/-- Lower a body: instructions, then the variables, then the variables with a signature. -/
def code (body : Body) : Interning Attribute := do
  let operations ← body.instructions.mapM instruction
  let length ← codeLength operations
  let entries ← body.localVariables.mapM fun localVariable =>
    variableEntry length localVariable localVariable.descriptor
  let descriptors ← variableTable .descriptors entries
  let typed ← body.localVariables.filterMapM fun localVariable =>
    match localVariable.signature with
    | none => pure none
    | some signature => some <$> variableEntry length localVariable signature
  let signatures ← variableTable .signatures typed
  attributeOf (.code body.maxStack body.maxLocals operations (descriptors ++ signatures))

/--
The check on a field descriptor: array dimensions, then a class type with a name and a final `;`, or
a text that starts with the letter of a primitive type.
-/
def checkFieldType : List Char → Except Error Unit
  | '[' :: rest => checkFieldType rest
  | ['L'] => .error .descriptorTooShort
  | 'L' :: rest =>
      if 1 < rest.length ∧ rest.getLast? = some ';' then .ok ()
      else .error (.malformedClassType (String.ofList ('L' :: rest)))
  | letter :: _ =>
      if Descriptor.primitiveLetters.contains letter then .ok ()
      else .error (.unknownTypeLetter letter)
  | [] => .error (.unknownTypeLetter '\x00')

/-- The index of the constant that initialises a field. -/
def fieldConstant : FieldConstant → Interning Index
  | .int value => Interning.integer value
  | .long value => Interning.long value
  | .float bits => Interning.float bits
  | .double bits => Interning.double bits
  | .string text => Interning.string text

/-- Lower a field; its descriptor is checked last. -/
def field (field : FieldTree) : Interning Member := do
  let name ← Interning.utf8 field.name
  let descriptor ← Interning.utf8 field.descriptor
  let values ← match field.value with
    | none => pure []
    | some value => do pure [← attributeOf (.constantValue (← fieldConstant value))]
  let common ← commonAttributes field.flags field.signature field.annotations
  match checkFieldType field.descriptor.toList with
  | .error error => throw error
  | .ok () =>
      return {
        flags := field.flags.toUInt16
        name
        descriptor
        attributes := values ++ common
      }

/-- The attribute with the checked exceptions; none if there is no exception. -/
def exceptions (names : List InternalName) : Interning (List Attribute) := do
  if names.isEmpty then
    return []
  else
    return [← attributeOf (.exceptions (← names.mapM Interning.classRef))]

/-- The attribute with the parameter names; none if there is no parameter. -/
def methodParameters (parameters : List NamedParameter) : Interning (List Attribute) := do
  if parameters.isEmpty then
    return []
  else
    let entries ← parameters.mapM fun parameter => do
      let name := if parameter.name.isEmpty then none else some parameter.name
      return { name := ← optionalUtf8 name, flags := parameter.flags.toUInt16 : ParameterEntry }
    return [← attributeOf (.methodParameters entries)]

/-- The attribute with a default value, its name entered first. -/
def annotationDefault : Option ElementValue → Interning (List Attribute)
  | none => return []
  | some value => do
      let name ← Interning.utf8 "AnnotationDefault"
      return [{ name, content := .annotationDefault (← elementValue value) }]

/-- The largest number of rows that a table of parameter annotations can have. -/
def maxParameterRows : Nat := 0xff

/-- The attribute with the annotations of parameters; none if no row has an annotation. -/
def parameterAnnotations (visible : Bool) (table : ParameterTable) :
    Interning (List Attribute) := do
  if table.all List.isEmpty then
    return []
  else if maxParameterRows < table.length then
    throw (.tooLarge .annotatedParameters table.length)
  else
    let rows ← table.mapM fun row => row.mapM annotationEntry
    return [← attributeOf (.parameterAnnotations visible rows)]

/-- Lower a method. -/
def method (method : MethodTree) : Interning Member := do
  let name ← Interning.utf8 method.name
  let descriptor ← Interning.utf8 method.descriptor
  let bodies ← match method.body with
    | none => pure []
    | some body => do pure [← code body]
  let thrown ← exceptions method.exceptions
  let common ← commonAttributes method.flags method.signature method.annotations
  let parameters ← methodParameters method.parameters
  let defaults ← annotationDefault method.annotationDefault
  let visible ← parameterAnnotations true method.visibleParameters
  let invisible ← parameterAnnotations false method.invisibleParameters
  return {
    flags := method.flags.toUInt16
    name
    descriptor
    attributes := bodies ++ thrown ++ common ++ parameters ++ defaults ++ visible ++ invisible
  }

/-- Lower an entry about a nested class. -/
def innerClass (inner : InnerClass) : Interning InnerClassEntry := do
  let name ← Interning.classRef inner.name
  let outerName ← optionalClass inner.outerName
  let innerName ← optionalUtf8 inner.innerName
  return { name, outerName, innerName, flags := inner.flags.toUInt16 }

/-- The attribute with the source file, its name entered first. -/
def sourceFile : Option String → Interning (List Attribute)
  | none => return []
  | some file => do
      let name ← Interning.utf8 (AttributeContent.sourceFile 0).attributeName
      return [{ name, content := .sourceFile (← Interning.utf8 file) }]

/-- The attribute with the nested classes; none if there is no nested class. -/
def innerClasses (classes : List InnerClass) : Interning (List Attribute) := do
  if classes.isEmpty then
    return []
  else
    return [← attributeOf (.innerClasses (← classes.mapM innerClass))]

/-- The attribute with the enclosing method; without a full method only the owner is kept. -/
def enclosingMethod : Option EnclosingMethod → Interning (List Attribute)
  | none => return []
  | some enclosing => do
      let method ← match enclosing.name, enclosing.descriptor with
        | some name, some descriptor => Interning.nameAndType name descriptor
        | _, _ => pure 0
      let name ← Interning.utf8 (AttributeContent.enclosingMethod 0 0).attributeName
      let owner ← Interning.classRef enclosing.owner
      return [{ name, content := .enclosingMethod owner method }]

/-- The attribute with the permitted subclasses; none if there is no such class. -/
def permittedSubclasses (names : List InternalName) : Interning (List Attribute) := do
  if names.isEmpty then
    return []
  else
    return [← attributeOf (.permittedSubclasses (← names.mapM Interning.classRef))]

/-- The attributes of a class in their fixed order. -/
def classAttributes (tree : ClassTree) : Interning (List Attribute) := do
  let source ← sourceFile tree.sourceFile
  let inner ← innerClasses tree.innerClasses
  let enclosing ← enclosingMethod tree.enclosingMethod
  let common ← commonAttributes tree.flags tree.signature tree.annotations
  let permitted ← permittedSubclasses tree.permittedSubclasses
  return source ++ inner ++ enclosing ++ common ++ permitted

/-- The oldest major version that can be written. -/
def oldestVersion : UInt16 := 45

/-- The newest major version that can be written. -/
def newestVersion : UInt16 := 69

/-- Lower a class up to its pool; the version is checked last. -/
def classTree (tree : ClassTree) : Interning (ConstantPool → File) := do
  let thisClass ← Interning.classRef tree.name
  let superclass ← optionalClass tree.superclass
  let interfaces ← tree.interfaces.mapM Interning.classRef
  let fields ← tree.fields.mapM field
  let methods ← tree.methods.mapM method
  let attributes ← classAttributes tree
  if oldestVersion ≤ tree.version ∧ tree.version ≤ newestVersion then
    return fun pool => {
      version := tree.version
      pool
      flags := tree.flags.toUInt16
      thisClass
      superclass
      interfaces
      fields
      methods
      attributes
    }
  else
    throw (.unsupportedVersion tree.version)

end Lowering

/-- The class file of a class tree, with the pool that its constants fill from the empty pool. -/
def ClassTree.lower (tree : ClassTree) : Except Error File :=
  match Lowering.classTree tree ConstantPool.empty with
  | .ok file pool => .ok (file pool)
  | .error error _ => .error error

end ClassFile

end DexSurface
