import DexSurface.ClassFile.Format
import DexSurface.Total
import DexSurface.Proofs.ClassFile.PoolConsistency

namespace DexSurface

namespace ClassFile

/-!
# Reading a class file back

A class file is read through its constant pool into the class tree that it describes.  Every index
is looked up, and reading fails as soon as one of them does not stand for a constant of the kind
that its place requires.  An attribute is read only under the name that belongs to its content.
-/

namespace ConstantPool

/-- The text of the string constant at an index. -/
def stringText? (pool : ConstantPool) (index : Index) : Option String :=
  match pool.request? index with
  | some (.string text) => some text
  | _ => none

/-- What stands at an index, if the index is not zero. -/
def optional? (read? : Index → Option α) (index : Index) : Option (Option α) :=
  if index = 0 then some none else some <$> read? index

end ConstantPool

/-! Values and annotations. -/

/-- The value that a constant of the required kind stands for. -/
def ElementKind.value? : ElementKind → Request → Option ElementValue
  | .byte, .integer value => some (.byte value.toInt8)
  | .char, .integer value => some (.char value.toUInt32.toUInt16)
  | .double, .double bits => some (.double bits)
  | .float, .float bits => some (.float bits)
  | .int, .integer value => some (.int value)
  | .long, .long value => some (.long value)
  | .short, .integer value => some (.short value.toInt16)
  | .boolean, .integer value => some (.boolean (value != 0))
  | .string, .utf8 text => some (.string text)
  | _, _ => none

namespace ElementEntry

mutual

/-- Read an element value. -/
def read? (pool : ConstantPool) : ElementEntry → Option ElementValue
  | .constant kind value => pool.request? value >>= kind.value?
  | .enum type name => do return .enum (← pool.utf8? type) (← pool.utf8? name)
  | .classLiteral descriptor => do return .classLiteral (← pool.utf8? descriptor)
  | .nested type elements => do
      return .nested (← pool.utf8? type) (← readNamed? pool elements)
  | .array values => do return .array (← readAll? pool values)

/-- Read element values in order. -/
def readAll? (pool : ConstantPool) : List ElementEntry → Option (List ElementValue)
  | [] => some []
  | entry :: rest => do return (← read? pool entry) :: (← readAll? pool rest)

/-- Read the named values of an annotation in order. -/
def readNamed? (pool : ConstantPool) :
    List (Index × ElementEntry) → Option (List (String × ElementValue))
  | [] => some []
  | (name, entry) :: rest => do
      return (← pool.utf8? name, ← read? pool entry) :: (← readNamed? pool rest)

end

end ElementEntry

/-- Read an annotation. -/
def AnnotationEntry.read? (pool : ConstantPool) (entry : AnnotationEntry) :
    Option AnnotationTree := do
  return { descriptor := ← pool.utf8? entry.type,
           values := ← ElementEntry.readNamed? pool entry.elements }

/-! Bodies. -/

/-- Read an instruction. -/
def Operation.read? (pool : ConstantPool) : Operation → Option Instruction
  | .simple instruction => some (.simple instruction)
  | .new classRef => do return .new (← pool.className? classRef)
  | .loadShort index => do return .loadString (← pool.stringText? index.toUInt16)
  | .loadWide index => do return .loadString (← pool.stringText? index)
  | .invokeSpecial method =>
      match pool.request? method with
      | some (.methodRef owner name descriptor) => some (.invokeSpecial owner name descriptor)
      | _ => none

/-- A local variable with its descriptor or its signature as type. -/
structure TypedVariable where
  name : String
  type : String
  slot : UInt16
  deriving DecidableEq

/-- Read an entry about a local variable that lives in a whole body of the given size. -/
def VariableEntry.read? (pool : ConstantPool) (size : Nat) (entry : VariableEntry) :
    Option TypedVariable :=
  if entry.start = 0 ∧ entry.length.toNat = size then do
    return { name := ← pool.utf8? entry.name, type := ← pool.utf8? entry.type, slot := entry.slot }
  else
    none

/-- The two tables of local variables, as far as they have been read. -/
structure VariableTables where
  descriptors : List TypedVariable
  signatures : List TypedVariable

/-- The tables with other entries in one of them. -/
def VariableTables.put (tables : VariableTables) :
    VariableTableKind → List TypedVariable → VariableTables
  | .descriptors, entries => { tables with descriptors := entries }
  | .signatures, entries => { tables with signatures := entries }

/-- Read one more table of local variables. -/
def VariableTables.add?
    (pool : ConstantPool)
    (size : Nat)
    (tables : VariableTables)
    (table : VariableTable) : Option VariableTables := do
  if (← pool.utf8? table.name) = table.kind.attributeName then
    return tables.put table.kind (← table.entries.mapM (VariableEntry.read? pool size))
  else
    none

/-- Variables with signatures: a variable takes the next signature that has its name and slot. -/
def assignSignatures : List TypedVariable → List TypedVariable → List LocalVariable
  | [], _ => []
  | described :: rest, [] =>
      ⟨described.name, described.type, none, described.slot⟩ :: assignSignatures rest []
  | described :: rest, signed :: others =>
      if signed.name = described.name ∧ signed.slot = described.slot then
        ⟨described.name, described.type, some signed.type, described.slot⟩
          :: assignSignatures rest others
      else
        ⟨described.name, described.type, none, described.slot⟩
          :: assignSignatures rest (signed :: others)

/-- Read a body. -/
def readBody?
    (pool : ConstantPool)
    (maxStack maxLocals : UInt16)
    (operations : List Operation)
    (tables : List VariableTable) : Option Body := do
  let instructions ← operations.mapM (Operation.read? pool)
  let size := total Operation.size operations
  let locals ← tables.foldlM (VariableTables.add? pool size) ⟨[], []⟩
  return {
    maxStack
    maxLocals
    instructions
    localVariables := assignSignatures locals.descriptors locals.signatures
  }

/-! Attributes. -/

/-- The content of an attribute that stands under the name of its kind. -/
def Attribute.content? (pool : ConstantPool) (item : Attribute) : Option AttributeContent := do
  if (← pool.utf8? item.name) = item.content.attributeName then
    return item.content
  else
    none

/-- What the attributes that classes, fields and methods share say. -/
structure CommonParts where
  flags : AccessFlags
  signature : Option String
  annotations : AnnotationSet

/-- The annotations with other ones on one side. -/
def AnnotationSet.withSide
    (annotations : AnnotationSet)
    (visible : Bool)
    (notes : List AnnotationTree) : AnnotationSet :=
  if visible then { annotations with visible := notes } else { annotations with invisible := notes }

/-- Read one more of the shared attributes; any other attribute is refused. -/
def CommonParts.add?
    (pool : ConstantPool)
    (parts : CommonParts) : AttributeContent → Option CommonParts
  | .signature signature => do return { parts with signature := ← pool.utf8? signature }
  | .deprecated => some { parts with flags := parts.flags ||| AccessFlags.deprecatedBit }
  | .annotations visible entries => do
      let notes ← entries.mapM (AnnotationEntry.read? pool)
      return { parts with annotations := parts.annotations.withSide visible notes }
  | _ => none

/-- Read one more attribute that is shared. -/
def CommonParts.addAttribute?
    (pool : ConstantPool)
    (parts : CommonParts)
    (item : Attribute) : Option CommonParts := do
  parts.add? pool (← item.content? pool)

/-- The initial value of a field. -/
def fieldConstant? : Request → Option FieldConstant
  | .integer value => some (.int value)
  | .long value => some (.long value)
  | .float bits => some (.float bits)
  | .double bits => some (.double bits)
  | .string text => some (.string text)
  | _ => none

/-- What a field has in common with other elements. -/
def FieldTree.common (field : FieldTree) : CommonParts :=
  ⟨field.flags, field.signature, field.annotations⟩

/-- A field with other shared parts. -/
def FieldTree.withCommon (field : FieldTree) (parts : CommonParts) : FieldTree :=
  { field with
    flags := parts.flags, signature := parts.signature, annotations := parts.annotations }

/-- Read one more attribute of a field. -/
def FieldTree.addAttribute?
    (pool : ConstantPool)
    (field : FieldTree)
    (item : Attribute) : Option FieldTree := do
  match ← item.content? pool with
  | .constantValue value =>
      return { field with value := some (← pool.request? value >>= fieldConstant?) }
  | content => return field.withCommon (← field.common.add? pool content)

/-- Read a field. -/
def Member.readField? (pool : ConstantPool) (member : Member) : Option FieldTree := do
  let name ← pool.utf8? member.name
  let descriptor ← pool.utf8? member.descriptor
  member.attributes.foldlM (FieldTree.addAttribute? pool) {
    flags := member.flags.toUInt32
    name
    descriptor
    signature := none
    value := none
    annotations := .empty
  }

/-- Read an entry about a parameter; the empty name stands for an absent one. -/
def ParameterEntry.read? (pool : ConstantPool) (entry : ParameterEntry) :
    Option NamedParameter := do
  let name? ← ConstantPool.optional? pool.utf8? entry.name
  return { name := name?.getD "", flags := entry.flags.toUInt32 }

/-- What a method has in common with other elements. -/
def MethodTree.common (method : MethodTree) : CommonParts :=
  ⟨method.flags, method.signature, method.annotations⟩

/-- A method with other shared parts. -/
def MethodTree.withCommon (method : MethodTree) (parts : CommonParts) : MethodTree :=
  { method with
    flags := parts.flags, signature := parts.signature, annotations := parts.annotations }

/-- A method with another table of parameter annotations on one side. -/
def MethodTree.withParameterTable
    (method : MethodTree)
    (visible : Bool)
    (table : ParameterTable) : MethodTree :=
  if visible then { method with visibleParameters := table }
  else { method with invisibleParameters := table }

/-- Read one more attribute of a method. -/
def MethodTree.addAttribute?
    (pool : ConstantPool)
    (method : MethodTree)
    (item : Attribute) : Option MethodTree := do
  match ← item.content? pool with
  | .code maxStack maxLocals operations tables =>
      return { method with body := some (← readBody? pool maxStack maxLocals operations tables) }
  | .exceptions classes =>
      return { method with exceptions := ← classes.mapM pool.className? }
  | .methodParameters parameters =>
      return { method with parameters := ← parameters.mapM (ParameterEntry.read? pool) }
  | .annotationDefault value =>
      return { method with annotationDefault := some (← ElementEntry.read? pool value) }
  | .parameterAnnotations visible rows =>
      return method.withParameterTable visible
        (← rows.mapM fun row => row.mapM (AnnotationEntry.read? pool))
  | content => return method.withCommon (← method.common.add? pool content)

/-- Read a method. -/
def Member.readMethod? (pool : ConstantPool) (member : Member) : Option MethodTree := do
  let name ← pool.utf8? member.name
  let descriptor ← pool.utf8? member.descriptor
  member.attributes.foldlM (MethodTree.addAttribute? pool)
    (.bare member.flags.toUInt32 name descriptor)

/-- Read an entry about a nested class. -/
def InnerClassEntry.read? (pool : ConstantPool) (entry : InnerClassEntry) :
    Option InnerClass := do
  return { name := ← pool.className? entry.name,
           outerName := ← ConstantPool.optional? pool.className? entry.outerName,
           innerName := ← ConstantPool.optional? pool.utf8? entry.innerName,
           flags := entry.flags.toUInt32 }

/-- What a class has in common with other elements. -/
def ClassTree.common (tree : ClassTree) : CommonParts :=
  ⟨tree.flags, tree.signature, tree.annotations⟩

/-- A class with other shared parts. -/
def ClassTree.withCommon (tree : ClassTree) (parts : CommonParts) : ClassTree :=
  { tree with
    flags := parts.flags, signature := parts.signature, annotations := parts.annotations }

/-- Read one more attribute of a class. -/
def ClassTree.addAttribute?
    (pool : ConstantPool)
    (tree : ClassTree)
    (item : Attribute) : Option ClassTree := do
  match ← item.content? pool with
  | .sourceFile file => return { tree with sourceFile := some (← pool.utf8? file) }
  | .innerClasses classes =>
      return { tree with innerClasses := ← classes.mapM (InnerClassEntry.read? pool) }
  | .enclosingMethod owner method =>
      let ownerName ← pool.className? owner
      let method? ← ConstantPool.optional? pool.nameAndType? method
      return { tree with
        enclosingMethod := some ⟨ownerName, method?.map Prod.fst, method?.map Prod.snd⟩ }
  | .permittedSubclasses classes =>
      return { tree with permittedSubclasses := ← classes.mapM pool.className? }
  | content => return tree.withCommon (← tree.common.add? pool content)

/-- Read a class file; every index is looked up in its own pool. -/
def File.read? (file : File) : Option ClassTree := do
  let name ← file.pool.className? file.thisClass
  let superclass ← ConstantPool.optional? file.pool.className? file.superclass
  let interfaces ← file.interfaces.mapM file.pool.className?
  let fields ← file.fields.mapM (Member.readField? file.pool)
  let methods ← file.methods.mapM (Member.readMethod? file.pool)
  file.attributes.foldlM (ClassTree.addAttribute? file.pool)
    { ClassTree.bare file.version file.flags.toUInt32 name with
      superclass, interfaces, fields, methods }

/-! What a class file keeps of a class tree. -/

/-- The flags that are read back: the low sixteen bits and the mark for deprecation. -/
def storedFlags (flags : AccessFlags) : AccessFlags :=
  (flags &&& AccessFlags.storedMask) ||| (flags &&& AccessFlags.deprecatedBit)

/-- Flags that belong to no attribute keep their low sixteen bits. -/
def entryFlags (flags : AccessFlags) : AccessFlags :=
  flags &&& AccessFlags.storedMask

/-- An enclosing method without a full method keeps only its owner. -/
def EnclosingMethod.stored (enclosing : EnclosingMethod) : EnclosingMethod :=
  match enclosing.name, enclosing.descriptor with
  | some name, some descriptor => ⟨enclosing.owner, some name, some descriptor⟩
  | _, _ => ⟨enclosing.owner, none, none⟩

/-- A table without any annotation is not stored. -/
def ParameterTable.stored (table : ParameterTable) : ParameterTable :=
  if table.all List.isEmpty then [] else table

/-- A field as a class file keeps it. -/
def FieldTree.stored (field : FieldTree) : FieldTree :=
  { field with flags := storedFlags field.flags }

/-- A declared parameter as a class file keeps it. -/
def NamedParameter.stored (parameter : NamedParameter) : NamedParameter :=
  { parameter with flags := entryFlags parameter.flags }

/-- A method as a class file keeps it. -/
def MethodTree.stored (method : MethodTree) : MethodTree :=
  { method with
    flags := storedFlags method.flags
    parameters := method.parameters.map NamedParameter.stored
    visibleParameters := method.visibleParameters.stored
    invisibleParameters := method.invisibleParameters.stored }

/-- An entry about a nested class as a class file keeps it. -/
def InnerClass.stored (inner : InnerClass) : InnerClass :=
  { inner with flags := entryFlags inner.flags }

/-- A class as a class file keeps it. -/
def ClassTree.stored (tree : ClassTree) : ClassTree :=
  { tree with
    flags := storedFlags tree.flags
    enclosingMethod := tree.enclosingMethod.map EnclosingMethod.stored
    innerClasses := tree.innerClasses.map InnerClass.stored
    fields := tree.fields.map FieldTree.stored
    methods := tree.methods.map MethodTree.stored }

/-- A variable with its descriptor as type. -/
def LocalVariable.described (localVariable : LocalVariable) : TypedVariable :=
  ⟨localVariable.name, localVariable.descriptor, localVariable.slot⟩

/-- A variable with its signature as type, if it has one. -/
def LocalVariable.signed? (localVariable : LocalVariable) : Option TypedVariable :=
  localVariable.signature.map fun signature => ⟨localVariable.name, signature, localVariable.slot⟩

/--
A body whose signatures are given out again in order: among variables of one name and slot the first
ones get the signatures.
-/
def Body.signedInOrder (body : Body) : Body :=
  { body with
    localVariables :=
      assignSignatures (body.localVariables.map LocalVariable.described)
        (body.localVariables.filterMap LocalVariable.signed?) }

/-- A method whose body has its signatures in order. -/
def MethodTree.signedInOrder (method : MethodTree) : MethodTree :=
  { method with body := method.body.map Body.signedInOrder }

/-- A class whose bodies have their signatures in order. -/
def ClassTree.signedInOrder (tree : ClassTree) : ClassTree :=
  { tree with methods := tree.methods.map MethodTree.signedInOrder }

/-- The signature that comes next behind a variable without one is for another name or slot. -/
def AreSignedInOrder (locals : List LocalVariable) : Prop :=
  ∀ plain behind next,
    plain :: behind <:+ locals →
    plain.signature = none →
    behind.findSome? LocalVariable.signed? = some next →
    ¬ (next.name = plain.name ∧ next.slot = plain.slot)

end ClassFile

end DexSurface
