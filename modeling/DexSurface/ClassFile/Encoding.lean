import DexSurface.Bytes.Order
import DexSurface.ClassFile.Lowering
import DexSurface.Text.ModifiedUtf8

/-!
# The bytes of a class file

Every number is written with its high byte first.  A count that does not fit its field is refused.
-/

namespace DexSurface

namespace ClassFile

namespace Encoding

/-- A number in two bytes. -/
def u16 (number : UInt16) : List UInt8 :=
  Bytes.bigEndian 2 number.toNat

/-- A number in four bytes. -/
def u32 (number : Nat) : List UInt8 :=
  Bytes.bigEndian 4 number

/-- A count in a field of `width` bytes. -/
def count (width size : Nat) : Except Error (List UInt8) :=
  if size < Bytes.span width then .ok (Bytes.bigEndian width size) else .error .outOfRange

/-- A count in a field of `width` bytes, then the items in order. -/
def counted (width : Nat) (encode : α → Except Error (List UInt8)) (items : List α) :
    Except Error (List UInt8) := do
  let size ← count width items.length
  let parts ← items.mapM encode
  return size ++ parts.flatten

/-- The tag of a constant and its content. -/
def constant : Constant → Except Error (List UInt8)
  | .utf8 text => do
      let content := ModifiedUtf8.encode text
      return 1 :: (← count 2 content.length) ++ content
  | .integer value => return 3 :: u32 value.toUInt32.toNat
  | .float bits => return 4 :: u32 bits.toNat
  | .long value => return 5 :: Bytes.bigEndian 8 value.toUInt64.toNat
  | .double bits => return 6 :: Bytes.bigEndian 8 bits.toNat
  | .classRef name => return 7 :: u16 name
  | .string text => return 8 :: u16 text
  | .methodRef owner nameAndType => return 10 :: (u16 owner ++ u16 nameAndType)
  | .nameAndType name descriptor => return 12 :: (u16 name ++ u16 descriptor)

/-- The next free index of a pool, then its constants. -/
def pool (pool : ConstantPool) : Except Error (List UInt8) := do
  let size ← count 2 pool.nextIndex
  let parts ← pool.constants.mapM constant
  return size ++ parts.flatten

/-- The opcode of an instruction without operands. -/
def opcode : SimpleInstruction → UInt8
  | .nop => 0x00
  | .pushNull => 0x01
  | .pushInt => 0x03
  | .pushLong => 0x09
  | .pushFloat => 0x0b
  | .pushDouble => 0x0e
  | .loadThis => 0x2a
  | .dup => 0x59
  | .returnInt => 0xac
  | .returnLong => 0xad
  | .returnFloat => 0xae
  | .returnDouble => 0xaf
  | .returnReference => 0xb0
  | .returnVoid => 0xb1
  | .athrow => 0xbf

/-- The bytes of an instruction. -/
def operation : Operation → List UInt8
  | .simple instruction => [opcode instruction]
  | .loadShort index => [0x12, index]
  | .loadWide index => 0x13 :: u16 index
  | .invokeSpecial method => 0xb7 :: u16 method
  | .new classRef => 0xbb :: u16 classRef

/-- The tag of an element value that is one constant. -/
def elementTag : ElementKind → Char
  | .byte => 'B'
  | .char => 'C'
  | .double => 'D'
  | .float => 'F'
  | .int => 'I'
  | .long => 'J'
  | .short => 'S'
  | .boolean => 'Z'
  | .string => 's'

/-- A tag letter as a byte. -/
def tag (letter : Char) : UInt8 :=
  letter.toNat.toUInt8

mutual

/-- The tag of an element value and its content. -/
def elementEntry : ElementEntry → Except Error (List UInt8)
  | .constant kind value => return tag (elementTag kind) :: u16 value
  | .enum type name => return tag 'e' :: (u16 type ++ u16 name)
  | .classLiteral descriptor => return tag 'c' :: u16 descriptor
  | .nested type elements => do
      let size ← count 2 elements.length
      return tag '@' :: (u16 type ++ size ++ (← namedEntries elements))
  | .array values => do
      let size ← count 2 values.length
      return tag '[' :: (size ++ (← elementEntries values))

/-- Element values in order. -/
def elementEntries : List ElementEntry → Except Error (List UInt8)
  | [] => return []
  | entry :: rest => do
      let first ← elementEntry entry
      return first ++ (← elementEntries rest)

/-- Named element values in order. -/
def namedEntries : List (Index × ElementEntry) → Except Error (List UInt8)
  | [] => return []
  | (name, entry) :: rest => do
      let first ← elementEntry entry
      return u16 name ++ first ++ (← namedEntries rest)

end

/-- The type of an annotation and its named values. -/
def annotationBytes (note : AnnotationEntry) : Except Error (List UInt8) := do
  let size ← count 2 note.elements.length
  return u16 note.type ++ size ++ (← namedEntries note.elements)

/-- An entry about a nested class. -/
def innerClass (inner : InnerClassEntry) : List UInt8 :=
  u16 inner.name ++ u16 inner.outerName ++ u16 inner.innerName ++ u16 inner.flags

/-- An entry about a local variable. -/
def variableEntry (entry : VariableEntry) : List UInt8 :=
  u16 entry.start ++ u16 entry.length ++ u16 entry.name ++ u16 entry.type ++ u16 entry.slot

/-- The name of an attribute, the length of its content and the content. -/
def named (name : Index) (content : List UInt8) : Except Error (List UInt8) := do
  return u16 name ++ (← count 4 content.length) ++ content

/-- A table of local variables. -/
def variableTable (table : VariableTable) : Except Error (List UInt8) := do
  named table.name (← counted 2 (fun entry => .ok (variableEntry entry)) table.entries)

/-- The content of an attribute; a body has no exception handlers. -/
def attributeContent : AttributeContent → Except Error (List UInt8)
  | .sourceFile file => return u16 file
  | .innerClasses classes => counted 2 (fun inner => .ok (innerClass inner)) classes
  | .enclosingMethod owner method => return u16 owner ++ u16 method
  | .signature signature => return u16 signature
  | .deprecated => return []
  | .annotations _ annotations => counted 2 annotationBytes annotations
  | .permittedSubclasses classes => counted 2 (fun index => .ok (u16 index)) classes
  | .constantValue value => return u16 value
  | .exceptions classes => counted 2 (fun index => .ok (u16 index)) classes
  | .methodParameters parameters =>
      counted 1 (fun parameter => .ok (u16 parameter.name ++ u16 parameter.flags)) parameters
  | .annotationDefault value => elementEntry value
  | .parameterAnnotations _ rows => counted 1 (counted 2 annotationBytes) rows
  | .code maxStack maxLocals operations tables => do
      let code := operations.flatMap operation
      let length ← count 4 code.length
      let attributes ← counted 2 variableTable tables
      return u16 maxStack ++ u16 maxLocals ++ length ++ code ++ u16 0 ++ attributes

/-- An attribute. -/
def attributeEntry (entry : Attribute) : Except Error (List UInt8) := do
  named entry.name (← attributeContent entry.content)

/-- A field or a method. -/
def member (member : Member) : Except Error (List UInt8) := do
  let attributes ← counted 2 attributeEntry member.attributes
  return u16 member.flags ++ u16 member.name ++ u16 member.descriptor ++ attributes

/-- The number that starts every class file. -/
def magic : Nat := 0xcafebabe

end Encoding

/-- The bytes of a class file; the minor version is zero. -/
def File.encode (file : File) : Except Error (List UInt8) := do
  let constants ← Encoding.pool file.pool
  let interfaces ← Encoding.counted 2 (fun index => .ok (Encoding.u16 index)) file.interfaces
  let fields ← Encoding.counted 2 Encoding.member file.fields
  let methods ← Encoding.counted 2 Encoding.member file.methods
  let attributes ← Encoding.counted 2 Encoding.attributeEntry file.attributes
  return Encoding.u32 Encoding.magic ++ Encoding.u16 0 ++ Encoding.u16 file.version
    ++ constants
    ++ Encoding.u16 file.flags ++ Encoding.u16 file.thisClass ++ Encoding.u16 file.superclass
    ++ interfaces ++ fields ++ methods ++ attributes

/-- The bytes of the class file of a class tree. -/
def ClassTree.write (tree : ClassTree) : Except Error (List UInt8) := do
  (← tree.lower).encode

end ClassFile

end DexSurface
