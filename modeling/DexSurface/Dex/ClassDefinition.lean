import DexSurface.Dex.AnnotationDirectory
import DexSurface.Dex.DebugInfo
import DexSurface.Dex.Instructions

/-!
# Class definitions

A class definition names its supertypes, its annotations, its members and the values of its static
fields.  Member indices are stored as differences to the member before.
-/

namespace DexSurface

namespace Dex

/-- What decoding the next member depends on besides its own bytes. -/
structure MemberState where
  /-- The index of the member before, zero at the start of a list. -/
  index : Nat
  /-- The values of the static fields that follow. -/
  values : List EncodedValue
  /-- The position of the next word of restriction flags, if the class has such words. -/
  restrictions : Option Nat
  /-- The annotations that no member has taken. -/
  directory : AnnotationDirectory

/-- A decoder of members. -/
abbrev MemberDecoder := StateT MemberState Decoder

namespace Image

/-- The index of the next member. -/
def memberIndex : MemberDecoder Nat := do
  let difference ← Decoder.uleb128
  let index ← advance (← get).index difference
  modify fun state => { state with index }
  return index

/-- The restriction categories of the next member. -/
def memberRestrictions : MemberDecoder HiddenApi.Categories := do
  match (← get).restrictions with
  | none => return .empty
  | some position =>
      let (flags, following) ← Decoder.readAt position Decoder.uleb128
      modify fun state => { state with restrictions := some following }
      return HiddenApi.Categories.ofFlags flags.toUInt32

/-- The value of the next static field, if one is left. -/
def memberValue : MemberDecoder (Option EncodedValue) := do
  let values := (← get).values
  modify fun state => { state with values := values.tail }
  return values.head?

/-- Take what a map of a directory holds at an index out of it. -/
def takeEntry (entries : Std.TreeMap Nat (List α)) (index : Nat) :
    List α × Std.TreeMap Nat (List α) :=
  (entries.getD index [], entries.erase index)

/-- The annotations of the field at an index. -/
def fieldAnnotations (index : Nat) : MemberDecoder Annotations := do
  let directory := (← get).directory
  let (annotations, ofFields) := takeEntry directory.ofFields index
  modify fun state => { state with directory := { directory with ofFields } }
  return annotations

/-- The annotations of the method at an index. -/
def methodAnnotations (index : Nat) : MemberDecoder Annotations := do
  let directory := (← get).directory
  let (annotations, ofMethods) := takeEntry directory.ofMethods index
  modify fun state => { state with directory := { directory with ofMethods } }
  return annotations

/-- The annotation sets of the parameters of the method at an index. -/
def parameterAnnotations (index : Nat) : MemberDecoder (List Annotations) := do
  let directory := (← get).directory
  let (sets, ofParameters) := takeEntry directory.ofParameters index
  modify fun state => { state with directory := { directory with ofParameters } }
  return sets

/-- The next field. -/
def field (image : Image) : MemberDecoder FieldRecord := do
  let index ← memberIndex
  let flags ← Decoder.uleb128
  let initialValue ← memberValue
  let hiddenApi ← memberRestrictions
  let reference ← image.fieldRef index
  return {
    definingClass := reference.definingClass
    name := reference.name
    fieldType := reference.fieldType
    flags := flags.toUInt32
    initialValue
    annotations := ← fieldAnnotations index
    hiddenApi
  }

/-- The number of registers of a body, the offset of its debug information and its code units. -/
def bodyParts : Decoder (Nat × Nat × List Nat) := do
  let registerCount ← Decoder.u16
  let _ ← Decoder.u16
  let _ ← Decoder.u16
  let _ ← Decoder.u16
  let debugOffset ← Decoder.u32
  let size ← Decoder.u32
  let units ← times size Decoder.u16
  return (registerCount, debugOffset, units)

/-- The body at an offset, and the declared parameter names from its debug information. -/
def body (image : Image) (offset : Nat) : Except Error (MethodBody × List (Option String)) := do
  let (registerCount, debugOffset, units) ← image.readAt offset bodyParts
  let opcodes ← Instructions.opcodes (units.map Nat.toUInt16)
  let debug ← image.debugInfo debugOffset
  return ({ registerCount := registerCount.toUInt16, opcodes, locals := debug.locals },
    debug.parameterNames)

/-- The body at an offset, if the offset is not zero, and the declared parameter names. -/
def optionalBody (image : Image) (offset : Nat) :
    Except Error (Option MethodBody × List (Option String)) :=
  if offset = 0 then
    .ok (none, [])
  else do
    let (body, names) ← image.body offset
    return (some body, names)

/-- Parameters from their types, with the names and annotation sets at the same positions. -/
def parameters :
    List TypeDescriptor → List (Option String) → List Annotations →
      Except RecordError (List Parameter)
  | [], _, _ => .ok []
  | parameterType :: types, names, sets => do
      let parameter ← Parameter.ofAnnotations parameterType names.head?.join (sets.headD [])
      return parameter :: (← parameters types names.tail sets.tail)

/-- The next method. -/
def method (image : Image) : MemberDecoder MethodRecord := do
  let index ← memberIndex
  let flags ← Decoder.uleb128
  let bodyOffset ← Decoder.uleb128
  let hiddenApi ← memberRestrictions
  let reference ← image.methodRef index
  let (body, names) ← image.optionalBody bodyOffset
  let sets ← parameterAnnotations index
  match parameters reference.parameterTypes names sets with
  | .error error => throw (.record error)
  | .ok parameters =>
      return {
        definingClass := reference.definingClass
        name := reference.name
        flags := flags.toUInt32
        parameters
        returnType := reference.returnType
        annotations := ← methodAnnotations index
        hiddenApi
        body
      }

/-- A list of members, whose first index counts from zero. -/
def memberList (count : Nat) (member : MemberDecoder α) : MemberDecoder (List α) := do
  modify fun state => { state with index := 0 }
  times count member

/-- The members of a class: static fields, other fields, direct methods, other methods. -/
def members (image : Image) : MemberDecoder (List FieldRecord × List MethodRecord) := do
  let staticCount ← Decoder.uleb128
  let instanceCount ← Decoder.uleb128
  let directCount ← Decoder.uleb128
  let virtualCount ← Decoder.uleb128
  let staticFields ← memberList staticCount image.field
  modify fun state => { state with values := [] }
  let instanceFields ← memberList instanceCount image.field
  let directMethods ← memberList directCount image.method
  let virtualMethods ← memberList virtualCount image.method
  return (staticFields ++ instanceFields, directMethods ++ virtualMethods)

/-- The position of the restriction flags of a class; a section can leave a class out. -/
def restrictionFlags (image : Image) (classIndex : Nat) : Except Error (Option Nat) :=
  match image.restrictions with
  | none => .ok none
  | some section_ => do
      let offset ← image.readAt (section_ + 4 + classIndex * 4) Decoder.u32
      if offset = 0 then
        return none
      else
        image.readAt (section_ + offset) (some <$> Decoder.position)

/-- The values of the static fields; offset zero stands for none. -/
def staticValues (image : Image) (offset : Nat) : Except Error (List EncodedValue) :=
  if offset = 0 then .ok [] else image.readAt offset image.values

/-- The head of a class definition. -/
structure ClassHead where
  typeName : TypeDescriptor
  flags : AccessFlags
  superclass : Option TypeDescriptor
  interfaces : List TypeDescriptor
  sourceFile : Option String
  annotationsOffset : Nat
  dataOffset : Nat
  valuesOffset : Nat

/-- The head of the class definition at an index. -/
def classHead (image : Image) (index : Nat) : Except Error ClassHead := do
  let entry ← image.tables.classDefs.entry .classDef index 32
  image.readAt entry do
    let typeName ← image.typeName (← Decoder.u32)
    let flags ← Decoder.u32
    let superclass ← image.optionalType (presentIndex? (← Decoder.u32))
    let interfaces ← image.typeList (← Decoder.u32)
    let sourceFile ← image.optionalString (presentIndex? (← Decoder.u32))
    let annotationsOffset ← Decoder.u32
    let dataOffset ← Decoder.u32
    let valuesOffset ← Decoder.u32
    return {
      typeName
      flags := flags.toUInt32
      superclass
      interfaces
      sourceFile
      annotationsOffset
      dataOffset
      valuesOffset
    }

/-- The members of a class; a class without data has none. -/
def classMembers
    (image : Image)
    (index : Nat)
    (head : ClassHead)
    (directory : AnnotationDirectory) : Except Error (List FieldRecord × List MethodRecord) :=
  if head.dataOffset = 0 then
    .ok ([], [])
  else do
    let values ← image.staticValues head.valuesOffset
    let restrictions ← image.restrictionFlags index
    image.readAt head.dataOffset do
      let (members, _) ← image.members.run { index := 0, values, restrictions, directory }
      return members

/-- The class at an index. -/
def classRecord (image : Image) (index : Nat) : Except Error ClassRecord := do
  let head ← image.classHead index
  let directory ← image.annotationDirectory head.annotationsOffset
  let (fields, methods) ← image.classMembers index head directory
  return {
    typeName := head.typeName
    flags := head.flags
    superclass := head.superclass
    interfaces := head.interfaces
    sourceFile := head.sourceFile
    annotations := directory.ofClass
    fields
    methods
  }

/-- The classes from an index on. -/
def classesFrom (image : Image) (index : Nat) : (count : Nat) → Except Error (List ClassRecord)
  | 0 => .ok []
  | count + 1 => do
      let first ← image.classRecord index
      return first :: (← image.classesFrom (index + 1) count)

/-- All classes in table order. -/
def classes (image : Image) : Except Error (List ClassRecord) :=
  image.classesFrom 0 image.classCount

/-- The classes from an index on up to the first failure, and that failure. -/
def streamFrom (image : Image) (index : Nat) :
    (count : Nat) → List ClassRecord × Option Error
  | 0 => ([], none)
  | count + 1 =>
      match image.classRecord index with
      | .error error => ([], some error)
      | .ok first =>
          let (rest, failure) := image.streamFrom (index + 1) count
          (first :: rest, failure)

/-- The classes in table order up to the first failure, and that failure. -/
def stream (image : Image) : List ClassRecord × Option Error :=
  image.streamFrom 0 image.classCount

end Image

end Dex

end DexSurface
