import DexSurface.EncodedValue

/-!
# Numbering the entries of an image

The entries of the tables of an image are numbered in the order in which they are first mentioned.
A type is a string, a prototype and a field and a method are made of entries numbered before them.
-/

namespace DexSurface

namespace Dex

/-- A prototype: its short form, its return type and its parameter types. -/
structure ProtoEntry where
  shortForm : Nat
  returnType : Nat
  parameterTypes : List Nat
  deriving Repr, DecidableEq

/-- A field or a method: its class, its type or prototype, and its name. -/
structure MemberEntry where
  definingClass : Nat
  shape : Nat
  name : Nat
  deriving Repr, DecidableEq

/-- The numbered entries of an image. -/
structure EntryTables where
  strings : Array String
  /-- The strings of the types. -/
  types : Array Nat
  protos : Array ProtoEntry
  fields : Array MemberEntry
  methods : Array MemberEntry
  deriving Repr, DecidableEq

/-- No entries. -/
def EntryTables.empty : EntryTables where
  strings := #[]
  types := #[]
  protos := #[]
  fields := #[]
  methods := #[]

/-- A computation that numbers entries. -/
abbrev Numbering := StateM EntryTables

/-- The number of an entry in a table, and the table with the entry. -/
def numberIn [BEq α] (table : Array α) (entry : α) : Nat × Array α :=
  match table.idxOf? entry with
  | some index => (index, table)
  | none => (table.size, table.push entry)

namespace Numbering

/-- The number of a string. -/
def string (text : String) : Numbering Nat :=
  modifyGet fun tables =>
    let (index, strings) := numberIn tables.strings text
    (index, { tables with strings })

/-- The number of a type. -/
def typeName (descriptor : TypeDescriptor) : Numbering Nat := do
  let text ← string descriptor
  modifyGet fun tables =>
    let (index, types) := numberIn tables.types text
    (index, { tables with types })

/-- The letter of a type in a short form: the first byte of its descriptor, arrays being `L`. -/
def shortLetter (descriptor : TypeDescriptor) : List Char :=
  match descriptor.toUTF8.toList with
  | [] => []
  | first :: _ => [if first = '['.toUInt8 then 'L' else Char.ofNat first.toNat]

/-- The short form of a prototype, return type first. -/
def shortForm (parameterTypes : List TypeDescriptor) (returnType : TypeDescriptor) : String :=
  String.ofList ((returnType :: parameterTypes).flatMap shortLetter)

/-- The number of a prototype; its short form is a string of its own. -/
def proto (parameterTypes : List TypeDescriptor) (returnType : TypeDescriptor) :
    Numbering Nat := do
  let returnIndex ← typeName returnType
  let parameterIndices ← parameterTypes.mapM typeName
  let known := (← get).protos.findIdx? fun entry =>
    entry.returnType = returnIndex && entry.parameterTypes = parameterIndices
  match known with
  | some index => return index
  | none =>
      let shortIndex ← string (shortForm parameterTypes returnType)
      let entry : ProtoEntry := {
        shortForm := shortIndex
        returnType := returnIndex
        parameterTypes := parameterIndices
      }
      modifyGet fun tables =>
        (tables.protos.size, { tables with protos := tables.protos.push entry })

/-- The number of a field. -/
def field (reference : FieldRef) : Numbering Nat := do
  let definingClass ← typeName reference.definingClass
  let shape ← typeName reference.fieldType
  let name ← string reference.name
  modifyGet fun tables =>
    let (index, fields) := numberIn tables.fields { definingClass, shape, name }
    (index, { tables with fields })

/-- The number of a method. -/
def method (reference : MethodRef) : Numbering Nat := do
  let definingClass ← typeName reference.definingClass
  let shape ← proto reference.parameterTypes reference.returnType
  let name ← string reference.name
  modifyGet fun tables =>
    let (index, methods) := numberIn tables.methods { definingClass, shape, name }
    (index, { tables with methods })

end Numbering

end Dex

end DexSurface
