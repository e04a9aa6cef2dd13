import Std.Data.HashMap
import DexSurface.Descriptor

/-!
# Constant pools

A pool gives every distinct constant one index.  A constant refers to its parts by index, and parts
are entered before the constant that uses them.  Index zero means absence, and a long or double
takes two indices.  Entering a constant fails when its index does not fit sixteen bits; the pool
then stays as it is, with the parts entered so far.
-/

namespace DexSurface

namespace ClassFile

/-- An index into a constant pool; zero stands for an absent constant. -/
abbrev Index := UInt16

/-- The parts of a class tree that have a size limit of their own. -/
inductive LimitedPart where
  | code
  | annotatedParameters
  deriving Repr, DecidableEq

/-- The word for a limited part in messages. -/
def LimitedPart.name : LimitedPart → String
  | .code => "code"
  | .annotatedParameters => "annotated parameters"

/-- Why a class tree cannot be written. -/
inductive Error where
  /-- A part exceeds its size limit. -/
  | tooLarge (part : LimitedPart) (size : Nat)
  /-- A count, a length or an index does not fit its field. -/
  | outOfRange
  /-- The major version is not supported. -/
  | unsupportedVersion (major : UInt16)
  /-- A field descriptor ends after its `L`. -/
  | descriptorTooShort
  /-- A class type has no name or no final `;`. -/
  | malformedClassType (descriptor : TypeDescriptor)
  /-- A field type starts with a letter that names no type. -/
  | unknownTypeLetter (letter : Char)
  deriving Repr, DecidableEq

/-- The text of an error. -/
def Error.message : Error → String
  | .tooLarge part size => part.name ++ " too large: " ++ Nat.repr size
  | .outOfRange => "out of range"
  | .unsupportedVersion major =>
      "Invalid version: major=" ++ Nat.repr major.toNat ++ "; minor=0"
  | .descriptorTooShort => "IO error: Invalid descriptor length"
  | .malformedClassType descriptor => "Invalid field type descriptor " ++ descriptor
  | .unknownTypeLetter letter => "Invalid field type code " ++ String.singleton letter

/-- A constant, with its parts as indices and floating-point numbers as bits. -/
inductive Constant where
  | utf8 (text : String)
  | integer (value : Int32)
  | float (bits : UInt32)
  | long (value : Int64)
  | double (bits : UInt64)
  | classRef (name : Index)
  | string (text : Index)
  | nameAndType (name descriptor : Index)
  | methodRef (owner nameAndType : Index)
  deriving Repr, DecidableEq, Hashable

/-- The number of indices that a constant takes. -/
def Constant.width : Constant → Nat
  | .long _ => 2
  | .double _ => 2
  | _ => 1

/-- The constants by index, and the index of every constant. -/
structure ConstantPool where
  /-- The constant at each index; none at zero and behind a long or double. -/
  slots : Array (Option Constant)
  /-- The index of each constant of the pool. -/
  indices : Std.HashMap Constant Index

namespace ConstantPool

/-- The pool without constants. -/
def empty : ConstantPool where
  slots := #[none]
  indices := ∅

instance : Inhabited ConstantPool := ⟨empty⟩

/-- The largest index. -/
def maxIndex : Nat := 0xffff

/-- The index that the next new constant gets. -/
def nextIndex (pool : ConstantPool) : Nat :=
  pool.slots.size

/-- The number of indices in use. -/
def size (pool : ConstantPool) : Nat :=
  pool.slots.size - 1

/-- The constant at an index. -/
def get? (pool : ConstantPool) (index : Index) : Option Constant :=
  (pool.slots[index.toNat]?).join

/-- The constants in index order. -/
def constants (pool : ConstantPool) : List Constant :=
  pool.slots.toList.filterMap id

/-- Append a constant at the next index. -/
def push (pool : ConstantPool) (constant : Constant) : ConstantPool :=
  let index := pool.nextIndex.toUInt16
  {
    slots := pool.slots.push (some constant) ++ Array.replicate (constant.width - 1) none
    indices := pool.indices.insert constant index
  }

end ConstantPool

/-- A computation that enters constants into a pool and keeps the pool when it fails. -/
abbrev Interning := EStateM Error ConstantPool

namespace Interning

/-- The index of a constant, which is appended unless the pool has it. -/
def constant (constant : Constant) : Interning Index := fun pool =>
  match pool.indices[constant]? with
  | some index => .ok index pool
  | none =>
      let index := pool.nextIndex
      if index ≤ ConstantPool.maxIndex then
        .ok index.toUInt16 (pool.push constant)
      else
        .error .outOfRange pool

/-- The index of a text. -/
def utf8 (text : String) : Interning Index :=
  constant (.utf8 text)

/-- The index of an int. -/
def integer (value : Int32) : Interning Index :=
  constant (.integer value)

/-- The index of a float. -/
def float (bits : UInt32) : Interning Index :=
  constant (.float bits)

/-- The index of a long. -/
def long (value : Int64) : Interning Index :=
  constant (.long value)

/-- The index of a double. -/
def double (bits : UInt64) : Interning Index :=
  constant (.double bits)

/-- The index of a reference to a class, after its name. -/
def classRef (name : InternalName) : Interning Index := do
  constant (.classRef (← utf8 name))

/-- The index of a string constant, after its text. -/
def string (text : String) : Interning Index := do
  constant (.string (← utf8 text))

/-- The index of a name with a descriptor, after both texts. -/
def nameAndType (name descriptor : String) : Interning Index := do
  let nameIndex ← utf8 name
  let descriptorIndex ← utf8 descriptor
  constant (.nameAndType nameIndex descriptorIndex)

/-- The index of a method reference, after its owner, its name and its descriptor. -/
def methodRef (owner : InternalName) (name descriptor : String) : Interning Index := do
  let ownerIndex ← classRef owner
  let nameAndTypeIndex ← nameAndType name descriptor
  constant (.methodRef ownerIndex nameAndTypeIndex)

end Interning

end ClassFile

end DexSurface
