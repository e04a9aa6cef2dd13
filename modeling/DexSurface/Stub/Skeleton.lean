import DexSurface.ClassRecord
import DexSurface.RunError
import DexSurface.Stub.Restriction

/-!
# Flags of emitted classes, and skeletons

The flags of an image lose the bits above sixteen and gain the marks for records and deprecation
that annotations state.  An inaccessible class that the surface needs becomes a skeleton: its name,
supertypes and generic signature.
-/

namespace DexSurface

namespace Stub

/-- The mark for deprecation, set or cleared from the annotations alone. -/
def withDeprecation (flags : AccessFlags) (annotations : Annotations) : AccessFlags :=
  if annotations.isDeprecated then
    flags ||| AccessFlags.deprecatedBit
  else
    flags &&& ~~~AccessFlags.deprecatedBit

/-- The flags of an emitted field or method. -/
def memberFlags (flags : AccessFlags) (annotations : Annotations) : AccessFlags :=
  withDeprecation (flags &&& AccessFlags.storedMask) annotations

/-- The flags of an emitted class. -/
def classFlags (record : ClassRecord) : AccessFlags :=
  let stored := record.flags &&& AccessFlags.storedMask
  let called := if record.isInterface then stored else stored ||| AccessFlags.superBit
  let marked := if record.annotations.isRecord then called ||| AccessFlags.recordBit else called
  withDeprecation marked record.annotations

/-- The major version of class files with records. -/
def recordVersion : UInt16 := 61

/-- The version of a class file with the given flags. -/
def classVersion (flags : AccessFlags) : UInt16 :=
  if flags.has AccessFlags.recordBit then recordVersion else baseVersion

/-- A nested class whose own source flags make it inaccessible is never emitted. -/
def isHiddenNested (record : ClassRecord) : Except RecordError Bool := do
  match ← record.innerClassMarker? with
  | some marker => return marker.flags.isInaccessible
  | none => return false

/-- What stubs and skeletons share: flags, version, names, supertypes and generic signature. -/
def classHead (record : ClassRecord) : Except RecordError ClassFile.ClassTree := do
  let flags := classFlags record
  let signature ← record.annotations.genericSignature?
  return { ClassFile.ClassTree.bare (classVersion flags) flags record.internalName with
    signature
    superclass := record.superclass.map Descriptor.internalName
    interfaces := record.interfaces.map Descriptor.internalName }

/-- The skeleton of a class, unless the class is never emitted. -/
def skeleton? (record : ClassRecord) : Except RecordError (Option ClassFile.ClassTree) := do
  if ← isHiddenNested record then
    return none
  else
    return some (← classHead record)

end Stub

end DexSurface
