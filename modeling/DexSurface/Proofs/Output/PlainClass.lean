import DexSurface.ClassFile.Encoding
import DexSurface.Stub.Skeleton

namespace DexSurface

/-!
# Class files of plain classes

A class that has a superclass but no members and no attributes can always be written, provided that
its two names are short enough for a class file.
-/

namespace ClassFile

open Encoding

/-- A class with a superclass and nothing else. -/
def plainTree (flags : AccessFlags) (name superclass : InternalName) : ClassTree :=
  { ClassTree.bare Stub.baseVersion flags name with superclass := some superclass }

/-- The pool with a class and nothing else. -/
def namePool (name : InternalName) : ConstantPool :=
  (ConstantPool.empty.push (.utf8 name)).push (.classRef 1)

/-- The pool with a class and another one. -/
def plainPool (name superclass : InternalName) : ConstantPool :=
  ((namePool name).push (.utf8 superclass)).push (.classRef 3)

/-- The class file of a plain class. -/
def plainFile (flags : AccessFlags) (name superclass : InternalName) : File where
  version := Stub.baseVersion
  pool := plainPool name superclass
  flags := flags.toUInt16
  thisClass := 2
  superclass := 4
  interfaces := []
  fields := []
  methods := []
  attributes := []

variable {flags : AccessFlags} {name superclass : InternalName}

/-- The first class of a pool takes the indices one and two. -/
theorem classRef_empty (name : InternalName) :
    Interning.classRef name .empty = .ok 2 (namePool name) := by
  simp [Interning.classRef, Interning.utf8, Interning.constant, bind, EStateM.bind,
    ConstantPool.empty, ConstantPool.push, ConstantPool.nextIndex, ConstantPool.maxIndex,
    Constant.width, namePool]

/-- A second class of another name takes the indices three and four. -/
theorem classRef_namePool (differ : name ≠ superclass) :
    Interning.classRef superclass (namePool name) = .ok 4 (plainPool name superclass) := by
  simp [Interning.classRef, Interning.utf8, Interning.constant, bind, EStateM.bind,
    ConstantPool.empty, ConstantPool.push, ConstantPool.nextIndex, ConstantPool.maxIndex,
    Constant.width, namePool, plainPool, differ]

/-- A plain class that is not deprecated has no attributes. -/
theorem classAttributes_plainTree
    (isCurrent : flags.has AccessFlags.deprecatedBit = false)
    (pool : ConstantPool) :
    Lowering.classAttributes (plainTree flags name superclass) pool = .ok [] pool := by
  have common : Lowering.commonAttributes flags none .empty = pure [] := by
    simp only [Lowering.commonAttributes, isCurrent]
    rfl
  rw [Lowering.classAttributes]
  change EStateM.bind (Lowering.commonAttributes flags none .empty) _ pool = _
  rw [common]
  rfl

/-- Lowering a plain class enters its two names. -/
theorem lower_plainTree
    (isCurrent : flags.has AccessFlags.deprecatedBit = false)
    (differ : name ≠ superclass) :
    (plainTree flags name superclass).lower = .ok (plainFile flags name superclass) := by
  have lowered :
      Lowering.classTree (plainTree flags name superclass) .empty =
        .ok (fun pool => { plainFile flags name superclass with pool })
          (plainPool name superclass) := by
    change EStateM.bind (Interning.classRef name) _ .empty = _
    rw [EStateM.bind, classRef_empty]
    change EStateM.bind (Interning.classRef superclass) _ _ = _
    rw [EStateM.bind, classRef_namePool differ]
    change EStateM.bind (Lowering.classAttributes _) _ _ = _
    rw [EStateM.bind, classAttributes_plainTree isCurrent]
    rfl
  rw [ClassTree.lower, lowered]
  rfl

/-- A plain class with short names can be written. -/
theorem exists_write_plainTree
    (isCurrent : flags.has AccessFlags.deprecatedBit = false)
    (differ : name ≠ superclass)
    (shortName : (ModifiedUtf8.encode name).length < Bytes.span 2)
    (shortSuperclass : (ModifiedUtf8.encode superclass).length < Bytes.span 2) :
    ∃ bytes, (plainTree flags name superclass).write = .ok bytes := by
  rw [ClassTree.write, lower_plainTree isCurrent differ]
  simp [File.encode, bind, Except.bind, Encoding.pool, plainFile, plainPool, namePool,
    ConstantPool.constants, ConstantPool.empty, ConstantPool.push, ConstantPool.nextIndex, count,
    constant, shortName, shortSuperclass, Constant.width, counted]
  exact ⟨_, rfl⟩

end ClassFile

end DexSurface
