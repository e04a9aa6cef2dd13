import Mathlib.Data.List.Basic
import Mathlib.Data.List.Induction
import DexSurface.Proofs.Output.PlainClass
import DexSurface.Stub.Restriction

namespace DexSurface

/-!
# Class files around a restricted field

The constants of a class fill its pool in the order in which they are entered first, so the class
file can be written down.  This is done here for the type of the restriction annotation and for the
stub of a class with a restricted field.
-/

namespace ClassFile

/-- The pool that some constants fill in order. -/
def poolOf (constants : List Constant) : ConstantPool :=
  constants.foldl ConstantPool.push .empty

/-- One more constant is pushed to the pool of those before it. -/
theorem poolOf_append_singleton (constants : List Constant) (constant : Constant) :
    poolOf (constants ++ [constant]) = (poolOf constants).push constant := by
  rw [poolOf, List.foldl_append]
  rfl

/-- Narrow constants take one index each. -/
theorem nextIndex_poolOf
    {constants : List Constant}
    (narrow : ∀ constant ∈ constants, constant.width = 1) :
    (poolOf constants).nextIndex = constants.length + 1 := by
  induction constants using List.reverseRecOn with
  | nil => rfl
  | append_singleton earlier last inductionHypothesis =>
      have lastNarrow := narrow last (by simp)
      have before := inductionHypothesis fun constant member => narrow constant (by simp [member])
      rw [ConstantPool.nextIndex] at before
      simp [poolOf_append_singleton, ConstantPool.push, ConstantPool.nextIndex, lastNarrow, before]

/-- A new constant has no index. -/
theorem getElem?_indices_poolOf
    {constants : List Constant}
    {constant : Constant}
    (isNew : constant ∉ constants) :
    (poolOf constants).indices[constant]? = none := by
  induction constants using List.reverseRecOn with
  | nil => simp [poolOf, ConstantPool.empty]
  | append_singleton earlier last inductionHypothesis =>
      rw [List.mem_append, not_or, List.mem_singleton] at isNew
      have before := inductionHypothesis isNew.1
      simp [poolOf_append_singleton, ConstantPool.push, Std.HashMap.getElem?_insert, before,
        Ne.symm isNew.2]

/-- A constant that a pool does not hold gets the next index. -/
theorem constant_poolOf
    {constants : List Constant}
    {constant : Constant}
    (isNew : constant ∉ constants)
    (narrow : ∀ constant ∈ constants, constant.width = 1)
    (room : constants.length < ConstantPool.maxIndex) :
    Interning.constant constant (poolOf constants) =
      .ok (constants.length + 1).toUInt16 (poolOf (constants ++ [constant])) := by
  rw [Interning.constant, getElem?_indices_poolOf isNew, nextIndex_poolOf narrow,
    poolOf_append_singleton]
  exact if_pos room

/-- A new text takes the next index. -/
theorem utf8_poolOf
    {constants : List Constant}
    {text : String}
    (isNew : Constant.utf8 text ∉ constants)
    (narrow : ∀ constant ∈ constants, constant.width = 1)
    (room : constants.length < ConstantPool.maxIndex) :
    Interning.utf8 text (poolOf constants) =
      .ok (constants.length + 1).toUInt16 (poolOf (constants ++ [.utf8 text])) :=
  constant_poolOf isNew narrow room

/-- Two computations in sequence run one after the other unless the first one fails. -/
theorem Interning.bind_apply (run : Interning α) (next : α → Interning β) (pool : ConstantPool) :
    (run >>= next) pool =
      match run pool with
      | .ok value after => next value after
      | .error error after => .error error after := by
  change EStateM.bind run next pool = _
  rw [EStateM.bind]
  cases run pool <;> rfl

/-- A converted computation runs as before, and its value is converted. -/
theorem Interning.map_apply (change : α → β) (run : Interning α) (pool : ConstantPool) :
    (change <$> run) pool =
      match run pool with
      | .ok value after => .ok (change value) after
      | .error error after => .error error after := by
  rw [map_eq_pure_bind, Interning.bind_apply]
  rfl

/-- A new class takes the next two indices. -/
theorem classRef_poolOf
    {constants : List Constant}
    {name : InternalName}
    (isNew : Constant.utf8 name ∉ constants)
    (isNewClass : Constant.classRef (constants.length + 1).toUInt16 ∉ constants)
    (narrow : ∀ constant ∈ constants, constant.width = 1)
    (room : constants.length + 1 < ConstantPool.maxIndex) :
    Interning.classRef name (poolOf constants) =
      .ok (constants.length + 2).toUInt16
        (poolOf (constants ++ [.utf8 name, .classRef (constants.length + 1).toUInt16])) := by
  have narrowMore : ∀ constant ∈ constants ++ [.utf8 name], constant.width = 1 := by
    intro constant member
    rcases List.mem_append.mp member with present | added
    · exact narrow constant present
    · cases List.mem_singleton.mp added
      rfl
  have isNewer :
      Constant.classRef (constants.length + 1).toUInt16 ∉ constants ++ [.utf8 name] := by
    rw [List.mem_append, not_or, List.mem_singleton]
    exact ⟨isNewClass, nofun⟩
  rw [Interning.classRef, Interning.bind_apply, utf8_poolOf isNew narrow (by omega)]
  have entered := constant_poolOf isNewer narrowMore (by simpa using room)
  rw [List.length_append, List.append_assoc] at entered
  exact entered

/-! Known constants. -/

/-- A constant that is known has the index of its place. -/
theorem getElem?_indices_poolOf_of_mem
    {constants : List Constant}
    {constant : Constant}
    (known : constant ∈ constants)
    (distinct : constants.Nodup)
    (narrow : ∀ constant ∈ constants, constant.width = 1) :
    (poolOf constants).indices[constant]? = some (constants.idxOf constant + 1).toUInt16 := by
  induction constants using List.reverseRecOn with
  | nil => cases known
  | append_singleton earlier last inductionHypothesis =>
      have earlierNarrow : ∀ constant ∈ earlier, constant.width = 1 :=
        fun constant member => narrow constant (List.mem_append_left _ member)
      obtain ⟨earlierDistinct, -, apart⟩ := List.nodup_append.mp distinct
      rw [poolOf_append_singleton, ConstantPool.push, Std.HashMap.getElem?_insert,
        nextIndex_poolOf earlierNarrow]
      by_cases inEarlier : constant ∈ earlier
      case pos =>
        have differ : last ≠ constant :=
          (apart constant inEarlier last (List.mem_singleton_self last)).symm
        rw [if_neg (by simpa using differ), List.idxOf_append_of_mem inEarlier]
        exact inductionHypothesis inEarlier earlierDistinct earlierNarrow
      case neg =>
        obtain rfl : constant = last := by simpa [inEarlier] using known
        simp [List.idxOf_append_of_notMem inEarlier]

/-- A constant that a pool holds keeps its index, and the pool stays as it is. -/
theorem constant_poolOf_of_mem
    {constants : List Constant}
    {constant : Constant}
    (known : constant ∈ constants)
    (distinct : constants.Nodup)
    (narrow : ∀ constant ∈ constants, constant.width = 1) :
    Interning.constant constant (poolOf constants) =
      .ok (constants.idxOf constant + 1).toUInt16 (poolOf constants) := by
  rw [Interning.constant, getElem?_indices_poolOf_of_mem known distinct narrow]

/-- A class that is known keeps its index and the pool. -/
theorem classRef_poolOf_of_mem
    {constants : List Constant}
    {name : InternalName}
    (known : Constant.utf8 name ∈ constants)
    (isKnownClass :
      Constant.classRef (constants.idxOf (Constant.utf8 name) + 1).toUInt16 ∈ constants)
    (distinct : constants.Nodup)
    (narrow : ∀ constant ∈ constants, constant.width = 1) :
    Interning.classRef name (poolOf constants) =
      .ok
        (constants.idxOf
            (Constant.classRef (constants.idxOf (Constant.utf8 name) + 1).toUInt16) +
          1).toUInt16
        (poolOf constants) := by
  rw [Interning.classRef, Interning.bind_apply, Interning.utf8,
    constant_poolOf_of_mem known distinct narrow]
  exact constant_poolOf_of_mem isKnownClass distinct narrow

/-! Whole classes. -/

/-- A tree whose constants fill a pool in order can be written if its class file has an encoding. -/
theorem ClassTree.write_of_classTree
    {tree : ClassTree}
    {file : ConstantPool → File}
    {constants : List Constant}
    {bytes : List UInt8}
    (lowered : Lowering.classTree tree (poolOf []) = .ok file (poolOf constants))
    (encoded : (file (poolOf constants)).encode = .ok bytes) :
    tree.write = .ok bytes := by
  have isLowered : tree.lower = .ok (file (poolOf constants)) := by
    rw [ClassTree.lower, show ConstantPool.empty = poolOf [] from rfl, lowered]
  rw [ClassTree.write, isLowered]
  exact encoded

/-- An element without signature, deprecation and annotations has no shared attributes. -/
theorem commonAttributes_empty
    {flags : AccessFlags}
    (isCurrent : flags.has AccessFlags.deprecatedBit = false) :
    Lowering.commonAttributes flags none .empty = pure [] := by
  simp only [Lowering.commonAttributes, isCurrent]
  rfl

/-- The constants of the restriction annotation type. -/
def restrictionConstants : List Constant :=
  [.utf8 "android/annotation/HiddenApiRestriction", .classRef 1, .utf8 "java/lang/Object",
    .classRef 3, .utf8 "java/lang/annotation/Annotation", .classRef 5, .utf8 "value",
    .utf8 "()[Ljava/lang/String;"]

/-- The class file of the restriction annotation type. -/
def restrictionFile : File where
  version := Stub.baseVersion
  pool := poolOf restrictionConstants
  flags := 0x2600
  thisClass := 2
  superclass := 4
  interfaces := [6]
  fields := []
  methods := [{ flags := 0x0401, name := 7, descriptor := 8, attributes := [] }]
  attributes := []

/--
The annotation type for restrictions is lowered to its file.  Every constant is new, so each step
appends it and gets the index behind the pool so far.
-/
theorem classTree_restrictionTree :
    Lowering.classTree Stub.restrictionTree (poolOf []) =
      .ok (fun pool => { restrictionFile with pool }) (poolOf restrictionConstants) := by
  have name :
      Descriptor.internalName Stub.restrictionType = "android/annotation/HiddenApiRestriction" :=
    rfl
  have noMethodAttributes :
      Lowering.commonAttributes (AccessFlags.publicBit ||| AccessFlags.abstractBit) none .empty =
        pure [] :=
    commonAttributes_empty rfl
  have noClassAttributes :
      Lowering.commonAttributes
          (AccessFlags.annotationBit ||| AccessFlags.abstractBit ||| AccessFlags.interfaceBit)
          none .empty =
        pure [] :=
    commonAttributes_empty rfl
  simp (disch := decide) [Stub.restrictionTree, name, ClassTree.bare, MethodTree.bare,
    Stub.restrictionElement, Lowering.classTree, Lowering.optionalClass, Lowering.method,
    Lowering.exceptions, Lowering.methodParameters, Lowering.annotationDefault,
    Lowering.parameterAnnotations, Lowering.classAttributes, Lowering.sourceFile,
    Lowering.innerClasses, Lowering.enclosingMethod, Lowering.permittedSubclasses,
    noMethodAttributes, noClassAttributes, Interning.bind_apply, classRef_poolOf, utf8_poolOf]
  rfl

/-- The annotation type for restrictions can be written. -/
theorem exists_write_restrictionTree : ∃ bytes, Stub.restrictionTree.write = .ok bytes :=
  ⟨_, ClassTree.write_of_classTree classTree_restrictionTree rfl⟩

/-- A field whose annotation lists the blacklist. -/
def restrictedField : FieldTree where
  flags := AccessFlags.publicBit
  name := "count"
  descriptor := "I"
  signature := none
  value := none
  annotations := {
    visible := []
    invisible := [{
      descriptor := "Landroid/annotation/HiddenApiRestriction;"
      values := [("value", .array [.string "blacklist"])] }] }

/-- The stub of a public class with such a field. -/
def restrictedTree : ClassTree :=
  { plainTree (AccessFlags.publicBit ||| AccessFlags.superBit) "pkg/Api" "java/lang/Object" with
    fields := [restrictedField] }

/-- The constants of the stub. -/
def restrictedConstants : List Constant :=
  [.utf8 "pkg/Api", .classRef 1, .utf8 "java/lang/Object", .classRef 3, .utf8 "count", .utf8 "I",
    .utf8 "RuntimeInvisibleAnnotations", .utf8 "Landroid/annotation/HiddenApiRestriction;",
    .utf8 "value", .utf8 "blacklist"]

/-- The field with its parts entered. -/
def restrictedMember : Member where
  flags := 0x0001
  name := 5
  descriptor := 6
  attributes := [{
    name := 7
    content := .annotations false [{
      type := 8
      elements := [(9, .array [.constant .string 10])] }] }]

/-- The class file of the stub. -/
def restrictedFile : File where
  version := Stub.baseVersion
  pool := poolOf restrictedConstants
  flags := 0x0021
  thisClass := 2
  superclass := 4
  interfaces := []
  fields := [restrictedMember]
  methods := []
  attributes := []

/-- The restricted field is lowered to its member. -/
theorem field_restrictedField :
    Lowering.field restrictedField
        (poolOf [.utf8 "pkg/Api", .classRef 1, .utf8 "java/lang/Object", .classRef 3]) =
      .ok restrictedMember (poolOf restrictedConstants) := by
  have isCurrent : AccessFlags.publicBit.has AccessFlags.deprecatedBit = false := rfl
  have isPrimitive : Lowering.checkFieldType ['I'] = .ok () := rfl
  simp (disch := decide) [restrictedField, isCurrent, isPrimitive, Lowering.field,
    Lowering.commonAttributes, Lowering.annotationAttribute, Lowering.annotationEntry,
    Lowering.namedValues, Lowering.elementValue, Lowering.elementValues,
    AttributeContent.attributeName, Interning.bind_apply, Interning.map_apply, utf8_poolOf]
  exact ⟨rfl, rfl⟩

/-- The stub with the restricted field is lowered to its file. -/
theorem classTree_restrictedTree :
    Lowering.classTree restrictedTree (poolOf []) =
      .ok (fun pool => { restrictedFile with pool }) (poolOf restrictedConstants) := by
  have noAttributes :
      Lowering.commonAttributes (AccessFlags.publicBit ||| AccessFlags.superBit) none .empty =
        pure [] :=
    commonAttributes_empty rfl
  simp (disch := decide) [restrictedTree, plainTree, ClassTree.bare, Lowering.classTree,
    Lowering.optionalClass, Lowering.classAttributes, Lowering.sourceFile, Lowering.innerClasses,
    Lowering.enclosingMethod, Lowering.permittedSubclasses, noAttributes, field_restrictedField,
    Interning.bind_apply, classRef_poolOf]
  rfl

/-- The stub with the restricted field can be written. -/
theorem exists_write_restrictedTree : ∃ bytes, restrictedTree.write = .ok bytes :=
  ⟨_, ClassTree.write_of_classTree classTree_restrictedTree rfl⟩

end ClassFile

end DexSurface
