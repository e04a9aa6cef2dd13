import DexSurface.Proofs.ClassFile.LoweringFailures
import DexSurface.Proofs.ClassFile.VariableSpans

namespace DexSurface

namespace ClassFile

/-!
# The largest bodies

The size of a body is known as soon as its instructions have been lowered in the pool that all parts
before it have left.  Lowering stops there if the size exceeds sixteen bits, and nowhere else for
the size of a body, so the length of a variable is never cut off.
-/

open Interning (FailsWith failsWith_pure failsWith_throw failsWith_mapM)

/-- An error that is not about the size of a body. -/
def Error.IsBesideCode : Error → Prop
  | .tooLarge .code _ => False
  | _ => True

/-- An error without a size is not about the size of a body. -/
theorem Error.IsUnsized.isBesideCode {error : Error} (isUnsized : error.IsUnsized) :
    error.IsBesideCode := by
  cases error with
  | tooLarge => exact isUnsized.elim
  | _ => trivial

namespace Interning

/-- From a pool a computation stops because a body has a size. -/
def RefusesCode (run : Interning α) (before : ConstantPool) (size : Nat) : Prop :=
  ∃ after, run before = .error (.tooLarge .code size) after

variable
  {run : Interning α}
  {next : α → Interning β}
  {before : ConstantPool}
  {size : Nat}

/-- A computation whose errors are all beside the size of a body refuses no body. -/
theorem not_refusesCode (failsWith : FailsWith Error.IsBesideCode run) :
    ¬ RefusesCode run before size :=
  fun ⟨after, failed⟩ => failsWith before after _ failed

/-- A sequence refuses a body behind a first part that does not. -/
theorem refusesCode_bind_iff (failsWith : FailsWith Error.IsBesideCode run) :
    RefusesCode (run >>= next) before size
      ↔ ∃ value middle, run before = .ok value middle ∧ RefusesCode (next value) middle size := by
  constructor
  · rintro ⟨after, failed⟩
    rcases bind_eq_error_iff.mp failed with firstFailed | ⟨value, middle, ran, nextFailed⟩
    · exact absurd ⟨after, firstFailed⟩ (not_refusesCode failsWith)
    · exact ⟨value, middle, ran, after, nextFailed⟩
  · rintro ⟨value, middle, ran, after, nextFailed⟩
    exact ⟨after, bind_eq_error_iff.mpr (Or.inr ⟨value, middle, ran, nextFailed⟩)⟩

/-- A sequence refuses a body in its first part if what follows does not. -/
theorem refusesCode_bind_iff_of_rest
    (failsWith : ∀ value, FailsWith Error.IsBesideCode (next value)) :
    RefusesCode (run >>= next) before size ↔ RefusesCode run before size := by
  constructor
  · rintro ⟨after, failed⟩
    rcases bind_eq_error_iff.mp failed with firstFailed | ⟨value, middle, -, nextFailed⟩
    · exact ⟨after, firstFailed⟩
    · exact absurd ⟨after, nextFailed⟩ (not_refusesCode (failsWith value))
  · rintro ⟨after, firstFailed⟩
    exact ⟨after, bind_eq_error_iff.mpr (Or.inl firstFailed)⟩

/-- A list is refused exactly at one of its items, after all the items before it were entered. -/
theorem refusesCode_mapM_iff {enter : α → Interning β} {items : List α} :
    RefusesCode (items.mapM enter) before size
      ↔ ∃ earlier item later values middle,
          items = earlier ++ item :: later
            ∧ earlier.mapM enter before = .ok values middle
            ∧ RefusesCode (enter item) middle size := by
  constructor
  · rintro ⟨after, failed⟩
    obtain ⟨earlier, item, later, values, middle, split, ran, itemFailed⟩ :=
      mapM_eq_error_iff.mp failed
    exact ⟨earlier, item, later, values, middle, split, ran, after, itemFailed⟩
  · rintro ⟨earlier, item, later, values, middle, split, ran, after, itemFailed⟩
    exact ⟨after, mapM_eq_error_iff.mpr
      ⟨earlier, item, later, values, middle, split, ran, itemFailed⟩⟩

end Interning

open Interning (RefusesCode refusesCode_bind_iff refusesCode_bind_iff_of_rest not_refusesCode)

namespace Lowering

variable {before : ConstantPool} {size : Nat}

/-- The length of a body is refused exactly if the body is larger than sixteen bits can state. -/
theorem refusesCode_codeLength_iff {operations : List Operation} :
    RefusesCode (codeLength operations) before size
      ↔ total Operation.size operations = size ∧ 0xffff < size := by
  rw [codeLength]
  split
  · next fits =>
      refine iff_of_false (not_refusesCode (failsWith_pure _)) ?_
      rintro ⟨rfl, large⟩
      omega
  · next large =>
      constructor
      · rintro ⟨after, failed⟩
        cases failed
        exact ⟨rfl, Nat.lt_of_not_le large⟩
      · rintro ⟨rfl, -⟩
        exact ⟨before, rfl⟩

/-- A body is refused exactly for the bytes of its lowered instructions, when they exceed 0xffff. -/
theorem refusesCode_code_iff {body : Body} :
    RefusesCode (code body) before size
      ↔ ∃ operations after,
          body.instructions.mapM instruction before = .ok operations after
            ∧ total Operation.size operations = size
            ∧ 0xffff < size := by
  have instructionsFail : FailsWith Error.IsBesideCode (body.instructions.mapM instruction) :=
    failsWith_mapM fun operand _ =>
      (failsWith_instruction operand).imp fun _ => Error.IsUnsized.isBesideCode
  have lengthRefuses (operations : List Operation) (middle : ConstantPool) :
      RefusesCode (codeLength operations >>= codeBehindLength body operations) middle size
        ↔ total Operation.size operations = size ∧ 0xffff < size :=
    (refusesCode_bind_iff_of_rest fun length =>
      (failsWith_codeBehindLength body operations length).imp fun _ =>
        Error.IsUnsized.isBesideCode).trans refusesCode_codeLength_iff
  rw [code_eq_behindLength, refusesCode_bind_iff instructionsFail]
  simp only [lengthRefuses]

/-- Enter the name and the descriptor of a method and lower the instructions of its body. -/
def upToCode (declared : MethodTree) (body : Body) : Interning (List Operation) := do
  let _ ← Interning.utf8 declared.name
  let _ ← Interning.utf8 declared.descriptor
  body.instructions.mapM instruction

/-- Only a body that is present is refused, and for the bytes of its instructions. -/
theorem refusesCode_bodyAttribute_iff {body? : Option Body} :
    RefusesCode (bodyAttribute body?) before size
      ↔ ∃ body operations after,
          body? = some body
            ∧ body.instructions.mapM instruction before = .ok operations after
            ∧ total Operation.size operations = size
            ∧ 0xffff < size := by
  cases body? with
  | none => simp [bodyAttribute, not_refusesCode (failsWith_pure _)]
  | some body =>
      rw [bodyAttribute, refusesCode_bind_iff_of_rest fun item => failsWith_pure [item],
        refusesCode_code_iff]
      simp

/-- A method is refused exactly for its body, lowered after its name and its descriptor. -/
theorem refusesCode_method_iff {tree : MethodTree} :
    RefusesCode (method tree) before size
      ↔ ∃ body operations after,
          tree.body = some body
            ∧ upToCode tree body before = .ok operations after
            ∧ total Operation.size operations = size
            ∧ 0xffff < size := by
  have textFails (text : String) : FailsWith Error.IsBesideCode (Interning.utf8 text) :=
    (Interning.failsWith_utf8 text).imp fun _ => Error.IsUnsized.isBesideCode
  have behindFails (name descriptor : Index) (bodies : List Attribute) :
      FailsWith Error.IsBesideCode (methodBehindBody tree name descriptor bodies) := by
    refine (failsWith_methodBehindBody tree name descriptor bodies).imp fun error refuses => ?_
    rcases refuses with isUnsized | ⟨visible, -, rfl⟩
    · exact isUnsized.isBesideCode
    · trivial
  rw [method_eq_behindBody, refusesCode_bind_iff (textFails tree.name)]
  simp only [refusesCode_bind_iff (textFails tree.descriptor),
    refusesCode_bind_iff_of_rest (behindFails _ _), refusesCode_bodyAttribute_iff]
  constructor
  · rintro ⟨name, named, nameRan, descriptor, described, descriptorRan,
      body, operations, after, hasBody, ran, exceeds⟩
    have reached : upToCode tree body before = .ok operations after := by
      rw [upToCode]
      refine bind_eq_ok_iff.mpr ⟨name, named, nameRan, ?_⟩
      exact bind_eq_ok_iff.mpr ⟨descriptor, described, descriptorRan, ran⟩
    exact ⟨body, operations, after, hasBody, reached, exceeds⟩
  · rintro ⟨body, operations, after, hasBody, ran, exceeds⟩
    obtain ⟨name, named, nameRan, rest⟩ := bind_eq_ok_iff.mp ran
    obtain ⟨descriptor, described, descriptorRan, ran⟩ := bind_eq_ok_iff.mp rest
    exact ⟨name, named, nameRan, descriptor, described, descriptorRan,
      body, operations, after, hasBody, ran, exceeds⟩

/-- Lower a class up to some of its methods. -/
def upToMethods (tree : ClassTree) (methods : List MethodTree) : Interning (List Member) := do
  let _ ← Interning.classRef tree.name
  let _ ← optionalClass tree.superclass
  let _ ← tree.interfaces.mapM Interning.classRef
  let _ ← tree.fields.mapM field
  methods.mapM method

/--
A class is refused exactly for one method, after all its parts before that method.  Only methods
have bodies, so every other part can only fail for another reason.
-/
theorem refusesCode_classTree_iff {tree : ClassTree} :
    RefusesCode (classTree tree) before size
      ↔ ∃ earlier declared later members middle,
          tree.methods = earlier ++ declared :: later
            ∧ upToMethods tree earlier before = .ok members middle
            ∧ RefusesCode (method declared) middle size := by
  have beside {α : Type} {run : Interning α} (fails : FailsWith Error.IsUnsized run) :
      FailsWith Error.IsBesideCode run :=
    fails.imp fun _ => Error.IsUnsized.isBesideCode
  have nameFails := beside (Interning.failsWith_classRef tree.name)
  have superFails := beside (failsWith_optionalClass tree.superclass)
  have interfacesFail :=
    beside (failsWith_mapM fun name (_ : name ∈ tree.interfaces) =>
      Interning.failsWith_classRef name)
  have fieldsFail :=
    beside (failsWith_mapM fun declared (_ : declared ∈ tree.fields) => failsWith_field declared)
  rw [classTree_eq_behindMethods, refusesCode_bind_iff nameFails]
  simp only [refusesCode_bind_iff superFails, refusesCode_bind_iff interfacesFail,
    refusesCode_bind_iff fieldsFail,
    refusesCode_bind_iff_of_rest fun methods =>
      beside (failsWith_classBehindMethods tree _ _ _ _ methods),
    Interning.refusesCode_mapM_iff]
  constructor
  · rintro ⟨thisClass, named, nameRan, superclass, extended, superRan, interfaces, implemented,
      interfacesRan, fields, described, fieldsRan, earlier, declared, later, members, middle,
      split, methodsRan, refuses⟩
    have ran : upToMethods tree earlier before = .ok members middle := by
      rw [upToMethods]
      refine bind_eq_ok_iff.mpr ⟨thisClass, named, nameRan, ?_⟩
      refine bind_eq_ok_iff.mpr ⟨superclass, extended, superRan, ?_⟩
      refine bind_eq_ok_iff.mpr ⟨interfaces, implemented, interfacesRan, ?_⟩
      exact bind_eq_ok_iff.mpr ⟨fields, described, fieldsRan, methodsRan⟩
    exact ⟨earlier, declared, later, members, middle, split, ran, refuses⟩
  · rintro ⟨earlier, declared, later, members, middle, split, ran, refuses⟩
    obtain ⟨thisClass, named, nameRan, rest⟩ := bind_eq_ok_iff.mp ran
    obtain ⟨superclass, extended, superRan, rest⟩ := bind_eq_ok_iff.mp rest
    obtain ⟨interfaces, implemented, interfacesRan, rest⟩ := bind_eq_ok_iff.mp rest
    obtain ⟨fields, described, fieldsRan, methodsRan⟩ := bind_eq_ok_iff.mp rest
    exact ⟨thisClass, named, nameRan, superclass, extended, superRan, interfaces, implemented,
      interfacesRan, fields, described, fieldsRan, earlier, declared, later, members, middle,
      split, methodsRan, refuses⟩

end Lowering

namespace ClassTree

/--
The instructions of a body are lowered in the pool that all parts of the class before them have
left.
-/
def ReachesCode (tree : ClassTree) (body : Body) (operations : List Operation) : Prop :=
  ∃ earlier declared later members middle after,
    tree.methods = earlier ++ declared :: later
      ∧ declared.body = some body
      ∧ Lowering.upToMethods tree earlier .empty = .ok members middle
      ∧ Lowering.upToCode declared body middle = .ok operations after

/-- How the variables of a class relate to the bytes of its bodies. -/
structure SpansVariables (tree : ClassTree) : Prop where
  /-- The variables of a lowered class span the bytes of its bodies. -/
  spans : ∀ file, tree.lower = .ok file → SpansBodies file.pool tree.methods file.methods
  /-- A class is refused for the size of a body that a length cannot state, and for no other. -/
  refused_iff :
    ∀ size,
      tree.lower = .error (.tooLarge .code size)
        ↔ ∃ body operations,
            tree.ReachesCode body operations
              ∧ (operations.flatMap Encoding.operation).length = size
              ∧ 0xffff < size

/--
Lowering a class fails for the size of a body exactly when the written instructions of a body that
is reached take more than 0xffff bytes.
-/
theorem lower_eq_tooLarge_iff {tree : ClassTree} {size : Nat} :
    tree.lower = .error (.tooLarge .code size)
      ↔ ∃ body operations,
          tree.ReachesCode body operations
            ∧ (operations.flatMap Encoding.operation).length = size
            ∧ 0xffff < size := by
  rw [lower_eq_error_iff]
  refine Lowering.refusesCode_classTree_iff.trans ?_
  simp only [Lowering.refusesCode_method_iff, length_operations]
  constructor
  · rintro ⟨earlier, declared, later, members, middle, split, membersRan,
      body, operations, after, hasBody, ran, exceeds⟩
    exact ⟨body, operations,
      ⟨earlier, declared, later, members, middle, after, split, hasBody, membersRan, ran⟩, exceeds⟩
  · rintro ⟨body, operations,
      ⟨earlier, declared, later, members, middle, after, split, hasBody, membersRan, ran⟩, exceeds⟩
    exact ⟨earlier, declared, later, members, middle, split, membersRan,
      body, operations, after, hasBody, ran, exceeds⟩

/--
In a lowered class the instructions of each body are lowered one by one, string loads according to
their indices, and both entries about a variable span exactly their bytes.  A body whose bytes
exceed sixteen bits is refused as soon as its instructions have been lowered.
-/
theorem spansVariables (tree : ClassTree) : tree.SpansVariables := by
  constructor
  case spans =>
    intro file lowered
    obtain ⟨build, pool, rfl, consistent, samePool, states, -⟩ :=
      exists_build_of_lower (Lowering.enters_classTree tree) lowered
    rw [samePool]
    exact states.imp fun _ _ => spansBody_of_statesMethod consistent
  case refused_iff => exact fun size => lower_eq_tooLarge_iff

end ClassTree

end ClassFile

end DexSurface
