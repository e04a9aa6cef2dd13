import DexSurface.ClassFile.Encoding
import DexSurface.Proofs.ClassFile.LoweredClasses

namespace DexSurface

namespace ClassFile

/-!
# The span of local variables

The attributes of a lowered method hold its body and no other one.  Both entries about a variable
live in the whole body: they start with its first byte and are as long as its instructions are when
they are written.  An entry with a signature shares the name and the slot of the entry with the
descriptor, because a consistent pool has one index for a name.
-/

/-! How a lowered body describes its variables. -/

/-- The number of bytes that the instructions take when they are written. -/
def LoweredBody.size (lowered : LoweredBody) : Nat :=
  (lowered.operations.flatMap Encoding.operation).length

/-- The bytes that an instruction takes; those of a string load depend on its string's index. -/
inductive TakesBytes (pool : ConstantPool) : Instruction → Nat → Prop where
  | simple {instruction : SimpleInstruction} : TakesBytes pool (.simple instruction) 1
  | new {name : InternalName} : TakesBytes pool (.new name) 3
  | loadShort {text : String} {index : Index} :
      pool.stringText? index = some text →
      index ≤ 0xff →
      TakesBytes pool (.loadString text) 2
  | loadWide {text : String} {index : Index} :
      pool.stringText? index = some text →
      0xff < index →
      TakesBytes pool (.loadString text) 3
  | invokeSpecial {owner : InternalName} {name descriptor : String} :
      TakesBytes pool (.invokeSpecial owner name descriptor) 3

/-- An entry has the name, the descriptor and the slot of a variable. -/
structure DescribesVariable
    (pool : ConstantPool)
    (localVariable : LocalVariable)
    (entry : VariableEntry) : Prop where
  name : pool.utf8? entry.name = some localVariable.name
  descriptor : pool.utf8? entry.type = some localVariable.descriptor
  slot : entry.slot = localVariable.slot

/-- An entry has the signature of a variable, and the name and the slot of its other entry. -/
structure SignsVariable
    (pool : ConstantPool)
    (localVariable : LocalVariable)
    (described signed : VariableEntry) : Prop where
  name : signed.name = described.name
  signature : pool.utf8? signed.type = localVariable.signature
  slot : signed.slot = described.slot

/-- The instructions of a body are lowered one by one, and all its variables span their bytes. -/
structure SpansBody (pool : ConstantPool) (body : Body) (lowered : LoweredBody) : Prop where
  operations : List.Forall₂ (IsLoweredTo pool) body.instructions lowered.operations
  widths :
    List.Forall₂
      (fun instruction operation =>
        TakesBytes pool instruction (Encoding.operation operation).length)
      body.instructions lowered.operations
  size_le : lowered.size ≤ 0xffff
  /-- Each entry of either table lives from the start to the end of the instructions. -/
  spans :
    ∀ kind, ∀ entry ∈ lowered.entries kind, entry.start = 0 ∧ entry.length.toNat = lowered.size
  described :
    List.Forall₂ (DescribesVariable pool) body.localVariables (lowered.entries .descriptors)
  /-- The second table has the variables with a signature, in order. -/
  signed :
    List.Forall₂ (fun pair => SignsVariable pool pair.1 pair.2)
      ((body.localVariables.zip (lowered.entries .descriptors)).filter fun pair =>
        pair.1.signature.isSome)
      (lowered.entries .signatures)
  /-- There is one table for each kind of entries that there are. -/
  tables :
    ∃ descriptors signatures,
      lowered.tables = descriptors ++ signatures
        ∧ StatesEntries pool .descriptors (lowered.entries .descriptors) descriptors
        ∧ StatesEntries pool .signatures (lowered.entries .signatures) signatures

/-! The bytes of instructions. -/

/-- The bytes written for an operation are as many as its size says. -/
theorem length_operation (operation : Operation) :
    (Encoding.operation operation).length = operation.size := by
  cases operation <;> rfl

/-- The bytes written for operations are as many as the sum of their sizes. -/
theorem length_operations (operations : List Operation) :
    (operations.flatMap Encoding.operation).length = total Operation.size operations := by
  induction operations with
  | nil => rfl
  | cons first rest inductionHypothesis =>
      rw [List.flatMap_cons, List.length_append, length_operation, inductionHypothesis, total_cons]

/-- A lowered instruction takes the bytes that its shape prescribes. -/
theorem IsLoweredTo.takesBytes
    {pool : ConstantPool}
    {operand : Instruction}
    {operation : Operation}
    (lowered : IsLoweredTo pool operand operation) :
    TakesBytes pool operand (Encoding.operation operation).length := by
  rw [length_operation]
  cases lowered with
  | simple => exact .simple
  | new => exact .new
  | @loadShort text index found =>
      have short : index.toUInt16 ≤ 0xff := by
        rw [UInt16.le_iff_toNat_le, UInt8.toNat_toUInt16]
        exact Nat.le_of_lt_succ index.toNat_lt
      exact .loadShort found short
  | loadWide long found => exact .loadWide found long
  | invokeSpecial => exact .invokeSpecial

/-! The entries about variables. -/

/-- An entry is read exactly when it starts at zero, spans the whole body and names its variable. -/
theorem VariableEntry.read?_eq_some_iff
    {pool : ConstantPool}
    {size : Nat}
    {entry : VariableEntry}
    {typed : TypedVariable} :
    entry.read? pool size = some typed
      ↔ (entry.start = 0 ∧ entry.length.toNat = size)
        ∧ pool.utf8? entry.name = some typed.name
        ∧ pool.utf8? entry.type = some typed.type
        ∧ entry.slot = typed.slot := by
  obtain ⟨name, type, slot⟩ := typed
  rw [read?]
  split
  · next spans =>
      simp only [spans, Option.bind_eq_bind, Option.bind_eq_some_iff, Option.pure_def,
        Option.some.injEq, TypedVariable.mk.injEq]
      grind
  · next apart => simp [apart]

variable {pool : ConstantPool} {size : Nat}

/-- An entry that is read back as a variable describes it. -/
theorem describesVariable_of_read?
    {localVariable : LocalVariable}
    {entry : VariableEntry}
    (entryRead : entry.read? pool size = some localVariable.described) :
    DescribesVariable pool localVariable entry := by
  obtain ⟨-, name, descriptor, slot⟩ := VariableEntry.read?_eq_some_iff.mp entryRead
  exact ⟨name, descriptor, slot⟩

/-- In a consistent pool the two entries about a variable have one index for its name. -/
theorem signsVariable_of_read?
    (consistent : pool.IsConsistent)
    {localVariable : LocalVariable}
    {described signed : VariableEntry}
    {typed : TypedVariable}
    (describes : DescribesVariable pool localVariable described)
    (isSigned : localVariable.signed? = some typed)
    (signedRead : signed.read? pool size = some typed) :
    SignsVariable pool localVariable described signed := by
  obtain ⟨signature, hasSignature, rfl⟩ := Option.map_eq_some_iff.mp isSigned
  obtain ⟨-, name, type, slot⟩ := VariableEntry.read?_eq_some_iff.mp signedRead
  exact ⟨consistent.eq_of_utf8? name describes.name, type.trans hasSignature.symm,
    slot.trans describes.slot.symm⟩

/-- The entries with signatures belong to the variables that have one. -/
theorem forall₂_signsVariable
    (consistent : pool.IsConsistent)
    {locals : List LocalVariable}
    {described signed : List VariableEntry}
    (describes : List.Forall₂ (DescribesVariable pool) locals described)
    (signedRead :
      List.Forall₂ (fun entry typed => entry.read? pool size = some typed) signed
        (locals.filterMap LocalVariable.signed?)) :
    List.Forall₂ (fun pair => SignsVariable pool pair.1 pair.2)
      ((locals.zip described).filter fun pair => pair.1.signature.isSome) signed := by
  induction describes generalizing signed with
  | nil =>
      cases signedRead
      exact .nil
  | @cons localVariable entry rest entries firstDescribes _ inductionHypothesis =>
      rw [List.zip_cons_cons]
      cases signature : localVariable.signature with
      | none =>
          have unsigned : localVariable.signed? = none := by
            rw [LocalVariable.signed?, signature, Option.map_none]
          rw [List.filterMap_cons_none unsigned] at signedRead
          rw [List.filter_cons_of_neg (by simp [signature])]
          exact inductionHypothesis signedRead
      | some text =>
          have isSigned :
              localVariable.signed? = some ⟨localVariable.name, text, localVariable.slot⟩ := by
            rw [LocalVariable.signed?, signature, Option.map_some]
          rw [List.filterMap_cons_some isSigned] at signedRead
          rw [List.filter_cons_of_pos (by simp [signature])]
          cases signedRead with
          | cons firstRead restRead =>
              exact .cons (signsVariable_of_read? consistent firstDescribes isSigned firstRead)
                (inductionHypothesis restRead)

/-- A lowered body spans all its variables. -/
theorem LowersBody.spansBody
    {body : Body}
    {lowered : LoweredBody}
    (consistent : pool.IsConsistent)
    (lowers : LowersBody pool body lowered) :
    SpansBody pool body lowered := by
  have sameSize : lowered.size = total Operation.size lowered.operations :=
    length_operations lowered.operations
  have describedRead := mapM_eq_some_iff_forall₂.mp lowers.described
  have signedRead := mapM_eq_some_iff_forall₂.mp lowers.signed
  have describes :
      List.Forall₂ (DescribesVariable pool) body.localVariables
        (lowered.entries .descriptors) := by
    refine ((List.forall₂_map_right_iff.mp describedRead).imp ?_).flip
    intro entry declared isRead
    exact describesVariable_of_read? isRead
  constructor
  case operations => exact lowers.operations
  case widths => exact lowers.operations.imp fun _ _ => IsLoweredTo.takesBytes
  case size_le =>
    rw [sameSize]
    exact lowers.size_le
  case spans =>
    intro kind entry member
    rw [sameSize]
    cases kind with
    | descriptors =>
        obtain ⟨_, entryRead⟩ := exists_of_mem_of_forall₂ describedRead member
        exact (VariableEntry.read?_eq_some_iff.mp entryRead).1
    | signatures =>
        obtain ⟨_, entryRead⟩ := exists_of_mem_of_forall₂ signedRead member
        exact (VariableEntry.read?_eq_some_iff.mp entryRead).1
  case described => exact describes
  case signed => exact forall₂_signsVariable consistent describes signedRead
  case tables => exact lowers.tables

/-! The bodies of members. -/

/-- The body that an attribute holds. -/
def Attribute.body? (item : Attribute) : Option LoweredBody :=
  match item.content with
  | .code _ _ operations tables => some ⟨operations, tables⟩
  | _ => none

/-- The bodies that a member holds. -/
def Member.bodies (member : Member) : List LoweredBody :=
  member.attributes.filterMap Attribute.body?

/-- Reading the content of an attribute gives what the attribute holds. -/
theorem content_of_content?
    {item : Attribute}
    {content : AttributeContent}
    (named : item.content? pool = some content) : item.content = content := by
  obtain ⟨name, -, rest⟩ := Option.bind_eq_some_iff.mp named
  split at rest
  · exact Option.some.inj rest
  · cases rest

/-- An attribute with a body gives the method a body, and no attribute takes it away. -/
theorem body?_eq_none_of_addAttribute?
    {before after : MethodTree}
    {item : Attribute}
    (added : before.addAttribute? pool item = some after)
    (bodiless : after.body = none) :
    before.body = none ∧ item.body? = none := by
  obtain ⟨content, named, contentAdded⟩ := isGiving_option.of_bind added
  rw [Attribute.body?, content_of_content? named]
  cases content with
  | code =>
      obtain ⟨_, -, same⟩ := isGiving_option.of_bind contentAdded
      obtain rfl := Option.some.inj same
      cases bodiless
  | parameterAnnotations visible rows =>
      obtain ⟨_, -, same⟩ := isGiving_option.of_bind contentAdded
      obtain rfl := Option.some.inj same
      cases visible <;> exact ⟨bodiless, rfl⟩
  | _ =>
      obtain ⟨_, -, same⟩ := isGiving_option.of_bind contentAdded
      obtain rfl := Option.some.inj same
      exact ⟨bodiless, rfl⟩

/-- Attributes of which a method without a body is read hold no body. -/
theorem filterMap_body?_eq_nil
    {attributes : List Attribute}
    {before after : MethodTree}
    (attributesRead : attributes.foldlM (MethodTree.addAttribute? pool) before = some after)
    (bodiless : after.body = none) :
    before.body = none ∧ attributes.filterMap Attribute.body? = [] := by
  induction attributes generalizing before with
  | nil =>
      obtain rfl := Option.some.inj attributesRead
      exact ⟨bodiless, rfl⟩
  | cons first rest inductionHypothesis =>
      rw [List.foldlM_cons] at attributesRead
      obtain ⟨middle, firstRead, restRead⟩ := isGiving_option.of_bind attributesRead
      obtain ⟨middleBodiless, restHoldsNone⟩ := inductionHypothesis restRead
      obtain ⟨beforeBodiless, firstHoldsNone⟩ :=
        body?_eq_none_of_addAttribute? firstRead middleBodiless
      refine ⟨beforeBodiless, ?_⟩
      rw [List.filterMap_cons_none firstHoldsNone, restHoldsNone]

/-- The bodies that members hold are those of their methods, and they span their variables. -/
def SpansBodies (pool : ConstantPool) : List MethodTree → List Member → Prop :=
  List.Forall₂ fun declared member =>
    List.Forall₂ (SpansBody pool) declared.body.toList member.bodies

/-- The bodies among the attributes of a method span the variables of its body. -/
theorem spansBody_of_statesBody
    (consistent : pool.IsConsistent)
    {body : Option Body}
    {attributes : List Attribute}
    (states : StatesBody pool body attributes) :
    List.Forall₂ (SpansBody pool) body.toList (attributes.filterMap Attribute.body?) := by
  cases states with
  | none => exact .nil
  | @code body lowered item named lowers =>
      have holds : item.body? = some lowered := by
        rw [Attribute.body?, content_of_content? named]
      rw [List.filterMap_cons_some holds]
      exact .cons (lowers.spansBody consistent) .nil

/-- The attributes behind the body hold none: a method without a body could be read of them too. -/
theorem spansBody_of_statesMethod
    (consistent : pool.IsConsistent)
    {tree : MethodTree}
    {member : Member}
    (states : Lowering.StatesMethod pool tree member) :
    List.Forall₂ (SpansBody pool) tree.body.toList member.bodies := by
  obtain ⟨bodies, others, attributes, statesBody, othersRead⟩ := states.attributes
  rw [Member.bodies, attributes, List.filterMap_append,
    (filterMap_body?_eq_nil (othersRead none) rfl).2, List.append_nil]
  exact spansBody_of_statesBody consistent statesBody

end ClassFile

end DexSurface
