import DexSurface.Proofs.Parameters.SlotLayout
import DexSurface.Proofs.Stub.OperandStack
import DexSurface.Stub.Body

namespace DexSurface

/-!
# Stub bodies are accepted by a machine

A stub body is executed on the frame that a call of its method sets up.  It never lacks an operand
or a local slot, it takes exactly the stack that it declares, and it ends with a return of the kind
that the method returns.  Its local variables are the receiver and the parameters of which something
is known, in slots that they share with no other variable.
-/

/-- The types that a method can return. -/
inductive ReturnType where
  | void
  | value (type : FieldType)
  deriving Repr, DecidableEq

namespace ReturnType

/-- The descriptor of a return type. -/
def descriptor : ReturnType → TypeDescriptor
  | void => Descriptor.void
  | value type => type.descriptor

/-- How a body with a return type ends when it does not throw. -/
def ending : ReturnType → ClassFile.Ending
  | void => .returned none
  | value type => .returned (some (.ofField type))

end ReturnType

namespace Stub

open ClassFile (StackKind OperandStack LocalSlots Ending Execution Body LocalVariable Instruction
  SimpleInstruction execute execute_of_ends execute_of_goesOn)

/-- The local slots that a call of a method fills: its receiver, then its parameters. -/
def argumentSlots (method : MethodRecord) : LocalSlots :=
  (if method.isStatic then [] else [some .reference])
    ++ method.parameterTypes.flatMap fun type => (StackKind.ofDescriptor type).slots

/-- The greatest depth of stacks. -/
structure IsPeak (trace : List OperandStack) (peak : Nat) : Prop where
  isBound : ∀ stack ∈ trace, stack.depth ≤ peak
  isReached : ∃ stack ∈ trace, stack.depth = peak

/-- A body is executed on the frame of a method, in the stack and the locals that it declares. -/
structure IsExecuted (method : MethodRecord) (body : Body) (ending : Ending) : Prop where
  executes :
    ∃ trace,
      execute (argumentSlots method) [] body.instructions = .ok { trace, ending }
        ∧ IsPeak trace body.maxStack.toNat
  slots : (argumentSlots method).length = body.maxLocals.toNat

/-- What a local variable of a stub body stands for. -/
inductive NamedLocal where
  | receiver
  | parameter (position : Nat) (placed : PlacedParameter)

namespace NamedLocal

/-- The slots of a local: one for the receiver, and those of a parameter. -/
def slots : NamedLocal → List Nat
  | receiver => [0]
  | parameter _ placed => placed.slots

/-- A variable describes a local of a method. -/
inductive IsDescribed (method : MethodRecord) : NamedLocal → LocalVariable → Prop where
  | receiver :
      IsDescribed method receiver
        { name := "this", descriptor := method.definingClass, signature := none, slot := 0 }
  | parameter
      {position : Nat}
      {placed : PlacedParameter}
      {slot : UInt16}
      (sameSlot : slot.toNat = placed.slot) :
      IsDescribed method (parameter position placed) {
        name := placed.parameter.name.getD ("p" ++ Nat.repr position)
        descriptor := placed.parameter.parameterType
        signature := placed.parameter.signature
        slot }

end NamedLocal

/-- The name or the signature of a parameter is known. -/
def isKnown (placed : PlacedParameter) : Bool :=
  placed.parameter.name.isSome || placed.parameter.signature.isSome

/-- The locals of a method that have something to describe, in the order of their slots. -/
def namedLocals (method : MethodRecord) : List NamedLocal :=
  (if method.isStatic then [] else [.receiver])
    ++ ((placedParameters method).zipIdx.filter fun entry => isKnown entry.1).map fun entry =>
      .parameter entry.2 entry.1

/-- Variables describe the receiver and the known parameters of a method, in slots of their own. -/
structure DescribesLocals (method : MethodRecord) (body : Body) : Prop where
  described : List.Forall₂ (NamedLocal.IsDescribed method) (namedLocals method) body.localVariables
  disjoint : ((namedLocals method).map NamedLocal.slots).Pairwise List.Disjoint
  inside : ∀ named ∈ namedLocals method, ∀ slot ∈ named.slots, slot < body.maxLocals.toNat

/-- A machine accepts a body of a method, which then ends in a certain way. -/
structure IsAccepted (method : MethodRecord) (body : Body) (ending : Ending) : Prop where
  executed : IsExecuted method body ending
  locals : DescribesLocals method body

variable
  {method : MethodRecord}
  {returnType : ReturnType}

/-! The frame of a method. -/

/-- A value takes as many slots as the size of its kind. -/
theorem length_slots (kind : StackKind) : kind.slots.length = kind.size := by
  cases kind <;> rfl

/-- The slots that a call fills are as many as the locals that a body declares. -/
theorem length_argumentSlots (method : MethodRecord) :
    (argumentSlots method).length = maxLocals method := by
  have parameterSlots :
      ∀ parameters : List Parameter,
        ((parameters.map Parameter.parameterType).flatMap fun type =>
          (StackKind.ofDescriptor type).slots).length = totalWidth parameters := by
    intro parameters
    induction parameters with
    | nil => rfl
    | cons first rest inductionHypothesis =>
        simp [totalWidth, Parameter.width, length_slots, StackKind.size_ofDescriptor,
          inductionHypothesis]
  rw [argumentSlots, List.length_append, MethodRecord.parameterTypes, parameterSlots, maxLocals,
    receiverWidth]
  split <;> rfl

/-- An instance method can load its receiver. -/
theorem loadThis_step
    (isInstance : method.isStatic = false)
    (stack : OperandStack) :
    (Instruction.simple .loadThis).step (argumentSlots method) stack
      = .ok (.goesOn (.reference :: stack)) := by
  simp [argumentSlots, isInstance, Instruction.step, SimpleInstruction.step]

/-! Calling a constructor. -/

/-- The descriptor of a constructor without parameters is read. -/
theorem readMethod?_plainConstructor : FieldType.readMethod? "()V" = some ([], "V") :=
  FieldType.readMethod?_ofMethod [] "V"

/-- The type of the text that an exception is created with. -/
def messageType : FieldType :=
  .object "java/lang/String".toList (by decide)

/-- The descriptor of a constructor with a message is read. -/
theorem readMethod?_messageConstructor :
    FieldType.readMethod? "(Ljava/lang/String;)V" = some ([messageType], "V") :=
  FieldType.readMethod?_ofMethod [messageType] "V"

/-! Returning a zero. -/

/-- The zero of a field type is pushed, and a value of its kind is returned. -/
theorem exists_zeroReturn_value (type : FieldType) :
    ∃ push last : SimpleInstruction,
      zeroReturn type.descriptor = ([push, last], (StackKind.ofField type).size.toUInt16)
        ∧ (∀ locals stack, push.step locals stack = .ok (.goesOn (.ofField type :: stack)))
        ∧ ∀ locals stack,
          last.step locals (.ofField type :: stack)
            = .ok (.ends (.returned (some (.ofField type)))) := by
  simp only [zeroReturn, FieldType.descriptor, String.toList_ofList]
  cases type with
  | primitive type =>
      cases type <;> exact ⟨_, _, rfl, fun _ _ => rfl, fun _ _ => rfl⟩
  | object name isName => exact ⟨_, _, rfl, fun _ _ => rfl, fun _ _ => rfl⟩
  | array element => exact ⟨_, _, rfl, fun _ _ => rfl, fun _ _ => rfl⟩

/-- A single value on an empty stack has its own size as peak. -/
theorem isPeak_push (kind : StackKind) : IsPeak [[], [kind]] kind.size.toUInt16.toNat := by
  constructor <;> cases kind <;> decide

/-- Returning a zero of the return type is executed on any locals and ends with this type. -/
theorem exists_execute_zeroReturn (returnType : ReturnType) (locals : LocalSlots) :
    ∃ trace,
      execute locals [] ((zeroReturn returnType.descriptor).1.map .simple)
          = .ok { trace, ending := returnType.ending }
        ∧ IsPeak trace (zeroReturn returnType.descriptor).2.toNat := by
  cases returnType with
  | void =>
      exact ⟨[[]], execute_of_ends rfl, by simp [OperandStack.depth], by simp; rfl⟩
  | value type =>
      obtain ⟨push, last, isZero, pushes, returns⟩ := exists_zeroReturn_value type
      have ended : execute locals [.ofField type] [.simple last]
          = .ok { trace := [[.ofField type]], ending := (ReturnType.value type).ending } :=
        execute_of_ends (returns locals [])
      have pushed : (Instruction.simple push).step locals [] = .ok (.goesOn [.ofField type]) :=
        pushes locals []
      have executed := execute_of_goesOn pushed ended
      simp only [ReturnType.descriptor, isZero]
      exact ⟨_, executed, isPeak_push _⟩

/-! Executing a stub body. -/

/-- Only the type without values has its descriptor. -/
theorem eq_void_of_descriptor_eq
    (isVoid : returnType.descriptor = Descriptor.void) : returnType = .void := by
  cases returnType with
  | void => rfl
  | value type =>
      have letters := congrArg String.toList isVoid
      rw [ReturnType.descriptor, FieldType.descriptor, String.toList_ofList] at letters
      cases type with
      | primitive type => cases type <;> cases letters
      | object name isName => cases letters
      | array element => cases letters

/-- A constructor calls the constructor of its superclass on its receiver, and returns. -/
theorem exists_execute_chained
    (superclass : InternalName)
    (isInstance : method.isStatic = false) :
    ∃ trace,
      execute (argumentSlots method) []
          [.simple .loadThis, .invokeSpecial superclass constructorName "()V", .simple .returnVoid]
          = .ok { trace, ending := ReturnType.void.ending }
        ∧ IsPeak trace 1 := by
  have called :
      (Instruction.invokeSpecial superclass constructorName "()V").step (argumentSlots method)
        [.reference] = .ok (.goesOn []) := by
    rw [Instruction.step, readMethod?_plainConstructor]
    rfl
  have ended : execute (argumentSlots method) [] [.simple .returnVoid]
      = .ok { trace := [[]], ending := ReturnType.void.ending } :=
    execute_of_ends rfl
  have loaded := loadThis_step isInstance []
  refine ⟨_, execute_of_goesOn loaded (execute_of_goesOn called ended), ?_, ?_⟩
  · decide
  · decide

/-- The body of a method is executed on the frame of the method and ends as its return type says. -/
theorem isExecuted_methodBody
    (record : ClassRecord)
    (spelled : method.returnType = returnType.descriptor)
    (bounded : maxLocals method ≤ 65535) :
    IsExecuted method (methodBody record method (placedParameters method)) returnType.ending := by
  constructor
  case executes =>
    simp only [methodBody, instructions]
    split
    · next superclass isChained =>
        rw [chainedSuperclass?] at isChained
        split at isChained
        · next isConstructor =>
            obtain ⟨-, isInstance, returnsVoid, -⟩ := isConstructor
            rw [eq_void_of_descriptor_eq (spelled.symm.trans returnsVoid)]
            exact exists_execute_chained superclass (by simpa using isInstance)
        · cases isChained
    · rw [spelled]
      exact exists_execute_zeroReturn returnType (argumentSlots method)
  case slots =>
    rw [length_argumentSlots, methodBody]
    simp
    omega

/-- The body of a static initialiser is executed and ends by throwing. -/
theorem isExecuted_initializerBody
    (isStatic : method.isStatic = true)
    (noParameters : method.parameters = []) :
    IsExecuted method initializerBody .thrown := by
  constructor
  case executes =>
    have thrown : execute (argumentSlots method) [.reference] [.simple .athrow]
        = .ok { trace := [[.reference]], ending := .thrown } :=
      execute_of_ends rfl
    have called :
        (Instruction.invokeSpecial exceptionName constructorName "(Ljava/lang/String;)V").step
          (argumentSlots method) [.reference, .reference, .reference]
            = .ok (.goesOn [.reference]) := by
      rw [Instruction.step, readMethod?_messageConstructor]
      rfl
    have loaded :
        (Instruction.loadString exceptionMessage).step (argumentSlots method)
          [.reference, .reference] = .ok (.goesOn [.reference, .reference, .reference]) := rfl
    have copied :
        (Instruction.simple .dup).step (argumentSlots method) [.reference]
          = .ok (.goesOn [.reference, .reference]) := rfl
    have created :
        (Instruction.new exceptionName).step (argumentSlots method) []
          = .ok (.goesOn [.reference]) := rfl
    have executed := execute_of_goesOn created <| execute_of_goesOn copied <|
      execute_of_goesOn loaded <| execute_of_goesOn called thrown
    exact ⟨_, executed, by decide, by decide⟩
  case slots =>
    simp [argumentSlots, isStatic, MethodRecord.parameterTypes, noParameters, initializerBody]

/-! The variables of a stub body. -/

/-- The variables for parameters describe the known parameters, in order. -/
theorem forall₂_parameterVariables
    {placed : List PlacedParameter}
    (fits : ∀ other ∈ placed, other.slot.toUInt16.toNat = other.slot)
    (position : Nat) :
    List.Forall₂ (NamedLocal.IsDescribed method)
      (((placed.zipIdx position).filter fun entry => isKnown entry.1).map fun entry =>
        .parameter entry.2 entry.1)
      (parameterVariables position placed) := by
  induction placed generalizing position with
  | nil => exact .nil
  | cons first rest inductionHypothesis =>
      obtain ⟨firstFits, restFits⟩ := List.forall_mem_cons.mp fits
      have restDescribed := inductionHypothesis restFits (position + 1)
      rw [List.zipIdx_cons, parameterVariables, parameterVariable?, List.filter_cons]
      by_cases known : isKnown first = true
      · have notUnknown :
            ¬ (first.parameter.name.isNone = true ∧ first.parameter.signature.isNone = true) := by
          rintro ⟨noName, noSignature⟩
          simp_all [isKnown]
        rw [if_pos known, if_neg notUnknown]
        exact .cons (.parameter firstFits) restDescribed
      · have isUnknown :
            first.parameter.name.isNone = true ∧ first.parameter.signature.isNone = true := by
          simpa [isKnown] using known
        rw [if_neg known, if_pos isUnknown]
        exact restDescribed

/-- The locals that are described stand in slots of the method, in order. -/
theorem slots_namedLocals_sublist (method : MethodRecord) :
    ((namedLocals method).map NamedLocal.slots).Sublist (slotRanges method) := by
  have allParameters :
      (placedParameters method).zipIdx.map (fun entry => entry.1.slots) =
        (placedParameters method).map PlacedParameter.slots := by
    conv_rhs => rw [← List.zipIdx_map_fst 0 (placedParameters method), List.map_map]
    rfl
  have someParameters :
      (((placedParameters method).zipIdx.filter fun entry => isKnown entry.1).map
        fun entry => entry.1.slots).Sublist
          ((placedParameters method).map PlacedParameter.slots) :=
    allParameters ▸ List.filter_sublist.map _
  rw [namedLocals, slotRanges, receiverWidth, List.map_append, List.map_map]
  split
  · exact someParameters.cons []
  · exact someParameters.cons_cons [0]

/-- The receiver and the parameters share no slot. -/
theorem pairwise_disjoint_slotRanges (method : MethodRecord) :
    (slotRanges method).Pairwise List.Disjoint := by
  have distinct : (slotRanges method).flatten.Nodup :=
    flatten_slotRanges method ▸ List.nodup_range
  exact (List.nodup_flatten.mp distinct).2

/-- The variables of a body describe the receiver and the known parameters in slots of their own. -/
theorem describesLocals_methodBody
    (record : ClassRecord)
    (bounded : maxLocals method ≤ 65535) :
    DescribesLocals method (methodBody record method (placedParameters method)) := by
  have sublist := slots_namedLocals_sublist method
  constructor
  case described =>
    have fits : ∀ placed ∈ placedParameters method, placed.slot.toUInt16.toNat = placed.slot := by
      intro placed member
      have below := slot_lt_maxLocals member
      simp
      omega
    have receiver :
        List.Forall₂ (NamedLocal.IsDescribed method)
          (if method.isStatic then [] else [.receiver]) (receiverVariables method) := by
      rw [receiverVariables]
      split
      · exact .nil
      · exact .cons .receiver .nil
    exact List.rel_append receiver (forall₂_parameterVariables fits 0)
  case disjoint => exact (pairwise_disjoint_slotRanges method).sublist sublist
  case inside =>
    intro named member slot isSlot
    have isRange := sublist.subset (List.mem_map_of_mem member)
    have inside := List.mem_flatten.mpr ⟨_, isRange, isSlot⟩
    rw [flatten_slotRanges, List.mem_range] at inside
    simp [methodBody]
    omega

/-- A static initialiser has neither a receiver nor parameters, and no variables. -/
theorem describesLocals_initializerBody
    (isStatic : method.isStatic = true)
    (noParameters : method.parameters = []) :
    DescribesLocals method initializerBody := by
  have nonePlaced : placedParameters method = [] := by
    obtain ⟨recovered, kept, placed⟩ := exists_placedParameters_eq method
    rw [noParameters, List.forall₂_nil_left_iff] at kept
    rw [placed, kept, place]
  have noneNamed : namedLocals method = [] := by
    simp [namedLocals, isStatic, nonePlaced]
  constructor
  case described =>
    rw [noneNamed]
    exact .nil
  case disjoint => simp [noneNamed]
  case inside => simp [noneNamed]

/--
Every stub body is accepted and returns what its method returns, and the body of static initialisers
is accepted for every method without receiver, parameters and result, and throws.
-/
theorem stubBodies_areAccepted :
    (∀ (record : ClassRecord) (method : MethodRecord) (returnType : ReturnType),
      method.returnType = returnType.descriptor →
      maxLocals method ≤ 65535 →
      IsAccepted method (methodBody record method (placedParameters method)) returnType.ending)
    ∧ ∀ method : MethodRecord,
      method.isStatic = true →
      method.parameters = [] →
      method.returnType = ReturnType.void.descriptor →
      IsAccepted method initializerBody .thrown := by
  constructor
  · intro record method returnType spelled bounded
    exact ⟨isExecuted_methodBody record spelled bounded,
      describesLocals_methodBody record bounded⟩
  · intro method isStatic noParameters _
    exact ⟨isExecuted_initializerBody isStatic noParameters,
      describesLocals_initializerBody isStatic noParameters⟩

/-- A class whose constructor calls the constructor of another class. -/
def scaleClass : ClassRecord where
  typeName := "LScale;"
  flags := AccessFlags.publicBit
  superclass := some "LBase;"
  interfaces := []
  sourceFile := none
  annotations := []
  fields := []
  methods := []

/-- A constructor with wide parameters, of which one has a name, one a signature and one neither. -/
def scaleConstructor : MethodRecord where
  definingClass := "LScale;"
  name := constructorName
  flags := AccessFlags.publicBit
  parameters :=
    [{ parameterType := "J", name := some "base", signature := none, annotations := [] },
      { parameterType := "[D", name := none, signature := none, annotations := [] },
      { parameterType := "D", name := none, signature := some "TT;", annotations := [] }]
  returnType := "V"
  annotations := []
  hiddenApi := .empty
  body := some { registerCount := 6, opcodes := [0x0e], locals := [] }

/-- The static initialiser of the class. -/
def scaleInitializer : MethodRecord :=
  { scaleConstructor with
    name := initializerName
    flags := AccessFlags.staticBit
    parameters := [] }

/-- The bodies of a constructor with wide parameters and of a static initialiser are accepted. -/
theorem stubBodies_areAccepted_scale :
    scaleConstructor.returnType = ReturnType.void.descriptor
      ∧ maxLocals scaleConstructor ≤ 65535
      ∧ IsAccepted scaleConstructor
        (methodBody scaleClass scaleConstructor (placedParameters scaleConstructor))
        (.returned none)
      ∧ scaleInitializer.isStatic = true
      ∧ IsAccepted scaleInitializer initializerBody .thrown := by
  have bounded : maxLocals scaleConstructor ≤ 65535 := by decide
  have isStatic : scaleInitializer.isStatic = true := by decide
  obtain ⟨ofMethod, ofInitializer⟩ := stubBodies_areAccepted
  exact ⟨rfl, bounded, ofMethod scaleClass scaleConstructor .void rfl bounded, isStatic,
    ofInitializer scaleInitializer isStatic rfl rfl⟩

end Stub

end DexSurface
