import DexSurface.ClassFile.Tree
import DexSurface.Proofs.Descriptor.FieldTypes

namespace DexSurface

namespace ClassFile

/-!
# Operand stacks

A body is executed on kinds of values instead of values.  Instructions take operands of certain
kinds from the stack and leave others, and the execution faults where a machine would not accept the
body: an operand is missing or of another kind, a local slot does not exist, or the code does not
end where its last instruction does.
-/

/-- The kinds of values that a machine computes with; small integers are computed as `int`. -/
inductive StackKind where
  | int
  | long
  | float
  | double
  | reference
  deriving Repr, DecidableEq

namespace StackKind

/-- The number of slots of a value, on the stack and among the locals. -/
def size : StackKind → Nat
  | long => 2
  | double => 2
  | _ => 1

/-- The kind of the values of a field type. -/
def ofField : FieldType → StackKind
  | .primitive .long => long
  | .primitive .float => float
  | .primitive .double => double
  | .primitive _ => int
  | .object _ _ => reference
  | .array _ => reference

/-- The kind of the values of a descriptor; what does not start with a field type is a reference. -/
def ofDescriptor (descriptor : TypeDescriptor) : StackKind :=
  match FieldType.read? descriptor.toList with
  | some (type, _) => ofField type
  | none => reference

/-- A value takes as many slots as its descriptor says. -/
theorem size_ofDescriptor (descriptor : TypeDescriptor) :
    (ofDescriptor descriptor).size = Descriptor.slotWidth descriptor := by
  rw [ofDescriptor, Descriptor.slotWidth]
  generalize descriptor.toList = text
  fun_cases FieldType.read? text with
  | case1 text => cases FieldType.read? text <;> rfl
  | case2 => rfl
  | case3 => rfl
  | case4 => rfl
  | case5 letter text notArray notObject =>
      fun_cases PrimitiveType.ofLetter? letter
      case case9 => split <;> simp_all [size]
      all_goals rfl
  | case6 => rfl

end StackKind

/-- An operand stack, its top first. -/
abbrev OperandStack := List StackKind

/-- The number of slots that are taken. -/
def OperandStack.depth (stack : OperandStack) : Nat :=
  total StackKind.size stack

/-- The local slots of a frame; the second slot of a wide value shows no kind. -/
abbrev LocalSlots := List (Option StackKind)

/-- The slots of a value that is passed to a method. -/
def StackKind.slots (kind : StackKind) : LocalSlots :=
  some kind :: List.replicate (kind.size - 1) none

/-- Why a body cannot be executed. -/
inductive Fault where
  /-- An operand is taken from an empty stack. -/
  | underflow
  /-- An operand or a local is of another kind than the instruction takes. -/
  | wrongKind
  /-- A local slot is read that the frame does not have. -/
  | missingLocal
  /-- A method is called by something that is not the descriptor of a method. -/
  | badDescriptor
  /-- The code ends without a return or a throw. -/
  | missingEnd
  /-- There is code behind a return or a throw. -/
  | unreachable
  deriving Repr, DecidableEq

/-- How a body ends: it returns a value of a kind, or nothing, or it throws. -/
inductive Ending where
  | returned (result : Option StackKind)
  | thrown
  deriving Repr, DecidableEq

/-- What an instruction leaves. -/
inductive Progress where
  | goesOn (stack : OperandStack)
  | ends (ending : Ending)
  deriving Repr, DecidableEq

namespace OperandStack

/-- The stack without its top, which must be of a kind. -/
def pop (kind : StackKind) : OperandStack → Except Fault OperandStack
  | [] => .error .underflow
  | top :: rest => if top = kind then .ok rest else .error .wrongKind

/-- The stack without arguments, of which the last is on top. -/
def popArguments (types : List FieldType) (stack : OperandStack) : Except Fault OperandStack :=
  (types.map StackKind.ofField).reverse.foldlM (fun stack kind => stack.pop kind) stack

/-- The stack with the result of a call. -/
def pushResult (returnType : TypeDescriptor) (stack : OperandStack) : Except Fault OperandStack :=
  if returnType = Descriptor.void then
    .ok stack
  else
    match FieldType.read? returnType.toList with
    | some (type, []) => .ok (.ofField type :: stack)
    | _ => .error .badDescriptor

/-- The end of a body that returns the top of the stack. -/
def returns (kind : StackKind) (stack : OperandStack) : Except Fault Progress := do
  let _ ← stack.pop kind
  return .ends (.returned (some kind))

end OperandStack

/-- What an instruction without operands does to a stack. -/
def SimpleInstruction.step (locals : LocalSlots) (stack : OperandStack) :
    SimpleInstruction → Except Fault Progress
  | nop => .ok (.goesOn stack)
  | pushNull => .ok (.goesOn (.reference :: stack))
  | pushInt => .ok (.goesOn (.int :: stack))
  | pushLong => .ok (.goesOn (.long :: stack))
  | pushFloat => .ok (.goesOn (.float :: stack))
  | pushDouble => .ok (.goesOn (.double :: stack))
  | loadThis =>
      match locals with
      | [] => .error .missingLocal
      | first :: _ =>
          if first = some .reference then
            .ok (.goesOn (.reference :: stack))
          else
            .error .wrongKind
  | dup =>
      match stack with
      | [] => .error .underflow
      | top :: _ => if top.size = 1 then .ok (.goesOn (top :: stack)) else .error .wrongKind
  | athrow => do
      let _ ← stack.pop .reference
      return .ends .thrown
  | returnInt => stack.returns .int
  | returnLong => stack.returns .long
  | returnFloat => stack.returns .float
  | returnDouble => stack.returns .double
  | returnReference => stack.returns .reference
  | returnVoid => .ok (.ends (.returned none))

/-- What an instruction does to a stack. -/
def Instruction.step (locals : LocalSlots) (stack : OperandStack) :
    Instruction → Except Fault Progress
  | simple instruction => instruction.step locals stack
  | new _ => .ok (.goesOn (.reference :: stack))
  | loadString _ => .ok (.goesOn (.reference :: stack))
  | invokeSpecial _ _ descriptor =>
      match FieldType.readMethod? descriptor with
      | none => .error .badDescriptor
      | some (types, returnType) => do
          let behindArguments ← stack.popArguments types
          let behindReceiver ← behindArguments.pop .reference
          return .goesOn (← behindReceiver.pushResult returnType)

/-- The stacks in front of the instructions of a body, and how the body ends. -/
structure Execution where
  trace : List OperandStack
  ending : Ending
  deriving Repr, DecidableEq

/-- Execute instructions on a stack; the last one, and no other, ends the body. -/
def execute (locals : LocalSlots) (stack : OperandStack) :
    List Instruction → Except Fault Execution
  | [] => .error .missingEnd
  | instruction :: rest => do
      match ← instruction.step locals stack with
      | .ends ending =>
          if rest.isEmpty then
            return { trace := [stack], ending }
          else
            throw .unreachable
      | .goesOn next => do
          let execution ← execute locals next rest
          return { execution with trace := stack :: execution.trace }

variable
  {locals : LocalSlots}
  {stack next : OperandStack}
  {instruction : Instruction}
  {rest : List Instruction}
  {execution : Execution}
  {ending : Ending}

/-- An instruction that ends the body may stand last. -/
theorem execute_of_ends (stepped : instruction.step locals stack = .ok (.ends ending)) :
    execute locals stack [instruction] = .ok { trace := [stack], ending } := by
  rw [execute, stepped]
  rfl

/-- An instruction that goes on records its stack in front of the rest of the execution. -/
theorem execute_of_goesOn
    (stepped : instruction.step locals stack = .ok (.goesOn next))
    (executed : execute locals next rest = .ok execution) :
    execute locals stack (instruction :: rest) =
      .ok { execution with trace := stack :: execution.trace } := by
  rw [execute, stepped]
  change (do
    let execution ← execute locals next rest
    return { execution with trace := stack :: execution.trace }) = _
  rw [executed]
  rfl

end ClassFile

end DexSurface
