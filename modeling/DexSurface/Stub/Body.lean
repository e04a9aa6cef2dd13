import DexSurface.ClassFile.Tree
import DexSurface.Stub.Parameters

/-!
# Bodies of stub methods

A stub method returns the zero of its return type.  A constructor calls the constructor of its
superclass, and a static initialiser throws.
-/

namespace DexSurface

namespace Stub

open ClassFile (Instruction SimpleInstruction LocalVariable Body)

/-- The instructions that return the zero of a type, and the stack that they need. -/
def zeroReturn (returnType : TypeDescriptor) : List SimpleInstruction × UInt16 :=
  match returnType.toList with
  | 'Z' :: _ | 'B' :: _ | 'S' :: _ | 'C' :: _ | 'I' :: _ => ([.pushInt, .returnInt], 1)
  | 'F' :: _ => ([.pushFloat, .returnFloat], 1)
  | 'J' :: _ => ([.pushLong, .returnLong], 2)
  | 'D' :: _ => ([.pushDouble, .returnDouble], 2)
  | 'V' :: _ => ([.returnVoid], 0)
  | _ => ([.pushNull, .returnReference], 1)

/-- The name of instance constructors. -/
def constructorName : String := "<init>"

/-- The name of static initialisers. -/
def initializerName : String := "<clinit>"

/-- The superclass whose constructor a method calls, if the method is a constructor. -/
def chainedSuperclass? (record : ClassRecord) (method : MethodRecord) : Option InternalName :=
  if method.name = constructorName
      ∧ !method.isStatic
      ∧ method.returnType = Descriptor.void
      ∧ method.definingClass ≠ Descriptor.object then
    record.superclass.map Descriptor.internalName
  else
    none

/-- The instructions of a stub method, and the stack that they need. -/
def instructions (record : ClassRecord) (method : MethodRecord) : List Instruction × UInt16 :=
  match chainedSuperclass? record method with
  | some superclass =>
      ([.simple .loadThis, .invokeSpecial superclass constructorName "()V", .simple .returnVoid], 1)
  | none =>
      let (simple, maxStack) := zeroReturn method.returnType
      (simple.map .simple, maxStack)

/-- The variable of the receiver. -/
def receiverVariables (method : MethodRecord) : List LocalVariable :=
  if method.isStatic then
    []
  else
    [{ name := "this", descriptor := method.definingClass, signature := none, slot := 0 }]

/--
The variable of the parameter at a position, if its name or its signature is known; without a name
it is named by its position.
-/
def parameterVariable? (position : Nat) (placed : PlacedParameter) : Option LocalVariable :=
  if placed.parameter.name.isNone ∧ placed.parameter.signature.isNone then
    none
  else
    some {
      name := placed.parameter.name.getD ("p" ++ Nat.repr position)
      descriptor := placed.parameter.parameterType
      signature := placed.parameter.signature
      slot := placed.slot.toUInt16
    }

/-- The variables of parameters from a position on. -/
def parameterVariables (position : Nat) : List PlacedParameter → List LocalVariable
  | [] => []
  | placed :: rest =>
      (parameterVariable? position placed).toList ++ parameterVariables (position + 1) rest

/--
The body of a stub method with its parameters.  Its number of slots is stored in 16 bits, which is
exact for methods that take at most 65535 slots.
-/
def methodBody
    (record : ClassRecord)
    (method : MethodRecord)
    (parameters : List PlacedParameter) : Body :=
  let (instructions, maxStack) := instructions record method
  {
    maxStack
    maxLocals := (maxLocals method).toUInt16
    instructions
    localVariables := receiverVariables method ++ parameterVariables 0 parameters
  }

/-- The class of the exception that a static initialiser throws. -/
def exceptionName : InternalName := "java/lang/RuntimeException"

/-- The message of the exception that a static initialiser throws. -/
def exceptionMessage : String := "Stub!"

/-- The body of a static initialiser. -/
def initializerBody : Body where
  maxStack := 3
  maxLocals := 0
  instructions := [
    .new exceptionName,
    .simple .dup,
    .loadString exceptionMessage,
    .invokeSpecial exceptionName constructorName "(Ljava/lang/String;)V",
    .simple .athrow
  ]
  localVariables := []

end Stub

end DexSurface
