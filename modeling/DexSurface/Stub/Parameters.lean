import DexSurface.ClassRecord
import DexSurface.Total

/-!
# Parameters of stub methods

Parameters take consecutive local slots behind the receiver.  A missing name is recovered from the
debug information: in a method with a body, the parameters are the last registers, so a parameter
is found at a fixed distance from the end of the registers.  Local starts at one code address form
a group, and the first group that names every nameless parameter names them all.

Slots and distances are numbers without bound here, where a class file and a count of registers have
16 bits.  Both agree for a method whose receiver and parameters take at most 65535 slots together,
and a class file allows no more than 255.
-/

namespace DexSurface

/-- The number of slots of a parameter. -/
def Parameter.width (parameter : Parameter) : Nat :=
  Descriptor.slotWidth parameter.parameterType

namespace Stub

/-- The number of slots of parameters. -/
def totalWidth (parameters : List Parameter) : Nat :=
  total Parameter.width parameters

/-- Parameters with their distance from the end of the registers. -/
def withDistance : List Parameter → List (Parameter × Nat)
  | [] => []
  | parameter :: rest => (parameter, totalWidth (parameter :: rest)) :: withDistance rest

/-- The start of a named local that stands where a parameter is passed and has its type. -/
def startsParameter
    (registerCount : UInt16)
    (parameter : Parameter)
    (distance : Nat)
    (start : LocalStart) : Bool :=
  start.name.isSome
    && start.register.toNat + distance = registerCount.toNat
    && start.localType = some parameter.parameterType

/-- A parameter with the name and signature that a group of local starts gives a nameless one. -/
def nameFrom?
    (registerCount : UInt16)
    (group : List LocalStart)
    (entry : Parameter × Nat) : Option Parameter :=
  if entry.1.name.isSome then
    some entry.1
  else
    (group.find? (startsParameter registerCount entry.1 entry.2)).map fun start =>
      { entry.1 with name := start.name, signature := start.signature }

/-- The code addresses of local starts in ascending order. -/
def startAddresses (locals : List LocalStart) : List UInt32 :=
  ((locals.map LocalStart.address).mergeSort fun first second => first ≤ second).eraseDups

/-- The parameters as the earliest group that names all of them names them. -/
def recoverNames (body : MethodBody) (parameters : List Parameter) : List Parameter :=
  let recovered? := (startAddresses body.locals).findSome? fun address =>
    let group := body.locals.filter fun start => start.address = address
    (withDistance parameters).mapM (nameFrom? body.registerCount group)
  recovered?.getD parameters

/-- A parameter with its local slot. -/
structure PlacedParameter where
  slot : Nat
  parameter : Parameter
  deriving Repr, BEq

/-- Parameters at consecutive slots, counted without bound; up to 65535 slots they fit 16 bits. -/
def place (slot : Nat) : List Parameter → List PlacedParameter
  | [] => []
  | parameter :: rest => ⟨slot, parameter⟩ :: place (slot + parameter.width) rest

/-- The number of slots of the receiver. -/
def receiverWidth (method : MethodRecord) : Nat :=
  if method.isStatic then 0 else 1

/--
The parameters of a method with their slots and, where they can be recovered, their names.  A slot
is the number that a counter of 16 bits gives as long as the parameters take at most 65535 slots.
-/
def placedParameters (method : MethodRecord) : List PlacedParameter :=
  let parameters := match method.body with
    | some body =>
        if method.isAbstract then method.parameters else recoverNames body method.parameters
    | none => method.parameters
  place (receiverWidth method) parameters

/--
The number of slots of the receiver and the parameters.  It is the number that a counter of 16 bits
gives as long as it is at most 65535; beyond that such a counter would fail or start again at zero.
-/
def maxLocals (method : MethodRecord) : Nat :=
  receiverWidth method + totalWidth method.parameters

end Stub

end DexSurface
