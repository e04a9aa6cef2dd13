import DexSurface.Dex.Error

/-!
# Instruction streams

Code is a sequence of sixteen-bit units.  An instruction takes as many units as its opcode says.  A
unit whose low byte is zero and whose high byte is not starts a payload, whose header says how long
it is.
-/

namespace DexSurface

namespace Dex

namespace Instructions

/-- An opcode lies in one of some ranges. -/
def inRanges (ranges : List (Nat × Nat)) (opcode : UInt8) : Bool :=
  ranges.any fun (first, last) => first ≤ opcode.toNat && opcode.toNat ≤ last

/-- The opcodes of instructions of one unit. -/
def oneUnit : List (Nat × Nat) :=
  [(0x00, 0x01), (0x04, 0x04), (0x07, 0x07), (0x0a, 0x12), (0x1d, 0x1e), (0x21, 0x21),
    (0x27, 0x28), (0x3e, 0x43), (0x73, 0x73), (0x79, 0x8f), (0xb0, 0xcf), (0xe3, 0xf9)]

/-- The opcodes of instructions of three units. -/
def threeUnits : List (Nat × Nat) :=
  [(0x03, 0x03), (0x06, 0x06), (0x09, 0x09), (0x14, 0x14), (0x17, 0x17), (0x1b, 0x1b),
    (0x24, 0x26), (0x2a, 0x2c), (0x6e, 0x72), (0x74, 0x78), (0xfc, 0xfd)]

/-- The opcodes of instructions of four units. -/
def fourUnits : List (Nat × Nat) :=
  [(0xfa, 0xfb)]

/-- The opcodes of instructions of five units. -/
def fiveUnits : List (Nat × Nat) :=
  [(0x18, 0x18)]

/-- The number of units of an instruction. -/
def width (opcode : UInt8) : Nat :=
  if inRanges oneUnit opcode then 1
  else if inRanges threeUnits opcode then 3
  else if inRanges fourUnits opcode then 4
  else if inRanges fiveUnits opcode then 5
  else 2

/-- The identification of a jump table with consecutive keys. -/
def packedSwitch : UInt16 := 0x0100

/-- The identification of a jump table with listed keys. -/
def sparseSwitch : UInt16 := 0x0200

/-- The identification of the elements of an array. -/
def arrayData : UInt16 := 0x0300

/-- The number of units of a payload at an address, from its identification and what follows. -/
def payloadWidth (address : Nat) (identification : UInt16) (rest : List UInt16) :
    Except Error Nat :=
  if identification = packedSwitch then
    match rest with
    | size :: _ => .ok (4 + size.toNat * 2)
    | [] => .error (.truncatedPayload address)
  else if identification = sparseSwitch then
    match rest with
    | size :: _ => .ok (2 + size.toNat * 4)
    | [] => .error (.truncatedPayload address)
  else if identification = arrayData then
    match rest with
    | elementWidth :: low :: high :: _ =>
        .ok (4 + ((low.toNat + 0x10000 * high.toNat) * elementWidth.toNat + 1) / 2)
    | _ => .error (.truncatedPayload address)
  else
    .error (.unknownPayload identification address)

/-- The low byte of a unit. -/
def opcodeOf (unit : UInt16) : UInt8 :=
  unit.toUInt8

/-- The opcode at the start of units, none for a payload, and the number of units to step over. -/
def step (address : Nat) (unit : UInt16) (rest : List UInt16) :
    Except Error (Option UInt8 × Nat) :=
  let opcode := opcodeOf unit
  if opcode = 0 ∧ unit ≠ 0 then
    return (none, ← payloadWidth address unit rest)
  else
    return (some opcode, width opcode)

/-- The opcodes of the instructions of code that starts at an address. -/
def scanFrom (address : Nat) (units : List UInt16) : Except Error (List UInt8) :=
  match units with
  | [] => .ok []
  | unit :: rest => do
      let (opcode?, width) ← step address unit rest
      let following := rest.drop (width - 1)
      if following.isEmpty ∧ rest.length + 1 < width then
        throw (.codeOverrun (width - (rest.length + 1)))
      else
        return opcode?.toList ++ (← scanFrom (address + width) following)
termination_by units.length
decreasing_by
  simp only [List.length_drop, List.length_cons]
  omega

/-- The opcodes of the instructions of code, payloads left out. -/
def opcodes (units : List UInt16) : Except Error (List UInt8) :=
  scanFrom 0 units

end Instructions

end Dex

end DexSurface
