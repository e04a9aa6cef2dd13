import DexSurface.ClassRecord
import DexSurface.Dex.Image

/-!
# Debug information

A stream of debug events runs a machine whose state is a code address.  What matters for parameter
names is kept: the declared names and the local variables with the addresses at which they start.
-/

namespace DexSurface

namespace Dex

/-- The declared parameter names and the local starts of a method. -/
structure DebugInfo where
  parameterNames : List (Option String)
  locals : List LocalStart
  deriving Repr, DecidableEq

/-- A method without debug information. -/
def DebugInfo.empty : DebugInfo where
  parameterNames := []
  locals := []

/-- A counter advanced by some amount, if it still fits 32 bits. -/
def advance (counter amount : Nat) : Except Error Nat :=
  if counter + amount < Bytes.span 4 then
    .ok (counter + amount)
  else
    .error .counterOverflow

namespace Image

/-- The operands of a local start at an address; only the extended form has a signature. -/
def localStart (image : Image) (address : Nat) (extended : Bool) : Decoder LocalStart := do
  let register ← Decoder.uleb128
  if Bytes.span 2 ≤ register then
    throw (.registerOutOfRange register)
  let name ← image.optionalString (← Decoder.optionalIndex)
  let localType ← image.optionalType (← Decoder.optionalIndex)
  let signature ←
    if extended then
      image.optionalString (← Decoder.optionalIndex)
    else
      pure none
  return {
    address := address.toUInt32
    register := register.toUInt16
    name
    localType
    signature
  }

/-- The address advance of a special opcode, which also advances the line. -/
def specialAdvance (opcode : UInt8) : Nat :=
  (opcode.toNat - 0x0a) / 15

/-- The local starts of the events up to the end mark, with at most `limit` bytes left. -/
def localStarts (image : Image) (address : Nat) : (limit : Nat) → Decoder (List LocalStart)
  | 0 => do throw (.truncated (← Decoder.position) 1)
  | limit + 1 => do
      let opcode ← Decoder.u8
      match opcode with
      | 0x00 => return []
      | 0x01 => do
          let address ← advance address (← Decoder.uleb128)
          image.localStarts address limit
      | 0x02 => do
          let _ ← Decoder.sleb128
          image.localStarts address limit
      | 0x03 => do
          let start ← image.localStart address false
          return start :: (← image.localStarts address limit)
      | 0x04 => do
          let start ← image.localStart address true
          return start :: (← image.localStarts address limit)
      | 0x05 | 0x06 | 0x09 => do
          let _ ← Decoder.uleb128
          image.localStarts address limit
      | 0x07 | 0x08 => image.localStarts address limit
      | special => do
          let address ← advance address (specialAdvance special)
          image.localStarts address limit

/-- The debug information at an offset; offset zero stands for none. -/
def debugInfo (image : Image) (offset : Nat) : Except Error DebugInfo :=
  if offset = 0 then
    .ok .empty
  else
    image.readAt offset do
      let _ ← Decoder.uleb128
      let count ← Decoder.uleb128
      let parameterNames ← times count (do image.optionalString (← Decoder.optionalIndex))
      let locals ← image.localStarts 0 (← Decoder.remaining)
      return { parameterNames, locals }

end Image

end Dex

end DexSurface
