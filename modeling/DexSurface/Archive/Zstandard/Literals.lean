import DexSurface.Archive.SymbolCode
import DexSurface.Archive.Zstandard.StateCode
import DexSurface.Total

/-!
# Literals

A block starts with bytes that its copies are set between.  They stand as they are, as one byte
that is repeated, or in symbols of variable length.  The code for these is told by weights: one
more is twice as frequent.
-/

namespace DexSurface

namespace Zstandard

open Unpacking

/-- A code for bytes below a number; its zeros and ones and the order of its bytes are reversed. -/
structure LiteralCode where
  count : Nat
  reversed : SymbolCode

namespace LiteralCode

/-- The largest number of bits of a byte. -/
def maxLength : Nat := 12

/-- The number of bytes. -/
def maxCount : Nat := 256

/-- How frequent a byte of some weight is. -/
def frequency (weight : Nat) : Nat :=
  (1 <<< weight) / 2

/-- The number of bits of a byte of some weight; no weight stands for no code. -/
def length (longest weight : Nat) : Nat :=
  if weight = 0 then 0 else longest + 1 - weight

/-- The code with given weights; the last byte has what is left. -/
def ofWeights (weights : List Nat) : Unpacking LiteralCode := do
  let sum := total frequency weights
  require (sum != 0)
  let longest := sum.log2 + 1
  require (longest ≤ maxLength)
  let left := (1 <<< longest) - sum
  require (left = 1 <<< left.log2)
  let weights := weights ++ [left.log2 + 1]
  require (weights.length ≤ maxCount && 2 ≤ weights.count 1)
  return {
    count := weights.length
    reversed := .ofLengths (weights.map (length longest)).reverse
  }

/-- Weights of four bits each. -/
def plainWeights (count : Nat) : Unpacking (List Nat) := do
  let weights ← (List.range count).mapM fun _ => highBits 4
  alignToByte
  return weights

/--
Weights of two states that take turns, the first of which is next, up to the state for which there
are too few bits; there are at most `limit` of them.
-/
def turnedWeights (code : StateCode) (first second : Cell) : (limit : Nat) → Unpacking (List Nat)
  | 0 => refuse
  | limit + 1 => do
      if (← get).position < first.bits then
        return [first.symbol, second.symbol]
      else
        let next ← code.next first
        return first.symbol :: (← turnedWeights code second next limit)

/-- The largest number of bits of the first state of weights. -/
def maxWeightAccuracy : Nat := 6

/-- Weights in the form of states. -/
def codedWeights : Unpacking (List Nat) := do
  let code ← StateCode.stated maxWeightAccuracy maxCount
  backward (← remainingBytes) do
    let first ← code.start
    turnedWeights code first (← code.start) maxCount

/-- Read a code for bytes. -/
def stated : Unpacking LiteralCode := do
  let size ← lowBits 8
  if 128 ≤ size then
    ofWeights (← plainWeights (size - 127))
  else
    ofWeights (← within (← bytes size) codedWeights)

/-- The next byte, read backward. -/
def byte (code : LiteralCode) : Unpacking UInt8 := do
  let place ← code.reversed.read ((1 - ·) <$> backBit)
  return (code.count - 1 - place).toUInt8

/-- Bytes behind others. -/
def bytesBehind (code : LiteralCode) (done : ByteArray) : (count : Nat) → Unpacking ByteArray
  | 0 => return done
  | count + 1 => do
      bytesBehind code (done.push (← code.byte)) count

/-- A number of bytes behind others, for which data hold just enough bits. -/
def stream (code : LiteralCode) (done data : ByteArray) (count : Nat) : Unpacking ByteArray :=
  backward data do
    let bytes ← bytesBehind code done count
    atStart
    return bytes

/-- The least number of bytes in four parts. -/
def minStreamed : Nat := 6

/-- A number of bytes in four parts, all but the last of the same size. -/
def streams (code : LiteralCode) (count : Nat) : Unpacking ByteArray := do
  require (minStreamed ≤ count)
  let part := (count + 3) / 4
  let first ← lowBits 16
  let second ← lowBits 16
  let third ← lowBits 16
  let done ← stream code .empty (← bytes first) part
  let done ← stream code done (← bytes second) part
  let done ← stream code done (← bytes third) part
  stream code done (← remainingBytes) (count - 3 * part)

end LiteralCode

/-- The literals of a block, and the code that later blocks may use again. -/
structure Literals where
  bytes : ByteArray
  code : Option LiteralCode

namespace Literals

/-- The largest number of bytes of a block. -/
def maxBlockSize : Nat := 131072

/-- The number of literals that stand as they are or are repeated. -/
def count : Unpacking Nat := do
  if (← lowBit) = 0 then
    lowBits 5
  else if (← lowBit) = 0 then
    lowBits 12
  else
    lowBits 20

/-- A byte a number of times. -/
def repeated (byte : UInt8) (count : Nat) : ByteArray :=
  ⟨Array.replicate count byte⟩

/-- Read literals in symbols, given the code for them or none if it comes first. -/
def coded (code : Option LiteralCode) : Unpacking Literals := do
  let form ← lowBits 2
  let width := if form < 2 then 10 else 4 * form + 6
  let count ← lowBits width
  let size ← lowBits width
  require (count ≤ maxBlockSize)
  within (← Zstandard.bytes size) do
    let code ← match code with
      | some code => pure code
      | none => LiteralCode.stated
    let bytes ←
      if form = 0 then
        code.stream .empty (← remainingBytes) count
      else
        code.streams count
    return { bytes, code }

/-- Read literals, given the code of an earlier block. -/
def stated (code : Option LiteralCode) : Unpacking Literals := do
  match ← lowBits 2 with
  | 0 => return { bytes := ← Zstandard.bytes (← count), code }
  | 1 => do
      let count ← count
      require (count ≤ maxBlockSize)
      return { bytes := repeated (← lowBits 8).toUInt8 count, code }
  | 2 => coded none
  | _ => do
      require code.isSome
      coded code

end Literals

end Zstandard

end DexSurface
