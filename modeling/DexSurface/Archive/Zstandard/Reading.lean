import DexSurface.Archive.Unpacking

/-!
# Data inside data

Packed data hold further data.  Some of these are read backward: the highest one bit of the last
byte only marks where they end, and the bits below it come first.
-/

namespace DexSurface

namespace Zstandard

open Unpacking

/-- The next whole bytes. -/
def bytes (count : Nat) : Unpacking ByteArray := do
  alignToByte
  let start := (← get).position / 8
  require (start + count ≤ (← read).size)
  modify fun progress => { progress with position := 8 * (start + count) }
  return (← read).extract start (start + count)

/-- All bytes that are left. -/
def remainingBytes : Unpacking ByteArray := do
  alignToByte
  bytes ((← read).size - (← get).position / 8)

/-- Read data of their own from their first bit. -/
def within (data : ByteArray) (inner : Unpacking α) : Unpacking α := do
  let position := (← get).position
  modify fun progress => { progress with position := 0 }
  let result ← inner.adapt fun _ => data
  modify fun progress => { progress with position }
  return result

/-- The bit before the position, which goes back. -/
def backBit : Unpacking Nat := do
  match (← get).position with
  | 0 => throw .truncated
  | position + 1 =>
      match (← read)[position / 8]? with
      | none => refuse
      | some byte => do
          modify fun progress => { progress with position }
          return byte.toNat >>> (position % 8) % 2

/-- The number in the bits before the position, high bit first. -/
def backBits (count : Nat) : Unpacking Nat :=
  bitsBehind backBit 0 count

/-- Nothing is left before the position. -/
def atStart : Unpacking Unit := do
  require ((← get).position = 0)

/-- Read data of their own backward. -/
def backward (data : ByteArray) (inner : Unpacking α) : Unpacking α :=
  within data do
    match data[data.size - 1]? with
    | none => refuse
    | some last => do
        require (last != 0)
        modify fun progress => { progress with
          position := 8 * (data.size - 1) + last.toNat.log2 }
        inner

/-- Unpack all of some data or none. -/
def allOrNone (inner : Unpacking α) : Unpacking α := do
  let output := (← get).output
  try
    inner
  catch error =>
    modify fun progress => { progress with output }
    throw error

end Zstandard

end DexSurface
