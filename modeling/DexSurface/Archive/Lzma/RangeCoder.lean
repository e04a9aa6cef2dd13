import DexSurface.Archive.Content

/-!
# Range coding

A range coder reads bits with unequal chances from less than a bit each.  Every bit has a context,
and every context keeps the chance that its next bit is zero, which follows the bits that came.
-/

namespace DexSurface

namespace Lzma

/-- How the positions of bytes and the bytes before them choose contexts. -/
structure Settings where
  /-- The number of high bits of the byte before a byte that choose its contexts. -/
  previousBits : Nat
  /-- The number of low bits of the position of a byte that choose its contexts. -/
  literalPlaceBits : Nat
  /-- The number of low bits of the position that choose other contexts. -/
  placeBits : Nat

/-- The distances of the latest copies, the latest one first. -/
structure Distances where
  first : Nat
  second : Nat
  third : Nat
  fourth : Nat

/-- Where decoding stands. -/
structure State where
  settings : Settings
  /-- The next byte. -/
  position : Nat
  range : UInt32
  code : UInt32
  /-- The chances of zero bits by their contexts. -/
  chances : Array UInt32
  /-- What the latest steps were. -/
  phase : Nat
  distances : Distances
  /-- How much of the output is too old for copies. -/
  start : Nat
  output : ByteArray

/-- A computation that decodes data and may refuse them. -/
abbrev Decoding := ReaderT ByteArray (EStateM ContentError State)

/-- Refuse the data. -/
def refuse : Decoding α :=
  throw .corrupt

/-- Refuse the data unless something holds. -/
def require (holds : Bool) : Decoding Unit :=
  if holds then return () else refuse

/-- The next byte. -/
def byte : Decoding UInt8 := do
  match (← read)[(← get).position]? with
  | none => throw .truncated
  | some byte => do
      modify fun state => { state with position := state.position + 1 }
      return byte

/-- The number in the next bytes, high byte first, behind a number. -/
def bytesBehind (number : Nat) : (count : Nat) → Decoding Nat
  | 0 => return number
  | count + 1 => do
      bytesBehind (256 * number + (← byte).toNat) count

/-- The number in the next bytes, high byte first. -/
def bytes (count : Nat) : Decoding Nat :=
  bytesBehind 0 count

/-- Start reading bits; the first byte is zero. -/
def startBits : Decoding Unit := do
  require ((← byte) = 0)
  let code := (← bytes 4).toUInt32
  modify fun state => { state with range := 0xffffffff, code }

/-- Take in a byte if the range is small. -/
def normalize : Decoding Unit := do
  if (← get).range < 0x1000000 then
    let next ← byte
    modify fun state => { state with
      range := state.range <<< 8
      code := (state.code <<< 8) ||| next.toUInt32 }

/-- The chance of a context before its first bit. -/
def evenChance : UInt32 := 1024

/-- The next bit of a context. -/
def bit (context : Nat) : Decoding Nat := do
  normalize
  let state ← get
  let chance := state.chances[context]?.getD evenChance
  let bound := (state.range >>> 11) * chance
  if state.code < bound then
    modify fun state => { state with
      range := bound
      chances := state.chances.setIfInBounds context (chance + ((2048 - chance) >>> 5)) }
    return 0
  else
    modify fun state => { state with
      range := state.range - bound
      code := state.code - bound
      chances := state.chances.setIfInBounds context (chance - (chance >>> 5)) }
    return 1

/-- The next bit, whose chances are even and stay so. -/
def evenBit : Decoding Nat := do
  normalize
  let state ← get
  let half := state.range >>> 1
  if state.code < half then
    set { state with range := half }
    return 0
  else
    set { state with range := half, code := state.code - half }
    return 1

/-- A number behind which even bits stand, high bit first. -/
def evenBitsBehind (number : Nat) : (count : Nat) → Decoding Nat
  | 0 => return number
  | count + 1 => do
      evenBitsBehind (2 * number + (← evenBit)) count

/--
A number behind which the next bits stand, high bit first; each one has the context of the number so
far.
-/
def treeBehind (context number : Nat) : (count : Nat) → Decoding Nat
  | 0 => return number
  | count + 1 => do
      treeBehind context (2 * number + (← bit (context + number))) count

/-- The number in a number of bits, high bit first; each one has the context of those before it. -/
def tree (context count : Nat) : Decoding Nat := do
  return (← treeBehind context 1 count) - 1 <<< count

/-- The number in the next bits, low bit first; each one has the context of those before it. -/
def reverseTree (context before : Nat) : (count : Nat) → Decoding Nat
  | 0 => return 0
  | count + 1 => do
      let low ← bit (context + before)
      return low + 2 * (← reverseTree context (2 * before + low) count)

end Lzma

end DexSurface
