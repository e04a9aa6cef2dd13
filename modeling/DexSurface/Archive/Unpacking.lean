import DexSurface.Archive.Content

/-!
# Unpacking

Packed data are read bit by bit.  What has been unpacked before a failure is kept.
-/

namespace DexSurface

/-- Where unpacking stands: the next bit, and the bytes unpacked so far. -/
structure Progress where
  position : Nat
  output : ByteArray

/-- A computation that reads packed data and may refuse them. -/
abbrev Unpacking := ReaderT ByteArray (EStateM ContentError Progress)

namespace Unpacking

/-- Refuse the data. -/
def refuse : Unpacking α :=
  throw .corrupt

/-- Refuse the data unless something holds. -/
def require (holds : Bool) : Unpacking Unit :=
  if holds then return () else refuse

/-- The next bit, given how far the bits of a byte stand from its low end. -/
def bitAt (shift : Nat → Nat) : Unpacking Nat := do
  let progress ← get
  match (← read)[progress.position / 8]? with
  | none => throw .truncated
  | some byte => do
      set { progress with position := progress.position + 1 }
      return byte.toNat >>> shift (progress.position % 8) % 2

/-- The next bit of bytes whose low bits come first. -/
def lowBit : Unpacking Nat :=
  bitAt id

/-- The next bit of bytes whose high bits come first. -/
def highBit : Unpacking Nat :=
  bitAt (7 - ·)

/-- The number in the next bits, low bit first. -/
def lowBits : Nat → Unpacking Nat
  | 0 => return 0
  | count + 1 => do
      let low ← lowBit
      return low + 2 * (← lowBits count)

/-- A number behind which the next bits stand, high bit first, given how bits are read. -/
def bitsBehind (bit : Unpacking Nat) (number : Nat) : (count : Nat) → Unpacking Nat
  | 0 => return number
  | count + 1 => do
      bitsBehind bit (2 * number + (← bit)) count

/-- The number in the next bits, high bit first. -/
def highBits (count : Nat) : Unpacking Nat :=
  bitsBehind highBit 0 count

/-- Go on at the next whole byte. -/
def alignToByte : Unpacking Unit :=
  modify fun progress => { progress with position := (progress.position + 7) / 8 * 8 }

/-- Unpack a byte. -/
def emit (byte : UInt8) : Unpacking Unit :=
  modify fun progress => { progress with output := progress.output.push byte }

/-- Unpack a byte from some distance back. -/
def copyByte (distance : Nat) : Unpacking Unit := do
  let output := (← get).output
  if distance = 0 ∨ output.size < distance then
    refuse
  else
    match output[output.size - distance]? with
    | some byte => emit byte
    | none => refuse

/-- Unpack bytes from some distance back, one after the other. -/
def copy (distance : Nat) : (length : Nat) → Unpacking Unit
  | 0 => return ()
  | length + 1 => do
      copyByte distance
      copy distance length

/-- The content that packed data stand for; what follows them does not count. -/
def content (unpack : Unpacking Unit) (bytes : ByteArray) : Content :=
  match unpack bytes { position := 0, output := .empty } with
  | .ok _ progress => { bytes := progress.output, failure := none }
  | .error error progress => { bytes := progress.output, failure := some error }

end Unpacking

end DexSurface
