import DexSurface.Bytes.Order
import DexSurface.Dex.Error
import DexSurface.Text.ModifiedUtf8

/-!
# Decoders over an image

A decoder reads the bytes of an image from a position on and moves the position behind what it has
read.  Numbers have their low byte first; variable-length numbers have seven bits a byte, low bits
first, in at most five bytes.
-/

namespace DexSurface

namespace Dex

/-- A computation that reads bytes from a position and may fail. -/
abbrev Decoder := ReaderT ByteArray (StateT Nat (Except Error))

/-- Read an item a number of times. -/
def times [Monad m] (count : Nat) (item : m α) : m (List α) :=
  loop count []
where
  /-- Read the remaining items behind those already read, which are in reverse order. -/
  loop : Nat → List α → m (List α)
    | 0, read => pure read.reverse
    | count + 1, read => do
        let value ← item
        loop count (value :: read)

/-- The items already read come first. -/
theorem times.loop_eq [Monad m] [LawfulMonad m] (item : m α) (count : Nat) (read : List α) :
    times.loop item count read = (read.reverse ++ ·) <$> times count item := by
  unfold times
  induction count generalizing read with
  | zero => simp [times.loop]
  | succ count inductionHypothesis =>
      simp only [times.loop, map_bind]
      congr 1
      funext value
      rw [inductionHypothesis (value :: read), inductionHypothesis [value]]
      simp

/-- Reading no item. -/
@[simp]
theorem times_zero [Monad m] (item : m α) : times 0 item = pure [] :=
  rfl

/-- Reading one item more. -/
theorem times_succ [Monad m] [LawfulMonad m] (count : Nat) (item : m α) :
    times (count + 1) item =
      item >>= fun first => times count item >>= fun rest => pure (first :: rest) := by
  rw [times, times.loop]
  congr 1
  funext first
  rw [times.loop_eq]
  simp

namespace Decoder

/-- The position of the next byte. -/
def position : Decoder Nat :=
  get

/-- The number of bytes that are left. -/
def remaining : Decoder Nat := do
  return (← read).size - (← position)

/-- The next byte. -/
def u8 : Decoder UInt8 := fun bytes position =>
  if inRange : position < bytes.size then
    .ok (bytes[position], position + 1)
  else
    .error (.truncated position 1)

/-- The next bytes. -/
def take (length : Nat) : Decoder (List UInt8) := do
  if length ≤ (← remaining) then
    times length u8
  else
    throw (.truncated (← position) length)

/-- The number in the next `width` bytes. -/
def number (width : Nat) : Decoder Nat :=
  Bytes.ofLittleEndian <$> take width

/-- The number in the next two bytes. -/
def u16 : Decoder Nat :=
  number 2

/-- The number in the next four bytes. -/
def u32 : Decoder Nat :=
  number 4

/-- The largest number of bytes of a variable-length number. -/
def maxLebBytes : Nat := 5

/-- The bytes of a variable-length number: all but the last have their high bit set. -/
def lebBytes (start : Nat) : Nat → Decoder (List UInt8)
  | 0 => throw (.invalidLeb128 start)
  | limit + 1 => do
      let byte ← u8
      if byte &&& 0x80 = 0 then
        return [byte]
      else
        return byte :: (← lebBytes start limit)

/-- The number whose groups of seven bits are the low bits of bytes, low group first. -/
def ofGroups : List UInt8 → Nat
  | [] => 0
  | byte :: rest => (byte &&& 0x7f).toNat + 128 * ofGroups rest

/-- The number of values that as many groups of seven bits can hold. -/
def spanOfGroups : List UInt8 → Nat
  | [] => 1
  | _ :: rest => 128 * spanOfGroups rest

/-- A variable-length number without sign; bits above 32 are dropped. -/
def uleb128 : Decoder Nat := do
  let bytes ← lebBytes (← position) maxLebBytes
  return ofGroups bytes % Bytes.span 4

/-- The sign bit of the last byte of a variable-length number with sign. -/
def isNegative (bytes : List UInt8) : Bool :=
  match bytes.getLast? with
  | some byte => byte &&& 0x40 != 0
  | none => false

/-- A variable-length number with sign; with fewer than 32 bits the last byte holds the sign. -/
def sleb128 : Decoder Int32 := do
  let bytes ← lebBytes (← position) maxLebBytes
  let value : Int := ofGroups bytes
  if bytes.length < maxLebBytes ∧ isNegative bytes then
    return Int32.ofInt (value - spanOfGroups bytes)
  else
    return Int32.ofInt value

/-- An index that is stored plus one, so that zero stands for none. -/
def optionalIndex : Decoder (Option Nat) := do
  match ← uleb128 with
  | 0 => return none
  | index + 1 => return some index

/-- The bytes before the first zero byte among the next bytes, and that byte skipped. -/
def untilZero (start : Nat) : Nat → Decoder (List UInt8)
  | 0 => throw (.invalidString start)
  | limit + 1 => do
      let byte ← u8
      if byte = 0 then
        return []
      else
        return byte :: (← untilZero start limit)

/-- The string that ends at the next zero byte, which is skipped. -/
def mutf8 : Decoder String := do
  let start ← position
  match ModifiedUtf8.decode? (← untilZero start (← remaining)) with
  | some text => return text
  | none => throw (.invalidString start)

/-- Read from another position; the position behind what was read is part of the result. -/
def readAt (other : Nat) (item : Decoder α) : Decoder (α × Nat) := fun bytes position =>
  match item bytes other with
  | .ok result => .ok (result, position)
  | .error error => .error error

/-- Read the bytes from an offset on, which must not lie behind their end. -/
def runAt (item : Decoder α) (bytes : ByteArray) (offset : Nat) : Except Error α :=
  if offset ≤ bytes.size then
    Prod.fst <$> item bytes offset
  else
    .error (.truncated offset 0)

end Decoder

end Dex

end DexSurface
