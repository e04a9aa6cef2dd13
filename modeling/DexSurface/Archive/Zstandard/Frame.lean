import DexSurface.Archive.Zstandard.ContentHash
import DexSurface.Archive.Zstandard.Sequences

/-!
# Frames

The Zstandard form of data is a row of frames.  A frame has a header, blocks, and perhaps a hash of
its content; other frames only hold data to be skipped.  A block is unpacked as a whole or not.
-/

namespace DexSurface

namespace Zstandard

open Unpacking

/-- The number that starts a frame. -/
def frameMark : Nat := 0xfd2fb528

/-- The first of the sixteen numbers that start frames to be skipped. -/
def skippedMark : Nat := 0x184d2a50

/-- How far copies may reach at most. -/
def maxWindow : Nat := 0x8000001

/-- What the header of a frame states. -/
structure Header where
  hasHash : Bool
  size : Option Nat
  window : Nat

/-- The size of the content of a frame, given how it is told. -/
def contentSize (form : Nat) (isSingle : Bool) : Unpacking (Option Nat) := do
  match form with
  | 0 => if isSingle then some <$> lowBits 8 else return none
  | 1 => (some <| 256 + ·) <$> lowBits 16
  | 2 => some <$> lowBits 32
  | _ => some <$> lowBits 64

/-- How far copies may reach, as a power of two and eighths of it. -/
def statedWindow : Unpacking Nat := do
  let eighths ← lowBits 3
  let base := 1024 <<< (← lowBits 5)
  return base + base / 8 * eighths

/-- Read the header of a frame; there is no dictionary for it. -/
def header : Unpacking Header := do
  let dictionaryForm ← lowBits 2
  let hasHash := (← lowBit) == 1
  require ((← lowBit) = 0)
  let _ ← lowBit
  let isSingle := (← lowBit) == 1
  let sizeForm ← lowBits 2
  let window ← if isSingle then pure 0 else statedWindow
  let dictionary ← lowBits (8 * ((1 <<< dictionaryForm) / 2))
  require (dictionary = 0)
  let size ← contentSize sizeForm isSingle
  let window := if isSingle then size.getD 0 else window
  require (window ≤ maxWindow)
  return { hasHash, size, window }

/-- Unpack the contents of a block of some kind and size. -/
def unpackBlock (start maxSize kind size : Nat) (memory : Memory) : Unpacking Memory := do
  match kind with
  | 0 => do
      emitAll (← bytes size)
      return memory
  | 1 => do
      require (size ≤ maxSize)
      emitAll (Literals.repeated (← lowBits 8).toUInt8 size)
      return memory
  | 2 => do
      let before := (← get).output.size
      let memory ← within (← bytes size) (unpackCoded start memory)
      require ((← get).output.size ≤ before + maxSize)
      return memory
  | _ => refuse

/-- Unpack blocks up to the last one, at most `limit` of them. -/
def unpackBlocks (start maxSize : Nat) (memory : Memory) : (limit : Nat) → Unpacking Unit
  | 0 => refuse
  | limit + 1 => do
      let last ← lowBit
      let kind ← lowBits 2
      let size ← lowBits 21
      require (kind = 1 || size ≤ maxSize)
      let memory ← allOrNone (unpackBlock start maxSize kind size memory)
      if last = 0 then
        unpackBlocks start maxSize memory limit

/-- Unpack a frame behind its mark. -/
def unpackFrame : Unpacking Unit := do
  let start := (← get).output.size
  let header ← header
  unpackBlocks start (min header.window Literals.maxBlockSize) .initial ((← read).size + 1)
  let content := (← get).output.extract start (← get).output.size
  require (header.size.all (· = content.size))
  if header.hasHash then
    require ((← lowBits 32) = (contentHash content).toNat % 0x100000000)

/-- Unpack frames, at most `limit` of them. -/
def unpackFrames : (limit : Nat) → Unpacking Unit
  | 0 => refuse
  | limit + 1 => do
      let mark ← lowBits 32
      if mark = frameMark then
        unpackFrame
      else
        require (mark / 16 = skippedMark / 16)
        let _ ← bytes (← lowBits 32)
      if (← get).position < 8 * (← read).size then
        unpackFrames limit

/-- Unpack all frames. -/
def unpack : Unpacking Unit := do
  unpackFrames ((← read).size + 1)

end Zstandard

end DexSurface
