import DexSurface.Archive.Lzma.Decoder

/-!
# Streams of chunks

The xz form of data is a stream with a header, blocks and an index.  A block is a row of chunks,
each of which holds bytes as they are or steps of a decoder that may go on from an earlier chunk.
-/

namespace DexSurface

namespace Lzma

/-- How much of the decoder a chunk needs from the chunks before it. -/
structure Readiness where
  /-- Copies have a place to start from. -/
  hasStart : Bool
  /-- There are settings. -/
  hasSettings : Bool

/-- Add bytes as they are. -/
def plainBytes : (count : Nat) → Decoding Unit
  | 0 => return ()
  | count + 1 => do
      emit (← byte)
      plainBytes count

/-- Copies reach no output up to here. -/
def startOver : Decoding Unit :=
  modify fun state => { state with start := state.output.size }

/-- The largest number of bits that choose the contexts of bytes. -/
def maxLiteralBits : Nat := 4

/--
Prepare the decoder for a chunk of steps as its kind asks: three kinds forget what came before, two
of them read settings, and one starts over.
-/
def prepare (kind : Nat) : Decoding Unit := do
  if 3 ≤ kind then
    startOver
  if 2 ≤ kind then
    readSettings
    let settings := (← get).settings
    require (settings.previousBits + settings.literalPlaceBits ≤ maxLiteralBits)
  if 1 ≤ kind then
    forget

/-- Decode a chunk of steps, given the number that it starts with. -/
def steppedChunk (control : Nat) : Decoding Unit := do
  let count := control % 32 * 65536 + (← bytes 2) + 1
  let size := (← bytes 2) + 1
  prepare (control / 32 % 4)
  let start := (← get).position
  startBits
  decode count
  let state ← get
  require (state.position = start + size && state.code = 0)

/-- Decode the chunks of a block, at most `limit` of them. -/
def chunks (readiness : Readiness) : (limit : Nat) → Decoding Unit
  | 0 => refuse
  | limit + 1 => do
      let control := (← byte).toNat
      if control = 0 then
        return ()
      else if 128 ≤ control then
        let kind := control / 32 % 4
        require (readiness.hasStart || 3 ≤ kind)
        require (readiness.hasSettings || 2 ≤ kind)
        steppedChunk control
        chunks ⟨true, true⟩ limit
      else
        require (control ≤ 2)
        require (readiness.hasStart || control = 1)
        if control = 1 then
          startOver
        plainBytes ((← bytes 2) + 1)
        chunks ⟨true, readiness.hasSettings && control = 2⟩ limit

/-- The number in the next bytes, seven bits each, low bits first, at most `limit` bytes. -/
def variableNumber : (limit : Nat) → Decoding Nat
  | 0 => refuse
  | limit + 1 => do
      let next := (← byte).toNat
      if next < 128 then
        return next
      else
        return next % 128 + 128 * (← variableNumber limit)

/-- The largest number of bytes of a number. -/
def maxNumberSize : Nat := 9

/-- Bytes that are all zero. -/
def padding : (count : Nat) → Decoding Unit
  | 0 => return ()
  | count + 1 => do
      require ((← byte) = 0)
      padding count

/-- The number that stands for chunks among the ways of filtering data. -/
def chunkFilter : Nat := 0x21

/-- Read the header of a block behind its size; the only filter is the one of chunks. -/
def blockHeader (size : Nat) : Decoding Unit := do
  let start := (← get).position
  let flags := (← byte).toNat
  require (flags % 64 = 0)
  if flags / 64 % 2 = 1 then
    let _ ← variableNumber maxNumberSize
  if flags / 128 = 1 then
    let _ ← variableNumber maxNumberSize
  require ((← variableNumber maxNumberSize) = chunkFilter)
  require ((← variableNumber maxNumberSize) = 1)
  let _ ← byte
  let read := (← get).position - start
  require (read ≤ size)
  padding (size - read)
  let _ ← bytes 4

/-- The sizes of the checks behind blocks. -/
def checkSizes : List Nat :=
  [0, 4, 4, 4, 8, 8, 8, 16, 16, 16, 32, 32, 32, 64, 64, 64]

/-- Decode blocks up to the index, at most `limit` of them. -/
def blocks (checkSize : Nat) : (limit : Nat) → Decoding Unit
  | 0 => refuse
  | limit + 1 => do
      let size := (← byte).toNat
      if size = 0 then
        return ()
      else
        blockHeader (4 * size - 1)
        let start := (← get).position
        startOver
        chunks ⟨false, false⟩ ((← read).size + 1)
        padding ((4 - ((← get).position - start) % 4) % 4)
        let _ ← bytes checkSize
        blocks checkSize limit

/-- Decode a stream up to its index. -/
def stream : Decoding Unit := do
  require ((← bytes 6) = 0xfd377a585a00)
  require ((← byte) = 0)
  match checkSizes[(← byte).toNat]? with
  | none => refuse
  | some checkSize => do
      let _ ← bytes 4
      blocks checkSize ((← read).size + 1)

end Lzma

end DexSurface
