import DexSurface.Archive.SymbolCode

/-!
# Blocks in sorted order

The bzip2 form of data is a row of blocks, high bits of each byte first.  Each block is the last
column of its sorted rotations: every byte as its place among the recently seen ones, runs of the
most recent one as numbers, and all of it in symbols of variable length.  Under that order, four
equal bytes are followed by how many more there are.
-/

namespace DexSurface

namespace Bzip2

open Unpacking

/-- The number that starts a block. -/
def blockMark : Nat := 0x314159265359

/-- The number behind the last block. -/
def endMark : Nat := 0x177245385090

/-- The polynomial of the checksums, whose high bits come first. -/
def polynomial : UInt32 := 0x04c11db7

/-- A remainder with one bit shifted out. -/
def shift (remainder : UInt32) : UInt32 :=
  if remainder &&& 0x80000000 = 0 then remainder <<< 1 else (remainder <<< 1) ^^^ polynomial

/-- A remainder with one more byte taken in. -/
def step (remainder : UInt32) (byte : UInt8) : UInt32 :=
  Nat.repeat shift 8 (remainder ^^^ (byte.toUInt32 <<< 24))

/-- The checksum of a block. -/
def checksum (bytes : ByteArray) : UInt32 :=
  bytes.foldl step 0xffffffff ^^^ 0xffffffff

/-- The checksum of blocks, given the one of the blocks before the last. -/
def addChecksum (before last : UInt32) : UInt32 :=
  ((before <<< 1) ||| (before >>> 31)) ^^^ last

/-- The last column of a block as far as it is read. -/
structure Column where
  /-- The bytes of the block, those seen most recently first. -/
  recent : List UInt8
  bytes : ByteArray
  /-- How many more times the most recent byte follows. -/
  run : Nat
  /-- What the next digit of that number counts. -/
  weight : Nat

namespace Column

/-- A column of which nothing is read. -/
def start (alphabet : List UInt8) : Column where
  recent := alphabet
  bytes := .empty
  run := 0
  weight := 1

/-- A column with one more digit of a run. -/
def addDigit (column : Column) (digit : Nat) : Column :=
  { column with
    run := column.run + column.weight * digit
    weight := 2 * column.weight }

/-- A byte a number of times behind others. -/
def pushCopies (byte : UInt8) (bytes : ByteArray) : (count : Nat) → ByteArray
  | 0 => bytes
  | count + 1 => pushCopies byte (bytes.push byte) count

/-- A column whose run is over. -/
def endRun (column : Column) : Column :=
  match column.recent with
  | [] => column
  | first :: _ =>
      { column with
        bytes := pushCopies first column.bytes column.run
        run := 0
        weight := 1 }

/-- A column with the byte at a place among the recent ones. -/
def addRecent? (column : Column) (place : Nat) : Option Column := do
  let byte ← column.recent[place]?
  return { column with
    recent := byte :: column.recent.eraseIdx place
    bytes := column.bytes.push byte }

/-- The size of a column with its run. -/
def size (column : Column) : Nat :=
  column.bytes.size + column.run

end Column

/-- The number of symbols that are read with one code. -/
def groupSize : Nat := 50

/--
The bytes that occur in a block: a bit for each row of sixteen that has some, then a bit for each
byte of these rows.
-/
def alphabet : Unpacking (List UInt8) := do
  let rows ← (List.range 16).filterMapM fun row => do
    return if (← highBit) = 1 then some row else none
  let bytes ← rows.mapM fun row =>
    (List.range 16).filterMapM fun column => do
      return if (← highBit) = 1 then some (16 * row + column).toUInt8 else none
  return bytes.flatten

/-- The number of ones before a zero, at most `limit` of them. -/
def ones : (limit : Nat) → Unpacking Nat
  | 0 => refuse
  | limit + 1 => do
      if (← highBit) = 0 then
        return 0
      else
        return 1 + (← ones limit)

/--
Which code each group of symbols has, as numbers; they are stored as places among the recently used
ones.
-/
def selectors (recent : List Nat) : (count : Nat) → Unpacking (List Nat)
  | 0 => return []
  | count + 1 => do
      let place ← ones recent.length
      match recent[place]? with
      | none => refuse
      | some selector => do
          return selector :: (← selectors (selector :: recent.eraseIdx place) count)

/-- The length of the next symbol, given that of the one before, after at most `limit` changes. -/
def codeLength (length : Nat) : (limit : Nat) → Unpacking Nat
  | 0 => refuse
  | limit + 1 => do
      require (1 ≤ length && length ≤ SymbolCode.maxLength)
      if (← highBit) = 0 then
        return length
      else if (← highBit) = 0 then
        codeLength (length + 1) limit
      else
        codeLength (length - 1) limit

/-- The lengths of symbols, given the length before them. -/
def codeLengths (length : Nat) : (count : Nat) → Unpacking (List Nat)
  | 0 => return []
  | count + 1 => do
      let next ← codeLength length (4 * (← read).size + 1)
      return next :: (← codeLengths next count)

/-- A code for a number of symbols. -/
def symbolCode (count : Nat) : Unpacking SymbolCode := do
  return .ofLengths (← codeLengths (← highBits 5) count)

/-- The column up to the end symbol; `left` symbols are left in the group whose code comes first. -/
def readColumn (endSymbol maxSize : Nat) (column : Column) (left : Nat) :
    (codes : List SymbolCode) → (limit : Nat) → Unpacking Column
  | _, 0 => refuse
  | [], _ => refuse
  | code :: codes, limit + 1 => do
      let symbol ← code.read highBit
      let (left, codes) := if left = 1 then (groupSize, codes) else (left - 1, code :: codes)
      if symbol = endSymbol then
        return column.endRun
      else if symbol < 2 then
        let column := column.addDigit (symbol + 1)
        require (column.size ≤ maxSize)
        readColumn endSymbol maxSize column left codes limit
      else
        match column.endRun.addRecent? (symbol - 1) with
        | none => refuse
        | some column => do
            require (column.size ≤ maxSize)
            readColumn endSymbol maxSize column left codes limit

/-- How many bytes of each kind there are. -/
def counts (bytes : ByteArray) : Array Nat :=
  bytes.foldl (fun counts byte => counts.modify byte.toNat (· + 1)) (Array.replicate 256 0)

/-- For each kind of byte, how many bytes are smaller. -/
def starts (bytes : ByteArray) : Array Nat :=
  ((counts bytes).foldl (fun (starts, sum) count => (starts.push sum, sum + count)) (#[], 0)).1

/-- For each place of the sorted column, the place of the same byte in the last column. -/
def successors (bytes : ByteArray) : Array Nat :=
  let add (state : Array Nat × Array Nat × Nat) (byte : UInt8) : Array Nat × Array Nat × Nat :=
    let (successors, free, place) := state
    let sorted := free[byte.toNat]?.getD 0
    (successors.setIfInBounds sorted place, free.setIfInBounds byte.toNat (sorted + 1), place + 1)
  (bytes.foldl add (Array.replicate bytes.size 0, starts bytes, 0)).1

/-- The bytes that are met on the way from a place to its successors. -/
def follow (bytes : ByteArray) (successors : Array Nat) (place : Nat) (met : ByteArray) :
    (count : Nat) → ByteArray
  | 0 => met
  | count + 1 =>
      let next := successors[place]?.getD 0
      follow bytes successors next (met.push (bytes[next]?.getD 0)) count

/-- The block whose rotation at a place of the sorted ones is the block itself. -/
def unsorted (column : ByteArray) (place : Nat) : ByteArray :=
  follow column (successors column) place .empty column.size

/-- Bytes in which equal ones are counted. -/
structure Counted where
  bytes : ByteArray
  last : Option UInt8
  /-- How often the last byte has come in a row. -/
  times : Nat

/-- Four equal bytes are followed by how many more there are. -/
def Counted.add (counted : Counted) (byte : UInt8) : Counted :=
  match counted.last with
  | none => ⟨counted.bytes.push byte, some byte, 1⟩
  | some last =>
      if counted.times = 4 then
        ⟨Column.pushCopies last counted.bytes byte.toNat, none, 0⟩
      else if byte = last then
        ⟨counted.bytes.push byte, some byte, counted.times + 1⟩
      else
        ⟨counted.bytes.push byte, some byte, 1⟩

/-- Bytes with all that stand for counts replaced by copies. -/
def expanded (bytes : ByteArray) : ByteArray :=
  (bytes.foldl Counted.add ⟨.empty, none, 0⟩).bytes

/-- The contents of a block behind its checksum; blocks in random order are refused. -/
def block (maxSize : Nat) : Unpacking ByteArray := do
  require ((← highBit) = 0)
  let place ← highBits 24
  let alphabet ← alphabet
  require (!alphabet.isEmpty)
  let codeCount ← highBits 3
  require (2 ≤ codeCount && codeCount ≤ 6)
  let groupCount ← highBits 15
  require (1 ≤ groupCount)
  let selectors ← selectors (List.range codeCount) groupCount
  let endSymbol := alphabet.length + 1
  let codes ← (List.range codeCount).mapM fun _ => symbolCode (endSymbol + 1)
  let column ← readColumn endSymbol maxSize (.start alphabet) groupSize
    (selectors.filterMap fun selector => codes[selector]?) (8 * (← read).size + 1)
  require (place < column.bytes.size)
  return expanded (unsorted column.bytes place)

/--
Unpack blocks up to the last one, at most `limit` of them, given the checksum of those before.
-/
def unpackBlocks (maxSize : Nat) (before : UInt32) : (limit : Nat) → Unpacking Unit
  | 0 => refuse
  | limit + 1 => do
      let mark ← highBits 48
      let stated := (← highBits 32).toUInt32
      if mark = endMark then
        require (stated = before)
      else
        require (mark = blockMark)
        let bytes ← block maxSize
        bytes.foldlM (fun _ byte => emit byte) ()
        require (checksum bytes = stated)
        unpackBlocks maxSize (addChecksum before stated) limit

/-- The number that a digit stands for in the header. -/
def zeroDigit : Nat := 0x30

/-- The size of the smallest blocks. -/
def sizeUnit : Nat := 100000

/-- Unpack a header, which states the largest size of blocks, and the blocks behind it. -/
def unpack : Unpacking Unit := do
  require ((← highBits 24) = 0x425a68)
  let digit ← highBits 8
  require (zeroDigit < digit && digit ≤ zeroDigit + 9)
  unpackBlocks (sizeUnit * (digit - zeroDigit)) 0 ((← read).size + 1)

end Bzip2

end DexSurface
