import DexSurface.Archive.SymbolCode

/-!
# Inflating

Deflated data are blocks of bits, low bits of each byte first.  A block holds bytes as they are, or
symbols of variable length that stand for bytes and for copies of earlier output.  There are two
dialects: the later one copies longer pieces from farther back.
-/

namespace DexSurface

namespace Inflate

open Unpacking

/-- The next symbol of a code. -/
def symbol (code : SymbolCode) : Unpacking Nat :=
  code.read lowBit

/-- The least lengths and the numbers of further bits of the length symbols of both dialects. -/
def commonLengths : List (Nat × Nat) :=
  [(3, 0), (4, 0), (5, 0), (6, 0), (7, 0), (8, 0), (9, 0), (10, 0), (11, 1), (13, 1), (15, 1),
    (17, 1), (19, 2), (23, 2), (27, 2), (31, 2), (35, 3), (43, 3), (51, 3), (59, 3), (67, 4),
    (83, 4), (99, 4), (115, 4), (131, 5), (163, 5), (195, 5), (227, 5)]

/-- The least distances and the numbers of further bits of the distance symbols of both dialects. -/
def commonDistances : List (Nat × Nat) :=
  [(1, 0), (2, 0), (3, 0), (4, 0), (5, 1), (7, 1), (9, 2), (13, 2), (17, 3), (25, 3), (33, 4),
    (49, 4), (65, 5), (97, 5), (129, 6), (193, 6), (257, 7), (385, 7), (513, 8), (769, 8),
    (1025, 9), (1537, 9), (2049, 10), (3073, 10), (4097, 11), (6145, 11), (8193, 12),
    (12289, 12), (16385, 13), (24577, 13)]

/--
What the symbols for lengths and distances stand for: the least numbers and how many further bits
are added.
-/
structure Dialect where
  lengths : List (Nat × Nat)
  distances : List (Nat × Nat)

/-- The dialect with copies of up to 258 bytes. -/
def Dialect.short : Dialect where
  lengths := commonLengths ++ [(258, 0)]
  distances := commonDistances

/-- The dialect with copies of up to 65538 bytes. -/
def Dialect.long : Dialect where
  lengths := commonLengths ++ [(3, 16)]
  distances := commonDistances ++ [(32769, 14), (49153, 14)]

/-- The number that a symbol and its further bits stand for. -/
def extended (forms : List (Nat × Nat)) (symbol : Nat) : Unpacking Nat :=
  match forms[symbol]? with
  | none => refuse
  | some (least, further) => do return least + (← lowBits further)

/-- The symbol that ends a block. -/
def endSymbol : Nat := 256

/-- Unpack symbols up to the end of a block, at most `limit` of them. -/
def unpackSymbols (dialect : Dialect) (literals distances : SymbolCode) :
    (limit : Nat) → Unpacking Unit
  | 0 => refuse
  | limit + 1 => do
      let next ← symbol literals
      if next < endSymbol then
        emit next.toUInt8
        unpackSymbols dialect literals distances limit
      else if next = endSymbol then
        return ()
      else
        let length ← extended dialect.lengths (next - endSymbol - 1)
        let distance ← extended dialect.distances (← symbol distances)
        copy distance length
        unpackSymbols dialect literals distances limit

/-- The codes of blocks that state none. -/
def fixedCodes (dialect : Dialect) : SymbolCode × SymbolCode :=
  (.ofLengths (List.replicate 144 8 ++ List.replicate 112 9 ++ List.replicate 24 7
      ++ List.replicate 8 8),
    .ofLengths (List.replicate dialect.distances.length 5))

/-- The order in which the lengths of length symbols are stored. -/
def lengthOrder : List Nat :=
  [16, 17, 18, 0, 8, 7, 9, 6, 10, 5, 11, 4, 12, 3, 13, 2, 14, 1, 15]

/-- A code that is empty or complete. -/
def wholeCode (lengths : List Nat) : Unpacking SymbolCode := do
  let code := SymbolCode.ofLengths lengths
  require (code.isEmpty || code.isComplete)
  return code

/-- A code that is empty or complete, or has a single symbol. -/
def usableCode (lengths : List Nat) : Unpacking SymbolCode := do
  let code := SymbolCode.ofLengths lengths
  require (code.isEmpty || code.isComplete || code.isSingle)
  return code

/-- The code for code lengths, of which the first `count` lengths are stored. -/
def lengthCode (count : Nat) : Unpacking SymbolCode := do
  let stored ← (lengthOrder.take count).mapM fun place => return (place, ← lowBits 3)
  wholeCode ((List.range lengthOrder.length).map fun place => (stored.lookup place).getD 0)

/-- Code lengths up to a number of them, behind those already read in reverse order. -/
def codeLengths (code : SymbolCode) (wanted : Nat) :
    (limit : Nat) → List Nat → Unpacking (List Nat)
  | 0, _ => refuse
  | limit + 1, done =>
      if wanted < done.length then
        refuse
      else if done.length = wanted then
        return done.reverse
      else do
        let next ← symbol code
        if next < 16 then
          codeLengths code wanted limit (next :: done)
        else if next = 16 then
          match done with
          | [] => refuse
          | last :: _ => do
              let count := 3 + (← lowBits 2)
              codeLengths code wanted limit (List.replicate count last ++ done)
        else do
          let count ← if next = 17 then (3 + ·) <$> lowBits 3 else (11 + ·) <$> lowBits 7
          codeLengths code wanted limit (List.replicate count 0 ++ done)

/-- The largest number of symbols that stand for bytes, for the end and for lengths. -/
def maxLiterals : Nat := 286

/-- The codes that a block states; the first one has a symbol for the end. -/
def statedCodes (dialect : Dialect) : Unpacking (SymbolCode × SymbolCode) := do
  let literalCount := 257 + (← lowBits 5)
  let distanceCount := 1 + (← lowBits 5)
  let code ← lowBits 4
  require (literalCount ≤ maxLiterals && distanceCount ≤ dialect.distances.length)
  let code ← lengthCode (4 + code)
  let wanted := literalCount + distanceCount
  let lengths ← codeLengths code wanted (wanted + 1) []
  require (lengths[endSymbol]? != some 0)
  let literals ← usableCode (lengths.take literalCount)
  return (literals, ← usableCode (lengths.drop literalCount))

/-- Unpack bytes that stand as they are. -/
def unpackBytes : (count : Nat) → Unpacking Unit
  | 0 => return ()
  | count + 1 => do
      emit (← lowBits 8).toUInt8
      unpackBytes count

/-- Unpack a block of bytes, whose length is stored twice, the second time inverted. -/
def unpackStored : Unpacking Unit := do
  alignToByte
  let length ← lowBits 16
  let inverted ← lowBits 16
  require (length + inverted = 0xffff)
  unpackBytes length

/-- Unpack a block of symbols. -/
def unpackCoded (dialect : Dialect) (codes : SymbolCode × SymbolCode) : Unpacking Unit := do
  unpackSymbols dialect codes.1 codes.2 (8 * (← read).size + 1)

/-- Unpack a block; the result says whether it was the last one. -/
def unpackBlock (dialect : Dialect) : Unpacking Bool := do
  let last ← lowBit
  match ← lowBits 2 with
  | 0 => unpackStored
  | 1 => unpackCoded dialect (fixedCodes dialect)
  | 2 => unpackCoded dialect (← statedCodes dialect)
  | _ => refuse
  return last = 1

/-- Unpack blocks up to the last one, at most `limit` of them. -/
def unpackBlocks (dialect : Dialect) : (limit : Nat) → Unpacking Unit
  | 0 => refuse
  | limit + 1 => do
      if ← unpackBlock dialect then
        return ()
      else
        unpackBlocks dialect limit

/-- The content that deflated data stand for. -/
def inflate (dialect : Dialect) (bytes : ByteArray) : Content :=
  content (unpackBlocks dialect (8 * bytes.size + 1)) bytes

end Inflate

end DexSurface
