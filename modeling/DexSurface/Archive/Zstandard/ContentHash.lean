/-!
# Hashes of frames

A frame may state a hash of its content.  The hash takes in rows of four words and then what is left
of them; each word is mixed in by multiplications and rotations.
-/

namespace DexSurface

namespace Zstandard

/-- A multiplier of words. -/
def firstPrime : UInt64 := 0x9e3779b185ebca87

/-- A multiplier of words. -/
def secondPrime : UInt64 := 0xc2b2ae3d27d4eb4f

/-- A multiplier of words. -/
def thirdPrime : UInt64 := 0x165667b19e3779f9

/-- A multiplier of words. -/
def fourthPrime : UInt64 := 0x85ebca77c2b2ae63

/-- A multiplier of words. -/
def fifthPrime : UInt64 := 0x27d4eb2f165667c5

/-- A word rotated to the left. -/
def rotated (word count : UInt64) : UInt64 :=
  (word <<< count) ||| (word >>> (64 - count))

/-- The word in a number of bytes from a place on, low byte first. -/
def wordAt (bytes : ByteArray) (place count : Nat) : UInt64 :=
  (bytes.extract place (place + count)).toList.foldr
    (fun byte word => word <<< 8 ||| byte.toUInt64) 0

/-- A sum with a word mixed in. -/
def mixed (sum word : UInt64) : UInt64 :=
  rotated (sum + word * secondPrime) 31 * firstPrime

/-- A hash with a sum mixed in. -/
def withSum (hash sum : UInt64) : UInt64 :=
  (hash ^^^ mixed 0 sum) * firstPrime + fourthPrime

/-- The sums of the four columns of words. -/
structure Sums where
  first : UInt64
  second : UInt64
  third : UInt64
  fourth : UInt64

namespace Sums

/-- The sums before the first row. -/
def initial : Sums where
  first := firstPrime + secondPrime
  second := secondPrime
  third := 0
  fourth := 0 - firstPrime

/-- The sums with the row at a place mixed in. -/
def addRow (bytes : ByteArray) (sums : Sums) (place : Nat) : Sums where
  first := mixed sums.first (wordAt bytes place 8)
  second := mixed sums.second (wordAt bytes (place + 8) 8)
  third := mixed sums.third (wordAt bytes (place + 16) 8)
  fourth := mixed sums.fourth (wordAt bytes (place + 24) 8)

/-- The hash of rows. -/
def hash (sums : Sums) : UInt64 :=
  let sum := rotated sums.first 1 + rotated sums.second 7 + rotated sums.third 12
    + rotated sums.fourth 18
  [sums.first, sums.second, sums.third, sums.fourth].foldl withSum sum

end Sums

/-- A hash with a word mixed in. -/
def withWord (hash word : UInt64) : UInt64 :=
  rotated (hash ^^^ mixed 0 word) 27 * firstPrime + fourthPrime

/-- A hash with half a word mixed in. -/
def withHalf (hash half : UInt64) : UInt64 :=
  rotated (hash ^^^ half * firstPrime) 23 * secondPrime + thirdPrime

/-- A hash with a byte mixed in. -/
def withByte (hash byte : UInt64) : UInt64 :=
  rotated (hash ^^^ byte * fifthPrime) 11 * firstPrime

/-- A hash whose bits are spread. -/
def finished (hash : UInt64) : UInt64 :=
  let hash := (hash ^^^ hash >>> 33) * secondPrime
  let hash := (hash ^^^ hash >>> 29) * thirdPrime
  hash ^^^ hash >>> 32

/-- The hash of bytes. -/
def contentHash (bytes : ByteArray) : UInt64 :=
  let rows := bytes.size / 32
  let sums := ((List.range rows).map (32 * ·)).foldl (Sums.addRow bytes) .initial
  let hash := (if rows = 0 then fifthPrime else sums.hash) + bytes.size.toUInt64
  let wordsEnd := bytes.size / 8
  let words := (List.range (wordsEnd - 4 * rows)).map fun count => 32 * rows + 8 * count
  let hash := words.foldl (fun hash place => withWord hash (wordAt bytes place 8)) hash
  let halves := (List.range (bytes.size / 4 - 2 * wordsEnd)).map (8 * wordsEnd + ·)
  let hash := halves.foldl (fun hash place => withHalf hash (wordAt bytes place 4)) hash
  let last := bytes.extract (4 * (bytes.size / 4)) bytes.size
  finished (last.foldl (fun hash byte => withByte hash byte.toUInt64) hash)

end Zstandard

end DexSurface
