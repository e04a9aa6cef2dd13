import DexSurface.Archive.Zstandard.Literals

/-!
# Sequences

The literals of a block are cut into pieces, and behind each piece stands a copy of earlier output.
The lengths of the pieces and of the copies and the distances of the copies are coded by states that
take turns, and are read backward.  Distances of earlier copies are short to tell.
-/

namespace DexSurface

namespace Zstandard

open Unpacking

/-- One of the three numbers of a sequence: how its code is told, and the code if none is. -/
structure Field where
  maxAccuracy : Nat
  count : Nat
  fixed : StateCode

namespace Field

/-- The lengths of pieces of literals. -/
def lengths : Field where
  maxAccuracy := 9
  count := 36
  fixed := .ofShares 6 [4, 3, 2, 2, 2, 2, 2, 2, 2, 2, 2, 2, 2, 1, 1, 1, 2, 2, 2, 2, 2, 2, 2, 2, 2,
    3, 2, 1, 1, 1, 1, 1, -1, -1, -1, -1]

/-- The distances of copies. -/
def distances : Field where
  maxAccuracy := 8
  count := 32
  fixed := .ofShares 5 [1, 1, 1, 1, 1, 1, 2, 2, 2, 1, 1, 1, 1, 1, 1, 1, 1, 1, 1, 1, 1, 1, 1, 1, -1,
    -1, -1, -1, -1]

/-- The lengths of copies. -/
def copies : Field where
  maxAccuracy := 9
  count := 53
  fixed := .ofShares 6 ([1, 4, 3, 2, 2, 2, 2, 2, 2] ++ List.replicate 37 1 ++ List.replicate 7 (-1))

/-- Read the code of a field, given how it is told and that of an earlier block. -/
def code (field : Field) (form : Nat) (earlier : Option StateCode) : Unpacking StateCode := do
  match form with
  | 0 => return field.fixed
  | 1 => do
      let symbol ← lowBits 8
      require (symbol < field.count)
      return .single symbol
  | 2 => StateCode.stated field.maxAccuracy field.count
  | _ =>
      match earlier with
      | none => refuse
      | some code => return code

end Field

/-- The least lengths of pieces and the numbers of further bits that symbols stand for. -/
def lengthForms : List (Nat × Nat) :=
  (List.range 16).map (·, 0)
    ++ [(16, 1), (18, 1), (20, 1), (22, 1), (24, 2), (28, 2), (32, 3), (40, 3), (48, 4), (64, 6),
      (128, 7), (256, 8), (512, 9), (1024, 10), (2048, 11), (4096, 12), (8192, 13), (16384, 14),
      (32768, 15), (65536, 16)]

/-- The least lengths of copies and the numbers of further bits that symbols stand for. -/
def copyForms : List (Nat × Nat) :=
  (List.range 32).map (fun more => (3 + more, 0))
    ++ [(35, 1), (37, 1), (39, 1), (41, 1), (43, 2), (47, 2), (51, 3), (59, 3), (67, 4), (83, 4),
      (99, 5), (131, 7), (259, 8), (515, 9), (1027, 10), (2051, 11), (4099, 12), (8195, 13),
      (16387, 14), (32771, 15), (65539, 16)]

/-- The number that a symbol and its further bits stand for. -/
def extended (forms : List (Nat × Nat)) (symbol : Nat) : Unpacking Nat :=
  match forms[symbol]? with
  | none => refuse
  | some (least, further) => do return least + (← backBits further)

/-- The codes of the fields. -/
structure Codes where
  lengths : StateCode
  distances : StateCode
  copies : StateCode

/-- The distances of the latest copies, the latest one first. -/
structure Distances where
  first : Nat
  second : Nat
  third : Nat

/-- The distances before the first copy. -/
def Distances.initial : Distances where
  first := 1
  second := 4
  third := 8

/-- A distance put before the others. -/
def Distances.add (distances : Distances) (distance : Nat) : Distances where
  first := distance
  second := distances.first
  third := distances.second

/--
The distances with the next one in front.  Numbers up to three stand for the latest distances;
behind an empty piece, the latest one is not meant, but the number before it may be.
-/
def Distances.next (distances : Distances) (number : Nat) (isEmpty : Bool) : Distances :=
  if 3 < number then
    distances.add (number - 3)
  else
    match if isEmpty then number + 1 else number with
    | 1 => distances
    | 2 => { distances with first := distances.second, second := distances.first }
    | 3 => distances.add distances.third
    | _ => distances.add (distances.first - 1)

/-- The states of the fields. -/
structure Cells where
  lengths : Cell
  distances : Cell
  copies : Cell

namespace Codes

/-- The first states. -/
def start (codes : Codes) : Unpacking Cells := do
  let lengths ← codes.lengths.start
  let distances ← codes.distances.start
  return { lengths, distances, copies := ← codes.copies.start }

/-- The states behind others. -/
def next (codes : Codes) (cells : Cells) : Unpacking Cells := do
  let lengths ← codes.lengths.next cells.lengths
  let copies ← codes.copies.next cells.copies
  return { lengths, distances := ← codes.distances.next cells.distances, copies }

end Codes

/-- A piece of literals and the copy behind it. -/
structure Sequence where
  length : Nat
  distances : Distances
  copy : Nat

/-- The sequence of some states, given the distances before it. -/
def Cells.sequence (cells : Cells) (before : Distances) : Unpacking Sequence := do
  let size := cells.distances.symbol
  let number := (1 <<< size) + (← backBits size)
  let copy ← extended copyForms cells.copies.symbol
  let length ← extended lengthForms cells.lengths.symbol
  return { length, distances := before.next number (length = 0), copy }

/-- The sequences of states from some on, and a number of them behind the next one. -/
def sequences (codes : Codes) (cells : Cells) (before : Distances) :
    (more : Nat) → Unpacking (List Sequence)
  | 0 => return [← cells.sequence before]
  | more + 1 => do
      let sequence ← cells.sequence before
      let cells ← codes.next cells
      return sequence :: (← sequences codes cells sequence.distances more)

/-- Read all sequences of data backward, a number of them behind the first one. -/
def allSequences (codes : Codes) (before : Distances) (data : ByteArray) (more : Nat) :
    Unpacking (List Sequence) :=
  backward data do
    let sequences ← sequences codes (← codes.start) before more
    atStart
    return sequences

/-- Unpack bytes as they are. -/
def emitAll (bytes : ByteArray) : Unpacking Unit :=
  bytes.foldlM (fun _ byte => emit byte) ()

/--
Unpack a sequence whose literals stand at a place, given where copies can start from; the result is
the place behind the literals.
-/
def Sequence.unpack (sequence : Sequence) (start : Nat) (literals : ByteArray) (place : Nat) :
    Unpacking Nat := do
  let behind := place + sequence.length
  require (behind ≤ literals.size)
  emitAll (literals.extract place behind)
  let distance := sequence.distances.first
  require (distance ≤ (← get).output.size - start)
  Unpacking.copy distance sequence.copy
  return behind

/-- The number of sequences of a block. -/
def sequenceCount : Unpacking Nat := do
  let first ← lowBits 8
  if first < 128 then
    return first
  else if first < 255 then
    return 256 * (first - 128) + (← lowBits 8)
  else
    return 0x7f00 + (← lowBits 16)

/-- What later blocks may use again. -/
structure Memory where
  literals : Option LiteralCode
  codes : Option Codes
  distances : Distances

/-- What is known before the first block. -/
def Memory.initial : Memory where
  literals := none
  codes := none
  distances := .initial

/-- Read the codes of the fields, given those of an earlier block. -/
def Codes.stated (earlier : Option Codes) : Unpacking Codes := do
  let reserved ← lowBits 2
  require (reserved = 0)
  let copyForm ← lowBits 2
  let distanceForm ← lowBits 2
  let lengths ← Field.lengths.code (← lowBits 2) (earlier.map Codes.lengths)
  let distances ← Field.distances.code distanceForm (earlier.map Codes.distances)
  let copies ← Field.copies.code copyForm (earlier.map Codes.copies)
  return { lengths, distances, copies }

/-- Unpack a block of literals and copies, given where copies can start from. -/
def unpackCoded (start : Nat) (memory : Memory) : Unpacking Memory := do
  let literals ← Literals.stated memory.literals
  let memory := { memory with literals := literals.code }
  match ← sequenceCount with
  | 0 => do
      require ((← remainingBytes).isEmpty)
      emitAll literals.bytes
      return memory
  | more + 1 => do
      let codes ← Codes.stated memory.codes
      let sequences ← allSequences codes memory.distances (← remainingBytes) more
      let place ← sequences.foldlM
        (fun place sequence => sequence.unpack start literals.bytes place) 0
      emitAll (literals.bytes.extract place literals.bytes.size)
      let last? := sequences.getLast?.map Sequence.distances
      return { memory with codes, distances := last?.getD memory.distances }

end Zstandard

end DexSurface
