import DexSurface.Archive.Lzma.RangeCoder

/-!
# Decoding chains of copies

The LZMA form of data is a row of steps, each of which adds a byte or a copy of earlier output.
Distances of earlier copies are short to tell.
-/

namespace DexSurface

namespace Lzma

/-- The contexts of steps that are no bytes. -/
def stepContext : Nat := 0

/-- The contexts of copies from the distances of earlier ones. -/
def repeatContext : Nat := 192

/-- The contexts of copies from other distances than the latest one. -/
def olderContext : Nat := 204

/-- The contexts of copies from other distances than the two latest ones. -/
def thirdContext : Nat := 216

/-- The contexts of copies from the oldest distance. -/
def fourthContext : Nat := 228

/-- The contexts of copies from the latest distance that are longer than a byte. -/
def longContext : Nat := 240

/-- The contexts of the sizes of distances. -/
def slotContext : Nat := 432

/-- The contexts of the low bits of distances of middle size. -/
def middleContext : Nat := 688

/-- The contexts of the lowest bits of large distances. -/
def alignContext : Nat := 803

/-- The contexts of lengths of copies. -/
def lengthContext : Nat := 819

/-- The contexts of lengths of copies from the distances of earlier ones. -/
def repeatLengthContext : Nat := 1333

/-- The contexts of bytes. -/
def literalContext : Nat := 1847

/-- The number of contexts of a byte. -/
def literalContexts : Nat := 0x300

/-- The low bits of a number. -/
def lowBits (number count : Nat) : Nat :=
  number % 1 <<< count

namespace Settings

/-- The settings that a byte stands for. -/
def ofNumber? (number : Nat) : Option Settings :=
  if number < 225 then
    some {
      previousBits := number % 9
      literalPlaceBits := number / 9 % 5
      placeBits := number / 45
    }
  else
    none

/-- The chances before the first step. -/
def chances (settings : Settings) : Array UInt32 :=
  Array.replicate
    (literalContext + literalContexts <<< (settings.previousBits + settings.literalPlaceBits))
    evenChance

end Settings

/-- The distances before the first copy. -/
def Distances.initial : Distances where
  first := 0
  second := 0
  third := 0
  fourth := 0

/-- The settings before any are read. -/
def Settings.initial : Settings where
  previousBits := 0
  literalPlaceBits := 0
  placeBits := 0

/-- The state before the first byte is read. -/
def State.initial : State where
  settings := .initial
  position := 0
  range := 0
  code := 0
  chances := Settings.initial.chances
  phase := 0
  distances := .initial
  start := 0
  output := .empty

/-- Forget all that came before but the output. -/
def forget : Decoding Unit :=
  modify fun state => { state with
    chances := state.settings.chances
    phase := 0
    distances := .initial }

/-- Read the settings. -/
def readSettings : Decoding Unit := do
  match Settings.ofNumber? (← byte).toNat with
  | none => refuse
  | some settings => modify fun state => { state with settings }

/-- The number of bytes that copies can reach. -/
def State.reach (state : State) : Nat :=
  state.output.size - state.start

/-- The byte at a distance less than one back. -/
def State.back? (state : State) (distance : Nat) : Option UInt8 :=
  if distance < state.reach then state.output[state.output.size - 1 - distance]? else none

/-- The phase after a byte. -/
def phaseAfterByte (phase : Nat) : Nat :=
  if phase < 4 then 0 else if phase < 10 then phase - 3 else phase - 6

/-- The latest step was a byte. -/
def followsByte (phase : Nat) : Bool :=
  phase < 7

/-- Go on to another phase, which depends on whether the latest step was a byte. -/
def enterPhase (behindByte behindCopy : Nat) : Decoding Unit :=
  modify fun state => { state with
    phase := if followsByte state.phase then behindByte else behindCopy }

/-- Add a byte. -/
def emit (byte : UInt8) : Decoding Unit :=
  modify fun state => { state with output := state.output.push byte }

/-- Add bytes from a distance less than one back, one after the other. -/
def copy (distance : Nat) : (length : Nat) → Decoding Unit
  | 0 => return ()
  | length + 1 => do
      match (← get).back? distance with
      | none => refuse
      | some byte => do
          emit byte
          copy distance length

/--
A byte whose first bits are known, at most `limit` of them missing; as long as they agree with
another byte, its bits choose contexts too.
-/
def byteLike (context other number : Nat) : (limit : Nat) → Decoding Nat
  | 0 => return number
  | limit + 1 => do
      let expected := other / 128 % 2
      let next ← bit (context + 256 * (1 + expected) + number)
      let number := 2 * number + next
      if next = expected then
        byteLike context (2 * other) number limit
      else
        treeBehind context number limit

/-- Decode a byte. -/
def literal : Decoding Unit := do
  let state ← get
  let settings := state.settings
  let previous := ((state.back? 0).getD 0).toNat >>> (8 - settings.previousBits)
  let place := lowBits state.reach settings.literalPlaceBits <<< settings.previousBits
  let context := literalContext + literalContexts * (place + previous)
  let number ←
    if followsByte state.phase then
      treeBehind context 1 8
    else
      byteLike context ((state.back? state.distances.first).getD 0).toNat 1 8
  emit (number - 256).toUInt8
  modify fun state => { state with phase := phaseAfterByte state.phase }

/-- Decode the length of a copy. -/
def length (context place : Nat) : Decoding Nat := do
  if (← bit context) = 0 then
    return 2 + (← tree (context + 2 + 8 * place) 3)
  else if (← bit (context + 1)) = 0 then
    return 10 + (← tree (context + 130 + 8 * place) 3)
  else
    return 18 + (← tree (context + 258) 8)

/-- Decode the distance of a copy of some length. -/
def distance (length : Nat) : Decoding Nat := do
  let slot ← tree (slotContext + 64 * min (length - 2) 3) 6
  if slot < 4 then
    return slot
  else
    let count := slot / 2 - 1
    let high := (2 + slot % 2) <<< count
    if slot < 14 then
      return high + (← reverseTree (middleContext + high - slot) 1 count)
    else
      let middle ← evenBitsBehind 0 (count - 4)
      return high + 16 * middle + (← reverseTree alignContext 1 4)

/-- The distance that stands for the end. -/
def endDistance : Nat := 0xffffffff

/-- Decode a copy from a new distance; its length is none at the end. -/
def newCopy (place : Nat) : Decoding Nat := do
  let length ← length lengthContext place
  enterPhase 7 10
  let distance ← distance length
  if distance = endDistance then
    return 0
  else
    modify fun state => { state with
      distances := {
        first := distance
        second := state.distances.first
        third := state.distances.second
        fourth := state.distances.third } }
    return length

/-- Decode which earlier distance is meant; the result has that one in front. -/
def promoted (phase : Nat) (distances : Distances) : Decoding Distances := do
  if (← bit (thirdContext + phase)) = 0 then
    return { distances with first := distances.second, second := distances.first }
  else if (← bit (fourthContext + phase)) = 0 then
    return { distances with
      first := distances.third
      second := distances.first
      third := distances.second }
  else
    return {
      first := distances.fourth
      second := distances.first
      third := distances.second
      fourth := distances.third }

/-- Decode the length of a copy from a distance of an earlier one. -/
def repeatedCopy (place : Nat) : Decoding Nat := do
  let state ← get
  let phase := state.phase
  if (← bit (olderContext + phase)) = 0 then
    if (← bit (longContext + 16 * phase + place)) = 0 then
      enterPhase 9 11
      return 1
  else
    let distances ← promoted phase state.distances
    modify fun state => { state with distances }
  let length ← length repeatLengthContext place
  enterPhase 8 11
  return length

/-- Decode steps until a number of bytes has been added; a copy must not add more. -/
def steps (wanted : Nat) : (limit : Nat) → Decoding Unit
  | 0 => normalize
  | limit + 1 => do
      let state ← get
      if wanted ≤ state.output.size then
        normalize
      else
        let place := lowBits state.reach state.settings.placeBits
        let phase := state.phase
        if (← bit (stepContext + 16 * phase + place)) = 0 then
          literal
        else
          let length ←
            if (← bit (repeatContext + phase)) = 0 then newCopy place else repeatedCopy place
          require (length != 0)
          let left := wanted - state.output.size
          copy (← get).distances.first (min length left)
          require (length ≤ left)
        steps wanted limit

/-- Decode a number of bytes. -/
def decode (count : Nat) : Decoding Unit := do
  steps ((← get).output.size + count) count

/-- The bytes that have been decoded, and why they end early if they do. -/
def content (decoding : Decoding Unit) (bytes : ByteArray) : Content :=
  match decoding bytes .initial with
  | .ok _ state => { bytes := state.output, failure := none }
  | .error error state => { bytes := state.output, failure := some error }

/--
Decode a number of bytes behind a header: a version, the size of what follows in the header, the
settings and how far copies reach.
-/
def decodeSized (count : Nat) : Decoding Unit := do
  let _ ← bytes 2
  require ((← bytes 2) = 0x0500)
  readSettings
  let _ ← bytes 4
  forget
  startBits
  decode count

end Lzma

end DexSurface
