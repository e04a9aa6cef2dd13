import DexSurface.Archive.Zstandard.Reading

/-!
# Codes of states

Such a code gives each symbol a share of its states.  A state stands for its symbol, and the next
bits choose the state behind it; the more states a symbol has, the fewer bits that takes.
-/

namespace DexSurface

namespace Zstandard

open Unpacking

/-- A state: its symbol, and the number of bits that are added to a base for the next state. -/
structure Cell where
  symbol : Nat
  base : Nat
  bits : Nat

/-- A code whose first state is read from a number of bits. -/
structure StateCode where
  accuracy : Nat
  cells : Array Cell

namespace StateCode

/-- The code of a single symbol, which takes no bits. -/
def single (symbol : Nat) : StateCode where
  accuracy := 0
  cells := #[{ symbol, base := 0, bits := 0 }]

/-- The symbols with a negative share, which have one of the last states. -/
def rareSymbols (shares : List Int) : List Nat :=
  (shares.zipIdx.filter fun entry => entry.1 < 0).map Prod.snd

/-- The symbols with other shares, as often as they have states. -/
def commonSymbols (shares : List Int) : List Nat :=
  shares.zipIdx.flatMap fun entry => List.replicate entry.1.toNat entry.2

/-- The order in which states below a limit get symbols: with equal steps through all states. -/
def steppedStates (size limit : Nat) : List Nat :=
  ((List.range size).map fun count => count * (size / 2 + size / 8 + 3) % size).filter
    fun state => state < limit

/-- The symbols of the states. -/
def symbols (size : Nat) (shares : List Int) : Array Nat :=
  let rare := rareSymbols shares
  let lastStates := (List.range rare.length).map fun count => size - 1 - count
  let stepped := steppedStates size (size - rare.length)
  (lastStates.zip rare ++ stepped.zip (commonSymbols shares)).foldl
    (fun symbols entry => symbols.setIfInBounds entry.1 entry.2)
    (Array.replicate size 0)

/-- The code in which the symbols have given shares of the states. -/
def ofShares (accuracy : Nat) (shares : List Int) : StateCode :=
  let size := 1 <<< accuracy
  let add (state : Array Cell × Array Nat) (symbol : Nat) : Array Cell × Array Nat :=
    let number := state.2[symbol]?.getD 0
    let bits := accuracy - number.log2
    (state.1.push { symbol, base := (number <<< bits) - size, bits },
      state.2.setIfInBounds symbol (number + 1))
  {
    accuracy
    cells := ((symbols size shares).foldl add (#[], (shares.map Int.natAbs).toArray)).1
  }

/-- The next share, given how many states are left; small ones may take a bit less. -/
def share (left : Nat) : Unpacking Int := do
  let count := (left + 1).log2
  let short := (2 <<< count) - (left + 2)
  let low ← lowBits count
  if low < short then
    return Int.ofNat low - 1
  else if (← lowBit) = 0 then
    return Int.ofNat low - 1
  else
    return Int.ofNat (low + (1 <<< count) - short) - 1

/-- How many more symbols have no share, told in parts of three at most `limit` times. -/
def shareless : (limit : Nat) → Unpacking Nat
  | 0 => refuse
  | limit + 1 => do
      let count ← lowBits 2
      if count = 3 then
        return 3 + (← shareless limit)
      else
        return count

/--
The shares of at most `limit` symbols and those behind them that have none, given how many states
are left.
-/
def shares (left : Nat) : (limit : Nat) → Unpacking (List Int)
  | 0 => do
      require (left = 0)
      return []
  | limit + 1 => do
      if left = 0 then
        return []
      else
        let share ← share left
        let count ← if share = 0 then shareless (limit + 1) else pure 0
        let rest ← shares (left - share.natAbs) limit
        return share :: (List.replicate count 0 ++ rest)

/-- The least number of bits of a first state. -/
def minAccuracy : Nat := 5

/-- Read a code for at most `count` symbols whose first state has at most `maxAccuracy` bits. -/
def stated (maxAccuracy count : Nat) : Unpacking StateCode := do
  let accuracy := minAccuracy + (← lowBits 4)
  require (accuracy ≤ maxAccuracy)
  let shares ← shares (1 <<< accuracy) count
  require (shares.length ≤ count)
  alignToByte
  return ofShares accuracy shares

/-- What a state stands for. -/
def cell (code : StateCode) (state : Nat) : Unpacking Cell :=
  match code.cells[state]? with
  | none => refuse
  | some cell => return cell

/-- The first state. -/
def start (code : StateCode) : Unpacking Cell := do
  code.cell (← backBits code.accuracy)

/-- The state behind another one. -/
def next (code : StateCode) (cell : Cell) : Unpacking Cell := do
  code.cell (cell.base + (← backBits cell.bits))

end StateCode

end Zstandard

end DexSurface
