import DexSurface.Archive.Unpacking

/-!
# Codes of symbols

A code gives symbols bit strings of different lengths.  It is determined by the lengths alone:
shorter strings come first, and symbols of one length are in order.  A symbol is read bit by bit.
-/

namespace DexSurface

/-- The largest number of bits of a symbol. -/
def SymbolCode.maxLength : Nat := 20

/--
A code for symbols: how many symbols there are of each length from one on, and the symbols in the
order of their codes.
-/
structure SymbolCode where
  counts : List Nat
  symbols : Array Nat

namespace SymbolCode

/-- The code in which each symbol has a given length; length zero stands for no code. -/
def ofLengths (lengths : List Nat) : SymbolCode where
  counts := (List.range maxLength).map fun less => lengths.count (less + 1)
  symbols := ((List.range maxLength).flatMap fun less =>
    ((lengths.zipIdx).filter fun entry => entry.1 = less + 1).map Prod.snd).toArray

/--
How many of the longest strings are left when symbols take theirs, given how many are left of the
strings of some length; nothing if there are too few.
-/
def spareFrom? (left : Nat) : List Nat → Option Nat
  | [] => some left
  | count :: counts => if 2 * left < count then none else spareFrom? (2 * left - count) counts

/-- How many of the longest strings a code leaves unused; nothing if it needs too many. -/
def spare? (code : SymbolCode) : Option Nat :=
  spareFrom? 1 code.counts

/-- The code has no symbols. -/
def isEmpty (code : SymbolCode) : Bool :=
  code.symbols.isEmpty

/-- Every string of bits starts with a symbol of the code. -/
def isComplete (code : SymbolCode) : Bool :=
  code.spare? = some 0

/-- The code has just one symbol, and that takes one bit. -/
def isSingle (code : SymbolCode) : Bool :=
  code.symbols.size = 1 && code.counts.head? = some 1

/-- The next symbol, given the bits read so far and the first code and index of their length. -/
def readFrom (bit : Unpacking Nat) (symbols : Array Nat) (code first index : Nat) :
    List Nat → Unpacking Nat
  | [] => Unpacking.refuse
  | count :: counts => do
      let code := 2 * code + (← bit)
      if code < first + count then
        match symbols[index + (code - first)]? with
        | some symbol => return symbol
        | none => Unpacking.refuse
      else
        readFrom bit symbols code (2 * (first + count)) (index + count) counts

/-- The next symbol of a code, given how bits are read. -/
def read (code : SymbolCode) (bit : Unpacking Nat) : Unpacking Nat :=
  readFrom bit code.symbols 0 0 0 code.counts

end SymbolCode

end DexSurface
