/-!
# UTF-8 with replacement

Bytes that are not UTF-8 are read with the replacement character for every longest part that could
start a character.
-/

namespace DexSurface

namespace Utf8

/-- The number of bytes that a lead byte announces, and the range of the second byte. -/
def leadForm? (lead : UInt8) : Option (Nat × UInt8 × UInt8) :=
  if 0xc2 ≤ lead && lead ≤ 0xdf then some (2, 0x80, 0xbf)
  else if lead = 0xe0 then some (3, 0xa0, 0xbf)
  else if lead = 0xed then some (3, 0x80, 0x9f)
  else if 0xe1 ≤ lead && lead ≤ 0xef then some (3, 0x80, 0xbf)
  else if lead = 0xf0 then some (4, 0x90, 0xbf)
  else if 0xf1 ≤ lead && lead ≤ 0xf3 then some (4, 0x80, 0xbf)
  else if lead = 0xf4 then some (4, 0x80, 0x8f)
  else none

/-- The first byte may follow in a character: the first one is in a range, later ones continue. -/
def continues (low high byte : UInt8) : Bool :=
  low ≤ byte && byte ≤ high

/--
Up to `count` continuation bytes: how many there are, and the code that they extend.
-/
def continuation (low high : UInt8) : Nat → Nat → List UInt8 → Nat × Nat
  | 0, code, _ => (0, code)
  | _ + 1, code, [] => (0, code)
  | count + 1, code, byte :: rest =>
      if continues low high byte then
        let (taken, code) := continuation 0x80 0xbf count (code * 64 + byte.toNat % 64) rest
        (taken + 1, code)
      else
        (0, code)

/-- The code that a lead byte contributes. -/
def leadCode (length : Nat) (lead : UInt8) : Nat :=
  match length with
  | 2 => lead.toNat % 32
  | 3 => lead.toNat % 16
  | _ => lead.toNat % 8

/-- The next character of bytes and the number of further bytes that it takes. -/
def nextChar (lead : UInt8) (rest : List UInt8) : Char × Nat :=
  if lead < 0x80 then
    (Char.ofNat lead.toNat, 0)
  else
    match leadForm? lead with
    | none => ('\ufffd', 0)
    | some (length, low, high) =>
        let (taken, code) := continuation low high (length - 1) (leadCode length lead) rest
        if taken = length - 1 then (Char.ofNat code, taken) else ('\ufffd', taken)

/-- The characters of bytes, with replacements. -/
def charsLossy (bytes : List UInt8) : List Char :=
  match bytes with
  | [] => []
  | lead :: rest =>
      let (char, taken) := nextChar lead rest
      char :: charsLossy (rest.drop taken)
termination_by bytes.length
decreasing_by
  simp only [List.length_drop, List.length_cons]
  omega

/-- The text of bytes, with replacements. -/
def decodeLossy (bytes : List UInt8) : String :=
  String.ofList (charsLossy bytes)

end Utf8

end DexSurface
