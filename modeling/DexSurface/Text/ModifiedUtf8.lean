/-!
# Modified UTF-8

A string is written by its UTF-16 units, each in one, two or three bytes.  The unit zero takes two
bytes, so that a zero byte can end a string, and a supplementary character takes two three-byte
surrogates.  Reading masks continuation bytes without checking them, and a surrogate without its
partner becomes the replacement character.
-/

namespace DexSurface

namespace ModifiedUtf8

/-- The UTF-16 units of a character. -/
def unitsOfChar (char : Char) : List UInt16 :=
  let code := char.toNat
  if code < 0x10000 then
    [code.toUInt16]
  else
    [(0xd800 + (code - 0x10000) / 0x400).toUInt16, (0xdc00 + (code - 0x10000) % 0x400).toUInt16]

/-- The UTF-16 units of a text. -/
def unitsOfChars (chars : List Char) : List UInt16 :=
  chars.flatMap unitsOfChar

/-- The bytes of a unit: one for the units from 1 to 0x7f, two below 0x800, else three. -/
def encodeUnit (unit : UInt16) : List UInt8 :=
  let code := unit.toNat
  if 0 < code ∧ code < 0x80 then
    [code.toUInt8]
  else if code < 0x800 then
    [(0xc0 + code / 0x40).toUInt8, (0x80 + code % 0x40).toUInt8]
  else
    [(0xe0 + code / 0x1000).toUInt8, (0x80 + code / 0x40 % 0x40).toUInt8,
      (0x80 + code % 0x40).toUInt8]

/-- The bytes of a string. -/
def encode (text : String) : List UInt8 :=
  (unitsOfChars text.toList).flatMap encodeUnit

/-- The units that bytes encode; a lead byte of another form or a missing byte is refused. -/
def decodeUnits? : List UInt8 → Option (List UInt16)
  | [] => some []
  | first :: rest =>
      if first &&& 0x80 = 0 then
        (decodeUnits? rest).map (first.toUInt16 :: ·)
      else if first &&& 0xe0 = 0xc0 then
        match rest with
        | second :: rest =>
            (decodeUnits? rest).map
              (((first.toUInt16 &&& 0x1f) <<< 6 ||| (second.toUInt16 &&& 0x3f)) :: ·)
        | [] => none
      else if first &&& 0xf0 = 0xe0 then
        match rest with
        | second :: third :: rest =>
            (decodeUnits? rest).map
              (((first.toUInt16 &&& 0x0f) <<< 12 ||| (second.toUInt16 &&& 0x3f) <<< 6
                ||| (third.toUInt16 &&& 0x3f)) :: ·)
        | _ => none
      else
        none

/-- A unit that starts a surrogate pair. -/
def isHighSurrogate (unit : UInt16) : Bool :=
  0xd800 ≤ unit && unit ≤ 0xdbff

/-- A unit that ends a surrogate pair. -/
def isLowSurrogate (unit : UInt16) : Bool :=
  0xdc00 ≤ unit && unit ≤ 0xdfff

/-- The character that stands for a surrogate without its partner. -/
def replacement : Char := '\ufffd'

/-- The character of a unit outside of pairs. -/
def charOfUnit (unit : UInt16) : Char :=
  if isHighSurrogate unit || isLowSurrogate unit then replacement else Char.ofNat unit.toNat

/-- The characters of units, pairs joined. -/
def charsOfUnits : List UInt16 → List Char
  | [] => []
  | [unit] => [charOfUnit unit]
  | high :: low :: rest =>
      if isHighSurrogate high && isLowSurrogate low then
        Char.ofNat (0x10000 + (high.toNat - 0xd800) * 0x400 + (low.toNat - 0xdc00))
          :: charsOfUnits rest
      else
        charOfUnit high :: charsOfUnits (low :: rest)

/-- The string that bytes encode. -/
def decode? (bytes : List UInt8) : Option String :=
  (decodeUnits? bytes).map fun units => String.ofList (charsOfUnits units)

end ModifiedUtf8

end DexSurface
