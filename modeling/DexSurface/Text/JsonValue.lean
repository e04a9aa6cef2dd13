import DexSurface.Text.ModifiedUtf8

/-!
# JSON values

The values that a JSON text denotes, and how a reader of settings asks for them.  A number counts
as an integer only if it is written without fraction, exponent and sign of zero.  A string whose
escapes name half of a surrogate pair has no text.
-/

namespace DexSurface

/-- The value of a JSON text. -/
inductive JsonValue where
  | null
  | bool (value : Bool)
  | integer (value : Int)
  | decimal
  | string (text : Option String)
  | array (items : List JsonValue)
  | object (members : List (Option String × JsonValue))
  deriving Repr, BEq, Inhabited

namespace JsonValue

/-- The truth value, if the value is one. -/
def asBool? : JsonValue → Option Bool
  | .bool value => some value
  | _ => none

/-- The text, if the value is a string that has one. -/
def asText? : JsonValue → Option String
  | .string text => text
  | _ => none

/-- The integer, if the value is one that fits 64 bits. -/
def asInt64? : JsonValue → Option Int64
  | .integer value =>
      if Int64.minValue.toInt ≤ value ∧ value ≤ Int64.maxValue.toInt then
        some (Int64.ofInt value)
      else
        none
  | _ => none

end JsonValue

/-- A part of a JSON string: a character, or a UTF-16 unit written as an escape. -/
inductive JsonPiece where
  | char (char : Char)
  | unit (unit : UInt16)
  deriving Repr, DecidableEq

namespace JsonPiece

/-- The characters of a string; escaped surrogates must come in pairs. -/
def chars? : List JsonPiece → Option (List Char)
  | [] => some []
  | .char letter :: rest => (chars? rest).map (letter :: ·)
  | .unit high :: .unit low :: rest =>
      if ModifiedUtf8.isHighSurrogate high then
        if ModifiedUtf8.isLowSurrogate low then
          (chars? rest).map (ModifiedUtf8.charsOfUnits [high, low] ++ ·)
        else
          none
      else if ModifiedUtf8.isLowSurrogate high then
        none
      else
        (chars? (.unit low :: rest)).map (Char.ofNat high.toNat :: ·)
  | .unit single :: rest =>
      if ModifiedUtf8.isHighSurrogate single || ModifiedUtf8.isLowSurrogate single then
        none
      else
        (chars? rest).map (Char.ofNat single.toNat :: ·)

end JsonPiece

namespace JsonText

/-- The escape of a character by one letter. -/
def shortEscapes : List (Char × Char) :=
  [('"', '"'), ('\\', '\\'), ('\x08', 'b'), ('\x0c', 'f'), ('\n', 'n'), ('\r', 'r'), ('\t', 't')]

/-- The letters behind a reverse slash that stand for a character; a slash may be escaped too. -/
def letterEscapes : List (Char × Char) :=
  ('/', '/') :: shortEscapes

/-- Four hexadecimal digits. -/
def fourDigits (number : Nat) : List Char :=
  let digits := Nat.toDigits 16 number
  List.replicate (4 - digits.length) '0' ++ digits

/-- A character inside of a string. -/
def escaped (char : Char) : List Char :=
  match shortEscapes.find? fun escape => escape.1 = char with
  | some escape => ['\\', escape.2]
  | none => if char.toNat < 0x20 then '\\' :: 'u' :: fourDigits char.toNat else [char]

/-- A text as a JSON string. -/
def quote (text : String) : String :=
  String.ofList ('"' :: text.toList.flatMap escaped ++ ['"'])

end JsonText

end DexSurface
