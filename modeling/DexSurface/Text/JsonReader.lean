import DexSurface.Text.JsonValue

/-!
# Reading JSON

A text is read as one value, with blanks around every part.  Nothing else may stand before or behind
the value.
-/

namespace DexSurface

/-- A computation that takes characters from the front of a text and may refuse it. -/
abbrev JsonReader := StateT (List Char) Option

namespace JsonReader

/-- The characters between the parts of a text. -/
def isBlank (char : Char) : Bool :=
  [' ', '\n', '\t', '\r'].contains char

/-- Skip blanks. -/
def skipBlanks : JsonReader Unit :=
  modify fun text => text.dropWhile isBlank

/-- The next character. -/
def next : JsonReader Char := fun text =>
  match text with
  | [] => none
  | first :: rest => some (first, rest)

/-- The next character, which stays in the text. -/
def peek? : JsonReader (Option Char) := do
  return (← get).head?

/-- A fixed word. -/
def word (expected : List Char) : JsonReader Unit := do
  let text ← get
  if expected.isPrefixOf text then
    set (text.drop expected.length)
  else
    failure

/-- The digits at the front. -/
def digits : JsonReader (List Char) := do
  let text ← get
  set (text.dropWhile Char.isDigit)
  return text.takeWhile Char.isDigit

/-- At least one digit. -/
def someDigits : JsonReader (List Char) := do
  let read ← digits
  if read.isEmpty then failure else return read

/-- The next character if it is one of some. -/
def optional (wanted : List Char) : JsonReader (Option Char) := do
  match ← peek? with
  | some char => if wanted.contains char then some <$> next else return none
  | none => return none

/-- The number that digits denote. -/
def numberOf (read : List Char) : Nat :=
  read.foldl (fun number digit => 10 * number + (digit.toNat - '0'.toNat)) 0

/-- The digits of an integer: a leading zero stands alone. -/
def integerDigits : JsonReader (List Char) := do
  let read ← someDigits
  if read.head? = some '0' ∧ read.length ≠ 1 then failure else return read

/-- A fraction, if a point follows. -/
def fraction : JsonReader Bool := do
  match ← optional ['.'] with
  | none => return false
  | some _ =>
      let _ ← someDigits
      return true

/-- An exponent, if its letter follows. -/
def exponent : JsonReader Bool := do
  match ← optional ['e', 'E'] with
  | none => return false
  | some _ =>
      let _ ← optional ['+', '-']
      let _ ← someDigits
      return true

/-- A number. -/
def number : JsonReader JsonValue := do
  let negative := (← optional ['-']).isSome
  let magnitude := numberOf (← integerDigits)
  let hasFraction ← fraction
  let hasExponent ← exponent
  if hasFraction || hasExponent || (negative && magnitude = 0) then
    return .decimal
  else
    return .integer (if negative then -(magnitude : Int) else magnitude)

/-- The value of a hexadecimal digit. -/
def hexDigit? (char : Char) : Option Nat :=
  if char.isDigit then some (char.toNat - '0'.toNat)
  else if 'a' ≤ char ∧ char ≤ 'f' then some (char.toNat - 'a'.toNat + 10)
  else if 'A' ≤ char ∧ char ≤ 'F' then some (char.toNat - 'A'.toNat + 10)
  else none

/-- The unit of four hexadecimal digits. -/
def unit? (read : List Char) : Option UInt16 := do
  let values ← read.mapM hexDigit?
  return (values.foldl (fun number digit => 16 * number + digit) 0).toUInt16

/-- The character that a letter behind a reverse slash stands for. -/
def escape? (letter : Char) : Option Char :=
  (JsonText.letterEscapes.find? fun escape => escape.2 = letter).map Prod.fst

/-- The parts of a string up to its closing quote, and what follows the quote. -/
def pieces : List Char → Option (List JsonPiece × List Char)
  | [] => none
  | '"' :: rest => some ([], rest)
  | '\\' :: 'u' :: first :: second :: third :: fourth :: rest => do
      let unit ← unit? [first, second, third, fourth]
      let (following, rest) ← pieces rest
      return (.unit unit :: following, rest)
  | '\\' :: letter :: rest => do
      let char ← escape? letter
      let (following, rest) ← pieces rest
      return (.char char :: following, rest)
  | char :: rest =>
      if char.toNat < 0x20 then
        none
      else do
        let (following, rest) ← pieces rest
        return (.char char :: following, rest)

/-- The text of a string behind its opening quote. -/
def stringTail : JsonReader (Option String) := fun text => do
  let (read, rest) ← pieces text
  return ((JsonPiece.chars? read).map String.ofList, rest)

/-- Items with commas between them up to a closing character, at most `limit` of them. -/
def itemsUntil (closing : Char) (item : JsonReader α) : (limit : Nat) → JsonReader (List α)
  | 0 => failure
  | limit + 1 => do
      let first ← item
      skipBlanks
      let char ← next
      if char = closing then
        return [first]
      else if char = ',' then
        return first :: (← itemsUntil closing item limit)
      else
        failure

/-- A list of items behind its opening character. -/
def listTail (closing : Char) (item : JsonReader α) (limit : Nat) : JsonReader (List α) := do
  skipBlanks
  match ← optional [closing] with
  | some _ => return []
  | none => itemsUntil closing item limit

/-- A name and a value with a colon between them. -/
def member (value : JsonReader JsonValue) : JsonReader (Option String × JsonValue) := do
  skipBlanks
  word ['"']
  let name ← stringTail
  skipBlanks
  word [':']
  return (name, ← value)

/-- A value in a text of at most `limit` characters. -/
def value : (limit : Nat) → JsonReader JsonValue
  | 0 => failure
  | limit + 1 => do
      skipBlanks
      match ← peek? with
      | some '"' => do
          let _ ← next
          return .string (← stringTail)
      | some '[' => do
          let _ ← next
          return .array (← listTail ']' (value limit) limit)
      | some '\x7b' => do
          let _ ← next
          return .object (← listTail '\x7d' (member (value limit)) limit)
      | some 'n' => do
          word ['n', 'u', 'l', 'l']
          return .null
      | some 't' => do
          word ['t', 'r', 'u', 'e']
          return .bool true
      | some 'f' => do
          word ['f', 'a', 'l', 's', 'e']
          return .bool false
      | _ => number

end JsonReader

/-- The value of a whole text. -/
def JsonValue.parse? (text : String) : Option JsonValue := do
  let (value, rest) ← JsonReader.value (text.length + 1) text.toList
  if rest.all JsonReader.isBlank then return value else none

end DexSurface
