import DexSurface.Archive.Error
import DexSurface.Bytes.Order

/-!
# Fields of archives

The parts of an archive are runs of fields: numbers with their low byte first and runs of bytes.
Every part starts with a mark of its own.
-/

namespace DexSurface

namespace Zip

/-- The number that starts an entry. -/
def entryMark : Nat := 0x04034b50

/-- The number that starts an entry of the directory. -/
def directoryMark : Nat := 0x02014b50

/-- The number that starts the ending of an archive. -/
def endMark : Nat := 0x06054b50

/-- The number that starts the long ending of an archive. -/
def longEndMark : Nat := 0x06064b50

/-- The number that starts the locator of the long ending. -/
def locatorMark : Nat := 0x07064b50

/-- A computation that reads fields from a position on. -/
abbrev Fields := ReaderT ByteArray (StateT Nat (Except ArchiveError))

/-- The next bytes; why it fails if the bytes end before. -/
def take (length : Nat) (overrun : ArchiveError) : Fields ByteArray := fun bytes position =>
  if position + length ≤ bytes.size then
    .ok (bytes.extract position (position + length), position + length)
  else
    .error overrun

/-- The next number. -/
def number (width : Nat) : Fields Nat := do
  return Bytes.ofLittleEndian (← take width .unexpectedEnd).toList

/-- Leave out bytes. -/
def skip (length : Nat) : Fields Unit := do
  let _ ← take length .unexpectedEnd

/-- Go on only if a number of bytes is left. -/
def ensure (length : Nat) : Fields Unit := fun bytes position =>
  if position + length ≤ bytes.size then .ok ((), position) else .error .unexpectedEnd

/-- Go on only if something holds. -/
def check (holds : Bool) (otherwise : ArchiveError) : Fields Unit :=
  if holds then return () else throw otherwise

/-- The start of a part of some length, with its mark. -/
def start (length mark : Nat) (otherwise : ArchivePart) : Fields Unit := do
  ensure length
  check ((← number 4) = mark) (.malformed otherwise)

/-- The fields at a position. -/
def readAt (fields : Fields α) (bytes : ByteArray) (position : Nat) : Except ArchiveError α :=
  (fields bytes position).map Prod.fst

/-- The number in the bytes at a position. -/
def numberAt? (width : Nat) (bytes : ByteArray) (position : Nat) : Option Nat :=
  (readAt (number width) bytes position).toOption

/-- A mark stands at a position. -/
def hasMark (bytes : ByteArray) (mark position : Nat) : Bool :=
  numberAt? 4 bytes position = some mark

end Zip

end DexSurface
