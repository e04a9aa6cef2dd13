/-!
# Archive entries

An archive is a list of entries.  An entry has a name, the bytes of its content, the way in which
they are stored, a modification time and a file mode.
-/

namespace DexSurface

/-- How the content of an entry is stored. -/
inductive Compression where
  | stored
  | deflated
  deriving Repr, DecidableEq

/-- The word for a way of storing. -/
def Compression.name : Compression → String
  | .stored => "Stored"
  | .deflated => "Deflated"

/-- A point in time to the second. -/
structure Timestamp where
  year : Nat
  month : Nat
  day : Nat
  hour : Nat
  minute : Nat
  second : Nat
  deriving Repr, DecidableEq

namespace Timestamp

/-- The earliest time that an archive can hold. -/
def earliest : Timestamp where
  year := 1980
  month := 1
  day := 1
  hour := 0
  minute := 0
  second := 0

/-- A number with a leading zero up to two digits. -/
def twoDigits (number : Nat) : String :=
  if number < 10 then "0" ++ Nat.repr number else Nat.repr number

/-- A time as date and clock time. -/
def text (time : Timestamp) : String :=
  Nat.repr time.year ++ "-" ++ twoDigits time.month ++ "-" ++ twoDigits time.day ++ " "
    ++ twoDigits time.hour ++ ":" ++ twoDigits time.minute ++ ":" ++ twoDigits time.second

end Timestamp

/-- An entry of an archive. -/
structure ArchiveEntry where
  name : String
  compression : Compression
  content : ByteArray
  modified : Timestamp
  mode : UInt32

namespace ArchiveEntry

/-- The mode of a plain file that its owner can write and everyone can read. -/
def plainMode : UInt32 := 0o100644

/-- An entry with the fixed time and mode that keep archives reproducible. -/
def plain (name : String) (compression : Compression) (content : ByteArray) : ArchiveEntry where
  name
  compression
  content
  modified := .earliest
  mode := plainMode

/-- The characters that end the name of a directory. -/
def separators : List Char := ['/', '\\']

/-- A name that ends in a separator is that of a directory. -/
def isDirectoryName (name : String) : Bool :=
  match name.toList.getLast? with
  | some last => separators.contains last
  | none => false

/-- The entry stands for a directory. -/
def isDirectory (entry : ArchiveEntry) : Bool :=
  isDirectoryName entry.name

end ArchiveEntry

end DexSurface
