import DexSurface.Archive.Checksum
import DexSurface.Archive.Zip.Field
import DexSurface.Text.CodePage437
import DexSurface.Text.Utf8

/-!
# Entries of the directory

The directory of an archive has an entry for each entry of the archive.  Extra fields of such an
entry replace numbers that are too large for their places, or names in an unknown character set.
-/

namespace DexSurface

namespace Zip

/-- What the directory tells of an entry. -/
structure DirectoryEntry where
  /-- The name as it is stored. -/
  nameBytes : ByteArray
  name : String
  comment : String
  isEncrypted : Bool
  /-- The extra fields tell how the entry is encrypted. -/
  isSealed : Bool
  method : Nat
  checksum : Nat
  storedSize : Nat
  size : Nat
  /-- Where the entry starts. -/
  place : Nat

/-- The method of encrypted entries, whose true method is in an extra field. -/
def sealedMethod : Nat := 99

/-- A number of four bytes that stands for a larger one elsewhere. -/
def deferred : Nat := 0xffffffff

/-- The size of a field with all long numbers. -/
def allLongSizes : Nat := 24

/-- A long number, if its place in the entry defers to it, and how many bytes it takes. -/
def longNumber (length given : Nat) : Fields (Nat × Nat) := do
  if allLongSizes ≤ length || given = deferred then
    return (← number 8, 8)
  else
    return (given, 0)

/-- The field of numbers that are too large for four bytes. -/
def longSizes (length : Nat) (entry : DirectoryEntry) : Fields DirectoryEntry := do
  let (size, sizeBytes) ← longNumber length entry.size
  let (storedSize, storedBytes) ← longNumber length entry.storedSize
  let (place, placeBytes) ← longNumber length entry.place
  let used := sizeBytes + storedBytes + placeBytes
  check (used ≤ length) (.malformed .longSizes)
  skip (length - used)
  return { entry with size, storedSize, place }

/-- The field of times in units of a tenth of a microsecond, which are not needed. -/
def fineTimes (length : Nat) : Fields Unit := do
  check (length = 32) (.unsupported .fineTimesLength)
  skip 4
  check ((← number 2) = 1) (.unsupported .fineTimesTag)
  check ((← number 2) = 24) (.unsupported .fineTimesSize)
  skip 24

/-- The number of bits that are set among the low bits of a number. -/
def setBits (number : Nat) : (count : Nat) → Nat
  | 0 => 0
  | count + 1 => number % 2 + setBits (number / 2) count

/--
The field of times in seconds, which are not needed: its length fits the times that its flags
announce, or it holds one time.
-/
def secondTimes (length : Nat) : Fields Unit := do
  let flags ← number 1
  check (length = 5 || length = 1 + 4 * setBits flags 8) (.unsupported .extendedTimes)
  if length = 5 then skip 4
  else skip (4 * setBits flags 3)

/-- The field about encryption. -/
def encryption (length : Nat) (entry : DirectoryEntry) : Fields DirectoryEntry := do
  check (length = 7) (.unsupported .encryptionLength)
  let version ← number 2
  let vendor ← number 2
  let strength ← number 1
  let method ← number 2
  check (vendor = 0x4541) (.malformed .encryptionVendor)
  check (version = 1 || version = 2) (.malformed .encryptionVersion)
  check (1 ≤ strength && strength ≤ 3) (.malformed .encryptionStrength)
  return { entry with isSealed := true, method }

/-- A text in UTF-8 that replaces bytes, given a field with their checksum. -/
def unicodeText (length : Nat) (replaced : ByteArray) : Fields (ByteArray × String) := do
  skip 1
  let checksum ← number 4
  check (5 ≤ length) (.malformed .unicodeSize)
  let bytes ← take (length - 5) .unexpectedEnd
  check ((Checksum.ofContent replaced).toNat = checksum) (.malformed .unicodeChecksum)
  match String.fromUTF8? bytes with
  | some text => return (bytes, text)
  | none => throw (.malformed .unicodeText)

/-- The next extra field; a byte that is left over is none. -/
def extraField (entry : DirectoryEntry) : Fields DirectoryEntry := do
  if (← read).size < (← get) + 2 then
    set (← read).size
    return entry
  let kind ← number 2
  let length ← number 2
  match kind with
  | 0x0001 => longSizes length entry
  | 0x000a => do
      fineTimes length
      return entry
  | 0x5455 => do
      secondTimes length
      return entry
  | 0x6375 => do
      let (_, comment) ← unicodeText length entry.comment.toUTF8
      return { entry with comment }
  | 0x7075 => do
      let (nameBytes, name) ← unicodeText length entry.nameBytes
      return { entry with nameBytes, name }
  | 0x9901 => encryption length entry
  | _ => do
      skip length
      return entry

/-- All extra fields, at most `limit` of them. -/
def extraFields (entry : DirectoryEntry) : (limit : Nat) → Fields DirectoryEntry
  | 0 => return entry
  | limit + 1 => do
      if (← get) < (← read).size then
        extraFields (← extraField entry) limit
      else
        return entry

/-- An entry with what its extra fields tell. -/
def withExtraFields (entry : DirectoryEntry) (extra : ByteArray) :
    Except ArchiveError DirectoryEntry :=
  readAt (extraFields entry extra.size) extra 0

/-- The flag of encrypted entries. -/
def encryptedBit : Nat := 0x0001

/-- The flag of entries whose name and comment are UTF-8. -/
def unicodeBit : Nat := 0x0800

/-- A flag is set. -/
def hasFlag (flags bit : Nat) : Bool :=
  flags &&& bit != 0

/-- The text of a name or comment. -/
def textOf (flags : Nat) (bytes : ByteArray) : String :=
  if hasFlag flags unicodeBit then Utf8.decodeLossy bytes.toList
  else CodePage437.decode bytes.toList

/-- The places of entries are below this number. -/
def placeBound : Nat := 0x10000000000000000

/-- The next entry of a directory; the archive starts `shift` bytes behind the start of the file. -/
def directoryEntry (shift : Nat) : Fields DirectoryEntry := do
  start 46 directoryMark .directoryEntry
  skip 4
  let flags ← number 2
  let method ← number 2
  skip 4
  let checksum ← number 4
  let storedSize ← number 4
  let size ← number 4
  let nameLength ← number 2
  let extraLength ← number 2
  let commentLength ← number 2
  skip 8
  let place ← number 4
  let nameBytes ← take nameLength (.malformed .variableField)
  let extra ← take extraLength (.malformed .variableField)
  let comment ← take commentLength (.malformed .variableField)
  let given : DirectoryEntry := {
    nameBytes
    name := textOf flags nameBytes
    comment := textOf flags comment
    isEncrypted := hasFlag flags encryptedBit
    isSealed := false
    method
    checksum
    storedSize
    size
    place
  }
  let entry ← withExtraFields given extra
  check (entry.method != sealedMethod || entry.isSealed) (.malformed .encryptionMissing)
  check (entry.place + shift < placeBound) (.malformed .entryPlace)
  return { entry with place := entry.place + shift }

/-- A number of entries of a directory. -/
def directoryEntries (shift : Nat) : (count : Nat) → Fields (List DirectoryEntry)
  | 0 => return []
  | count + 1 => do
      let first ← directoryEntry shift
      return first :: (← directoryEntries shift count)

end Zip

end DexSurface
