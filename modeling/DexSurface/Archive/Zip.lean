import DexSurface.Archive.Checksum
import DexSurface.Archive.Deflate
import DexSurface.Archive.Entry
import DexSurface.Archive.Zip.Field

/-!
# Archives as bytes

An archive holds every entry behind a header of its own, then a directory of all entries, then an
ending that tells the place of that directory.
-/

namespace DexSurface

namespace Zip

/-- The number of a way of storing. -/
def methodNumber : Compression → Nat
  | .stored => 0
  | .deflated => 8

/-- A time of day in two bytes, in steps of two seconds. -/
def clockNumber (time : Timestamp) : Nat :=
  time.hour * 2048 + time.minute * 32 + time.second / 2

/-- A date in two bytes. -/
def dateNumber (time : Timestamp) : Nat :=
  (time.year - 1980) * 512 + time.month * 32 + time.day

/-- A number in two bytes. -/
def u16 (number : Nat) : List UInt8 :=
  Bytes.littleEndian 2 number

/-- A number in four bytes. -/
def u32 (number : Nat) : List UInt8 :=
  Bytes.littleEndian 4 number

/-- The flag of names that are not ASCII. -/
def unicodeFlag (name : String) : Nat :=
  if name.toList.all fun char => char.toNat < 0x80 then 0 else 0x800

/-- The content of an entry as it is stored. -/
def storedContent (entry : ArchiveEntry) : ByteArray :=
  match entry.compression with
  | .stored => entry.content
  | .deflated => Deflate.deflate entry.content

/-- What the header of an entry and its place in the directory have in common. -/
def commonFields (entry : ArchiveEntry) (stored : ByteArray) : List UInt8 :=
  u16 20 ++ u16 (unicodeFlag entry.name) ++ u16 (methodNumber entry.compression)
    ++ u16 (clockNumber entry.modified) ++ u16 (dateNumber entry.modified)
    ++ u32 (Checksum.ofContent entry.content).toNat ++ u32 stored.size ++ u32 entry.content.size
    ++ u16 entry.name.utf8ByteSize ++ u16 0

/-- An entry with its header. -/
def entryBytes (entry : ArchiveEntry) : ByteArray :=
  let stored := storedContent entry
  (u32 entryMark ++ commonFields entry stored).toByteArray ++ entry.name.toUTF8 ++ stored

/-- The system whose file modes an archive keeps, and the version of the format. -/
def madeBy : Nat := 3 * 256 + 20

/-- An entry of the directory for an entry at an offset. -/
def directoryBytes (entry : ArchiveEntry) (offset : Nat) : ByteArray :=
  (u32 directoryMark ++ u16 madeBy ++ commonFields entry (storedContent entry)
      ++ u16 0 ++ u16 0 ++ u16 0 ++ u32 (entry.mode.toNat * 65536) ++ u32 offset).toByteArray
    ++ entry.name.toUTF8

/-- The entries, then their directory, as far as they are written. -/
structure Halves where
  entries : ByteArray
  directory : ByteArray

/-- Write an entry and its directory entry. -/
def Halves.add (halves : Halves) (entry : ArchiveEntry) : Halves where
  entries := halves.entries ++ entryBytes entry
  directory := halves.directory ++ directoryBytes entry halves.entries.size

/-- The bytes of an archive. -/
def write (entries : List ArchiveEntry) : ByteArray :=
  let halves := entries.foldl Halves.add { entries := .empty, directory := .empty }
  halves.entries ++ halves.directory
    ++ (u32 endMark ++ u16 0 ++ u16 0 ++ u16 entries.length ++ u16 entries.length
      ++ u32 halves.directory.size ++ u32 halves.entries.size ++ u16 0).toByteArray

end Zip

end DexSurface
