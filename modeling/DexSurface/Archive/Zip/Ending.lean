import DexSurface.Archive.Zip.Field

/-!
# Where the directory of an archive is

An archive ends in an ending that counts the entries of the directory and places it.  Numbers that
are too large for it stand in a long ending, which a locator before the ending places.  Other data
may stand before the archive and before the ending, so the directory is where its first mark is
found, and its distance from the stated place is how far the archive is shifted.
-/

namespace DexSurface

namespace Zip

/-- The ending of an archive. -/
structure Ending where
  position : Nat
  disk : Nat
  directoryDisk : Nat
  countOnDisk : Nat
  count : Nat
  directoryPlace : Nat

/-- The ending at the position where reading stands; its comment must fit the file. -/
def ending : Fields Ending := do
  let position ← get
  start 22 endMark .ending
  let disk ← number 2
  let directoryDisk ← number 2
  let countOnDisk ← number 2
  let count ← number 2
  skip 4
  let directoryPlace ← number 4
  let commentLength ← number 2
  let _ ← take commentLength (.malformed .comment)
  return { position, disk, directoryDisk, countOnDisk, count, directoryPlace }

/-- The numbers of an ending may stand for larger ones. -/
def Ending.isDeferred (ending : Ending) : Bool :=
  ending.count = 0xffff || ending.directoryPlace = 0xffffffff

/-- The size of a locator. -/
def locatorSize : Nat := 20

/-- What places the long ending. -/
structure Locator where
  position : Nat
  directoryDisk : Nat
  endingPlace : Nat
  diskCount : Nat

/-- The locator at the position where reading stands. -/
def locator : Fields Locator := do
  let position ← get
  start locatorSize locatorMark .locatorPlace
  let directoryDisk ← number 4
  let endingPlace ← number 8
  let diskCount ← number 4
  return { position, directoryDisk, endingPlace, diskCount }

/-- The locator before an ending that may stand for larger numbers. -/
def Ending.locator? (ending : Ending) (bytes : ByteArray) : Option Locator :=
  if ending.isDeferred && locatorSize ≤ ending.position then
    (readAt locator bytes (ending.position - locatorSize)).toOption
  else
    none

/-- Where the directory is. -/
structure DirectoryPlace where
  /-- How many bytes stand before the archive. -/
  shift : Nat
  /-- Where the directory starts in the file. -/
  position : Nat
  count : Nat
  disk : Nat
  directoryDisk : Nat

/-- The first result of a test at positions from one on, at most `limit` of them. -/
def firstFrom? (test : Nat → Option α) (position : Nat) : (limit : Nat) → Option α
  | 0 => none
  | limit + 1 =>
      match test position with
      | some found => some found
      | none => firstFrom? test (position + 1) limit

/-- The first position between two positions at which a mark stands. -/
def firstMark? (bytes : ByteArray) (mark first behind : Nat) : Option Nat :=
  firstFrom? (fun position => if hasMark bytes mark position then some position else none) first
    (behind - 3 - first)

/-- The directory of an ending whose numbers stand for themselves. -/
def Ending.directory (ending : Ending) (bytes : ByteArray) : Except ArchiveError DirectoryPlace :=
  let stated := ending.directoryPlace
  let shiftedBy (shift : Nat) : DirectoryPlace := {
    shift
    position := stated + shift
    count := ending.countOnDisk
    disk := ending.disk
    directoryDisk := ending.directoryDisk
  }
  if ending.count = 0 then
    .ok (shiftedBy (ending.position - stated))
  else if ending.position ≤ stated then
    .error (.malformed .directoryPlace)
  else
    match firstMark? bytes directoryMark stated ending.position with
    | some position => .ok (shiftedBy (position - stated))
    | none => .error (.malformed .directory)

/-- The least size of what follows the first two fields of a long ending. -/
def longEndingSize : Nat := 44

/-- The size of an entry of the directory without its variable fields. -/
def directoryEntrySize : Nat := 46

/-- The directory of the long ending at a position, which must end at its locator. -/
def longEnding (locator : Locator) : Fields DirectoryPlace := do
  let position ← get
  let room := locator.position - position
  start 56 longEndMark .longEnding
  let size ← number 8
  let madeBy ← number 2
  let needed ← number 2
  let disk ← number 4
  let directoryDisk ← number 4
  let countOnDisk ← number 8
  let count ← number 8
  skip 8
  let stated ← number 8
  check (longEndingSize ≤ size) (.malformed .longEndingSize)
  check (size + 12 ≤ room) (.malformed .longEndingOverrun)
  skip (size - longEndingSize)
  check (directoryDisk = locator.directoryDisk) (.malformed .longEndingDisk)
  check (size + 12 = room) (.malformed .longEndingLength)
  check (count * directoryEntrySize + stated ≤ position) (.malformed .longEndingCount)
  check (countOnDisk ≤ count) (.malformed .countOnDisk)
  check (needed ≤ madeBy) (.malformed .version)
  let shift := position - locator.endingPlace
  return { shift, position := stated + shift, count, disk, directoryDisk }

/-- The directory that a locator leads to: that of the first long ending that fits it. -/
def Locator.directory (locator : Locator) (bytes : ByteArray) :
    Except ArchiveError DirectoryPlace :=
  if locator.position ≤ locator.endingPlace then
    .error (.malformed .locatorPlace)
  else if 1 < locator.diskCount then
    .error (.malformed .locatorDisks)
  else
    let fitting (position : Nat) : Option DirectoryPlace :=
      (readAt (longEnding locator) bytes position).toOption
    match firstFrom? fitting locator.endingPlace (locator.position - locator.endingPlace) with
    | some place => .ok place
    | none => .error (.malformed .longEnding)

/-- The directory that an ending leads to. -/
def Ending.place (ending : Ending) (bytes : ByteArray) : Except ArchiveError DirectoryPlace :=
  match ending.locator? bytes with
  | some locator => locator.directory bytes
  | none => ending.directory bytes

end Zip

end DexSurface
