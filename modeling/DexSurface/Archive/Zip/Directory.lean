import DexSurface.Archive.Zip.DirectoryEntry
import DexSurface.Archive.Zip.Ending

/-!
# The directory of an archive

The last ending whose directory can be read counts.  If there is none, the failure to read a
directory tells more than an ending that leads to none.
-/

namespace DexSurface

namespace Zip

/-- The entries of the directory at a place, which must be on the disk of its ending. -/
def DirectoryPlace.entries (place : DirectoryPlace) (bytes : ByteArray) :
    Except ArchiveError (List DirectoryEntry) :=
  if place.disk ≠ place.directoryDisk then
    .error (.unsupported .severalDisks)
  else
    readAt (directoryEntries place.shift place.count) bytes place.position

/-- What went wrong at the endings that have been tried. -/
structure Attempts where
  /-- Why the ending that was read last leads to no directory. -/
  ending : Option ArchiveError
  /-- Why the directory that was read last is none. -/
  directory : Option ArchiveError

namespace Attempts

/-- Nothing has been tried. -/
def untried : Attempts where
  ending := none
  directory := none

/-- An ending that cannot be read; what is known of others tells more. -/
def unreadable (attempts : Attempts) (error : ArchiveError) : Attempts :=
  { attempts with ending := attempts.ending <|> some error }

/-- An ending that leads to no directory. -/
def misleading (attempts : Attempts) (error : ArchiveError) : Attempts :=
  { attempts with ending := some error }

/-- A directory that cannot be read. -/
def broken (attempts : Attempts) (error : ArchiveError) : Attempts :=
  { attempts with directory := some error }

/-- Why there is no archive. -/
def cause (attempts : Attempts) : ArchiveError :=
  (attempts.directory <|> attempts.ending).getD (.malformed .ending)

end Attempts

/-- The directory of the ending at a position, or what was tried in vain. -/
def entriesAt (bytes : ByteArray) (position : Nat) (attempts : Attempts) :
    Except Attempts (List DirectoryEntry) :=
  match readAt ending bytes position with
  | .error error => .error (attempts.unreadable error)
  | .ok ending =>
      match ending.place bytes with
      | .error error => .error (attempts.misleading error)
      | .ok place => (place.entries bytes).mapError attempts.broken

/-- The directory of the last ending below a position that leads to one. -/
def entriesBelow (bytes : ByteArray) (attempts : Attempts) :
    (bound : Nat) → Except ArchiveError (List DirectoryEntry)
  | 0 => .error attempts.cause
  | position + 1 =>
      if hasMark bytes endMark position then
        match entriesAt bytes position attempts with
        | .ok entries => .ok entries
        | .error attempts => entriesBelow bytes attempts position
      else
        entriesBelow bytes attempts position

/-- The directory of an archive. -/
def directory (bytes : ByteArray) : Except ArchiveError (List DirectoryEntry) :=
  entriesBelow bytes .untried bytes.size

end Zip

end DexSurface
