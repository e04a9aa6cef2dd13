import DexSurface.Archive.Zip.Directory
import DexSurface.Archive.Zip.Method

/-!
# Listings

A listing has the members of an archive in order.  Every member is opened by itself, so one that
cannot be opened or read leaves the others as they are.
-/

namespace DexSurface

/-- An entry that has been opened. -/
structure OpenEntry where
  name : String
  compression : Compression
  content : Content

namespace OpenEntry

/-- The entry stands for a directory. -/
def isDirectory (entry : OpenEntry) : Bool :=
  ArchiveEntry.isDirectoryName entry.name

/-- A known entry as an open one. -/
def ofEntry (entry : ArchiveEntry) : OpenEntry where
  name := entry.name
  compression := entry.compression
  content := .whole entry.content

end OpenEntry

/-- A member of an archive: the bytes of its name, and what comes of opening it. -/
structure Member where
  nameBytes : ByteArray
  opened : Except ArchiveError OpenEntry

namespace Zip

namespace DirectoryEntry

/--
Where the stored bytes of an entry start: behind its header, which repeats the lengths of its
variable fields.
-/
def storedPlace (entry : DirectoryEntry) : Fields Nat := do
  start 30 entryMark .entryHeader
  skip 22
  let nameLength ← number 2
  let extraLength ← number 2
  return entry.place + 30 + nameLength + extraLength

/-- Open an entry of an archive. -/
def opened (bytes : ByteArray) (entry : DirectoryEntry) : Except ArchiveError OpenEntry := do
  if entry.isEncrypted then
    throw (.unsupported .password)
  let place ← readAt entry.storedPlace bytes entry.place
  match Method.ofNumber? entry.method with
  | none => throw (.unsupported .method)
  | some method =>
      if entry.isSealed then
        throw .wrongPassword
      let stored := bytes.extract place (place + entry.storedSize)
      return {
        name := entry.name
        compression := method.compression
        content := (method.content stored entry.size).checked entry.checksum
      }

/-- The member of an archive that an entry of its directory describes. -/
def member (bytes : ByteArray) (entry : DirectoryEntry) : Member where
  nameBytes := entry.nameBytes
  opened := entry.opened bytes

end DirectoryEntry

end Zip

/-- The members of an archive in order. -/
structure Listing where
  members : List Member

namespace Listing

/-- The listing of known entries. -/
def ofEntries (entries : List ArchiveEntry) : Listing where
  members := entries.map fun entry =>
    { nameBytes := entry.name.toUTF8, opened := .ok (.ofEntry entry) }

/-- Put an entry behind others; if one of them has its name, the new one takes its place. -/
def enter (entries : List Zip.DirectoryEntry) (entry : Zip.DirectoryEntry) :
    List Zip.DirectoryEntry :=
  if entries.any fun other => other.nameBytes == entry.nameBytes then
    entries.map fun other => if other.nameBytes == entry.nameBytes then entry else other
  else
    entries ++ [entry]

/--
The listing of an archive; of the entries of one name, the last one counts, and it stands where the
first one does.
-/
def ofBytes (bytes : ByteArray) : Except ArchiveError Listing := do
  let entries ← Zip.directory bytes
  return { members := (entries.foldl enter []).map (Zip.DirectoryEntry.member bytes) }

/-- The member whose name has given bytes. -/
def find? (listing : Listing) (nameBytes : ByteArray) : Option Member :=
  listing.members.find? fun member => member.nameBytes == nameBytes

/-- All members, opened. -/
def openAll (listing : Listing) : Except ArchiveError (List OpenEntry) :=
  listing.members.mapM Member.opened

/-- Open the member of a name. -/
def open? (listing : Listing) (name : String) : Except ArchiveError OpenEntry :=
  match listing.find? name.toUTF8 with
  | none => .error .entryMissing
  | some member => member.opened

/-- Every known entry can be opened. -/
theorem openAll_ofEntries (entries : List ArchiveEntry) :
    (ofEntries entries).openAll = .ok (entries.map OpenEntry.ofEntry) := by
  rw [openAll, ofEntries]
  induction entries with
  | nil => rfl
  | cons first rest inductionHypothesis =>
      rw [List.map_cons, List.mapM_cons, inductionHypothesis]
      rfl

/-- Names have the same bytes only if they are the same. -/
theorem toUTF8_beq_iff {first second : String} :
    (first.toUTF8 == second.toUTF8) = true ↔ first = second := by
  change (first.toUTF8.data == second.toUTF8.data) = true ↔ first = second
  rw [beq_iff_eq, ← ByteArray.ext_iff, String.toUTF8_eq_toByteArray, String.toUTF8_eq_toByteArray,
    String.toByteArray_inj]

/-- Of known entries with distinct names, each is opened by its name. -/
theorem open?_ofEntries
    {entries : List ArchiveEntry}
    (distinct : (entries.map ArchiveEntry.name).Nodup)
    {entry : ArchiveEntry}
    (member : entry ∈ entries) :
    (ofEntries entries).open? entry.name = .ok (.ofEntry entry) := by
  have isFound : (ofEntries entries).find? entry.name.toUTF8 =
      some { nameBytes := entry.name.toUTF8, opened := .ok (.ofEntry entry) } := by
    rw [find?, ofEntries]
    induction entries with
    | nil => cases member
    | cons first rest inductionHypothesis =>
        obtain ⟨firstName, restDistinct⟩ := List.nodup_cons.mp distinct
        rw [List.map_cons]
        rcases List.mem_cons.mp member with rfl | inRest
        · exact List.find?_cons_of_pos (toUTF8_beq_iff.mpr rfl)
        · rw [List.find?_cons_of_neg]
          · exact inductionHypothesis restDistinct inRest
          · intro sameBytes
            rw [toUTF8_beq_iff.mp sameBytes] at firstName
            exact firstName (List.mem_map_of_mem inRest)
  rw [open?, isFound]

end Listing

end DexSurface
