import DexSurface.Archive.Listing

/-!
# Files

A run sees files by their paths, relative to a working directory or from the root.  A file is plain
bytes or an archive whose entries are known.  Directories are those that are listed as such and
those that the names of files imply.
-/

namespace DexSurface

namespace Path

/-- The parts of a path between slashes. -/
def parts (path : String) : List String :=
  path.splitOn "/"

/-- The largest size of a part of a path in bytes. -/
def maxPartSize : Nat := 255

/-- The largest size of a path in bytes. -/
def maxSize : Nat := 4095

/--
A path can name something only if neither it nor a part is too long and it has no null character.
-/
def isUsable (path : String) : Bool :=
  !path.isEmpty && path.utf8ByteSize ≤ maxSize && !path.toList.contains (Char.ofNat 0)
    && (parts path).all fun part => part.utf8ByteSize ≤ maxPartSize

/-- A part that stays where it is. -/
def isIdle (part : String) : Bool :=
  part.isEmpty || part = "."

/-- A path from the root. -/
def isAbsolute (path : String) : Bool :=
  path.toList.head? = some '/'

/--
What makes a path equal to another one: whether it starts at the root, and its parts without idle
ones; a leading dot counts.
-/
def key (path : String) : Bool × List String :=
  match parts path with
  | [] => (false, [])
  | first :: rest =>
      let leading := if first.isEmpty then [] else [first]
      (isAbsolute path, leading ++ rest.filter fun part => !isIdle part)

/-- The last part of a path that is not idle; a path without such a part is its own name. -/
def fileName (path : String) : String :=
  (((parts path).filter fun part => !isIdle part).getLast?).getD path

/-- The name of the root. -/
def root : String := "/"

/-- The part that leads to the directory above. -/
def parent : String := ".."

/-- A place at or above the working directory. -/
def isAbove (place : List String) : Bool :=
  place.all fun part => part = parent

/-- The place above a place. -/
def above (place : List String) : List String :=
  if isAbove place then place ++ [parent]
  else if place = [root] then place
  else place.dropLast

/-- The place to which a part leads from a place. -/
def enter (place : List String) (part : String) : List String :=
  if isIdle part then place
  else if part = parent then above place
  else place ++ [part]

/-- Where the parts of a path start. -/
def start (path : String) : List String :=
  if isAbsolute path then [root] else []

/-- The place that a path names if all of its parts but the last are directories. -/
def place (path : String) : List String :=
  (parts path).foldl enter (start path)

end Path

/-- What stands under a path. -/
inductive FileContent where
  | plain (bytes : ByteArray)
  | archive (entries : List ArchiveEntry)
  | directory

/-- The listing of a file that is an archive. -/
def FileContent.listing : FileContent → Except ArchiveError Listing
  | .archive entries => .ok (Listing.ofEntries entries)
  | .plain bytes => Listing.ofBytes bytes
  | .directory => .error .unexpectedEnd

/-- Files by their places; the first one of a place counts. -/
structure Files where
  placed : List (List String × FileContent)

namespace Files

/-- No files. -/
def empty : Files where
  placed := []

/-- Put a file at a place. -/
def put (files : Files) (place : List String) (content : FileContent) : Files where
  placed := (place, content) :: files.placed

/-- Files that are put at paths in order. -/
def ofList (named : List (String × FileContent)) : Files where
  placed := (named.map fun (path, content) => (Path.place path, content)).reverse

/-- What stands at a place. -/
def at? (files : Files) (place : List String) : Option FileContent :=
  match files.placed.find? fun entry => entry.1 = place with
  | some entry => some entry.2
  | none =>
      if Path.isAbove place || place = [Path.root]
          || files.placed.any fun entry => place.isPrefixOf entry.1 then
        some .directory
      else
        none

/-- A directory stands at a place. -/
def isDirectory (files : Files) (place : List String) : Bool :=
  match files.at? place with
  | some .directory => true
  | _ => false

/-- The place that parts lead to from a place; all parts but the last must be directories. -/
def walk (files : Files) (place : List String) : List String → Option (List String)
  | [] => some place
  | part :: rest =>
      if files.isDirectory place then files.walk (Path.enter place part) rest else none

/-- The place that a path leads to; whether something stands there is left open. -/
def resolve? (files : Files) (path : String) : Option (List String) :=
  if Path.isUsable path then files.walk (Path.start path) (Path.parts path) else none

/-- What stands under a path. -/
def find? (files : Files) (path : String) : Option FileContent := do
  files.at? (← files.resolve? path)

/-- The place at which a file can be written: the path ends in a name that no directory has. -/
def target? (files : Files) (path : String) : Option (List String) := do
  let place ← files.resolve? path
  if files.isDirectory place || (Path.parts path).getLast?.any Path.isIdle then
    none
  else
    return place

end Files

end DexSurface
