import DexSurface.Archive.Tiers
import DexSurface.Configuration
import DexSurface.Files
import DexSurface.Run

/-!
# Packaging

The output archive lists the stubs, the skeletons, the restriction type, and then the wanted entries
of the resource archive in the order of that archive.  No two entries can have one name.
-/

namespace DexSurface

/-- How many entries of each kind an archive holds. -/
structure PackageSummary where
  stubs : Nat
  skeletons : Nat
  restriction : Bool
  resources : Nat
  deriving Repr, DecidableEq

/-- The number of all entries. -/
def PackageSummary.entries (summary : PackageSummary) : Nat :=
  summary.stubs + summary.skeletons + summary.restriction.toNat + summary.resources

namespace Package

/-- The levels at which an entry can be deflated. -/
def isLevel (level : Int64) : Bool :=
  1 ≤ level && level ≤ 264

/-- An entry can follow others if its name is new and, unless it is stored, the level exists. -/
def canFollow (level : Int64) (written : Array ArchiveEntry) (entry : ArchiveEntry) : Bool :=
  !(written.any fun other => other.name = entry.name)
    && (entry.compression = .stored || isLevel level)

/-- Start the output archive. -/
def start : Run Unit :=
  modify fun journal => { journal with output := some #[] }

/-- Add an entry to the output archive. -/
def addEntry (level : Int64) (entry : ArchiveEntry) : Run Unit := do
  let written := (← get).output.getD #[]
  if canFollow level written entry then
    modify fun journal => { journal with output := some (written.push entry) }
  else
    throw .archive

/-- The entry of a class file. -/
def classEntry (file : String × ByteArray) : ArchiveEntry :=
  .plain file.1 .deflated file.2

/-- Add class files in order. -/
def addClasses (level : Int64) (files : List (String × ByteArray)) : Run Unit :=
  files.forM fun file => addEntry level (classEntry file)

/-- The listing of an archive under a path. -/
def listing (files : Files) (path : String) : Except RunError Listing :=
  match files.find? path with
  | none => .error .fileAccess
  | some content => content.listing.mapError fun _ => .archive

/-- A resource keeps its name, its content and the way in which it is stored. -/
def resourceEntry (entry : OpenEntry) : Except RunError ArchiveEntry := do
  let content ← entry.content.all.mapError fun _ => .fileAccess
  return .plain entry.name entry.compression content

/-- An entry is wanted unless it is a directory or no resource. -/
def isWanted (configuration : Configuration) (entry : OpenEntry) : Bool :=
  !entry.isDirectory && configuration.isSpliced entry.name

/-- Copy a member of the resource archive if it is wanted, and count it. -/
def addResource (configuration : Configuration) (count : Nat) (member : Member) : Run Nat := do
  let entry ← Run.lift (member.opened.mapError fun _ => .archive)
  if isWanted configuration entry then
    addEntry configuration.compressionLevel (← Run.lift (resourceEntry entry))
    return count + 1
  else
    return count

/-- Copy the wanted entries of the resource archive and count them. -/
def addResources (configuration : Configuration) (files : Files) : Run Nat :=
  if configuration.splicesResources then do
    let path := configuration.resourceArchive
    Run.report (.writingResources path)
    let resources ← Run.lift (listing files path)
    resources.members.foldlM (addResource configuration) 0
  else
    return 0

/-- Write the archive of class files and resources. -/
def write (configuration : Configuration) (files : Files) (tiers : OutputTiers) :
    Run PackageSummary := do
  let level := configuration.compressionLevel
  start
  Run.report (.writingStubs tiers.stubs.size)
  addClasses level tiers.stubs.toList
  Run.report (.writingSkeletons tiers.skeletons.size)
  addClasses level tiers.skeletons.toList
  addClasses level tiers.restriction.toList
  let resources ← addResources configuration files
  return {
    stubs := tiers.stubs.size
    skeletons := tiers.skeletons.size
    restriction := tiers.restriction.isSome
    resources
  }

end Package

end DexSurface
