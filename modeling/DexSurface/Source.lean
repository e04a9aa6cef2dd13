import DexSurface.ClassMap
import DexSurface.Run

/-!
# Sources of classes

A source reads the classes of an archive as a stream, which may fail after some classes.  The
streams of several archives are merged in order, so that the first class of a name is kept.
-/

namespace DexSurface

/-- What a source delivers for one archive: its events, its classes, and why it ended early. -/
structure SourceStream where
  events : List Event
  classes : List ClassRecord
  failure : Option RunError

/-- A stream that goes on with another one; only the later one can have failed. -/
def SourceStream.append (first next : SourceStream) : SourceStream where
  events := first.events ++ next.events
  classes := first.classes ++ next.classes
  failure := next.failure

/-- A reader of archives. -/
structure ClassSource where
  name : String
  canLoad : String → Bool
  stream : String → SourceStream

/-- A map under construction: how many classes of an archive were seen, and how many kept. -/
structure Merging where
  classes : ClassMap
  seen : Nat
  kept : Nat

/-- See one more class, and keep it if the map accepts it. -/
def Merging.visit (merging : Merging) (record : ClassRecord) : Merging where
  classes := merging.classes.insertFirst record
  seen := merging.seen + 1
  kept := merging.kept + (merging.classes.accepts record).toNat

namespace ClassSource

/-- Add the classes of one archive to a map. -/
def mergeArchive (source : ClassSource) (classes : ClassMap) (path : String) : Run ClassMap := do
  if !source.canLoad path then
    throw (.unsupportedInput path)
  Run.report (.archiveStarted path)
  let stream := source.stream path
  Run.reportAll stream.events
  match stream.failure with
  | some error => throw error
  | none =>
      let merged := stream.classes.foldl Merging.visit { classes, seen := 0, kept := 0 }
      Run.report (.archiveMerged path merged.seen source.name merged.kept)
      return merged.classes

/-- The classes of several archives. -/
def merge (source : ClassSource) (paths : List String) : Run ClassMap :=
  paths.foldlM source.mergeArchive ∅

end ClassSource

end DexSurface
