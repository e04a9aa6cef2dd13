import Std.Data.TreeMap
import DexSurface.Journal

/-!
# Tiers of class files

The class files of the output stand in three tiers: stubs, skeletons, and the type of the
restriction annotation.  Within a tier a later file replaces an earlier one of the same name, and a
skeleton also replaces a stub.  Replacements are reported.
-/

namespace DexSurface

/-- The tiers that a class file can belong to. -/
inductive Tier where
  | stub
  | skeleton
  | restriction
  deriving Repr, DecidableEq

/-- A class file that enters a tier under the name of its entry. -/
structure TierWrite where
  tier : Tier
  name : String
  content : ByteArray

/-- Class files by tier and entry name. -/
structure OutputTiers where
  stubs : Std.TreeMap String ByteArray
  skeletons : Std.TreeMap String ByteArray
  restriction : Option (String × ByteArray)

namespace OutputTiers

/-- Tiers without class files. -/
def empty : OutputTiers where
  stubs := ∅
  skeletons := ∅
  restriction := none

instance : Inhabited OutputTiers := ⟨empty⟩

/-- Enter a class file. -/
def write (tiers : OutputTiers) (file : TierWrite) : OutputTiers :=
  match file.tier with
  | .stub => { tiers with stubs := tiers.stubs.insert file.name file.content }
  | .skeleton =>
      { tiers with
        stubs := tiers.stubs.erase file.name
        skeletons := tiers.skeletons.insert file.name file.content }
  | .restriction => { tiers with restriction := some (file.name, file.content) }

/-- An event that is reported only in a certain case. -/
def eventIf (happens : Bool) (event : Event) : List Event :=
  if happens then [event] else []

/-- What is reported when a class file enters. -/
def events (tiers : OutputTiers) (file : TierWrite) : List Event :=
  match file.tier with
  | .stub => eventIf (tiers.stubs.contains file.name) (.stubReplaced file.name)
  | .skeleton =>
      eventIf (tiers.stubs.contains file.name) (.stubRemoved file.name)
        ++ eventIf (tiers.skeletons.contains file.name) (.skeletonReplaced file.name)
  | .restriction => []

/-- Enter class files in order. -/
def writeAll (tiers : OutputTiers) (files : List TierWrite) : OutputTiers :=
  files.foldl write tiers

/-- The names and contents of all class files: stubs, skeletons, restriction type. -/
def entries (tiers : OutputTiers) : List (String × ByteArray) :=
  tiers.stubs.toList ++ tiers.skeletons.toList ++ tiers.restriction.toList

end OutputTiers

end DexSurface
