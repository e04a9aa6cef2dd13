import DexSurface.Archive.Package
import DexSurface.ClassFile.Encoding
import DexSurface.Reference.Closure
import DexSurface.Source
import DexSurface.Stub.ClassStub

/-!
# Extraction

Extraction merges the classes of its inputs, finds the inaccessible classes that the surface needs,
emits stubs and skeletons, and packages them.
-/

namespace DexSurface

namespace ClassFile

/-- The name of the archive entry of a class. -/
def ClassTree.entryName (tree : ClassTree) : String :=
  tree.name ++ ".class"

end ClassFile

/-- What an extraction found and wrote. -/
structure ExtractionSummary where
  /-- The classes of all inputs. -/
  classes : Nat
  /-- The inaccessible classes that the surface needs. -/
  referenced : Nat
  package : PackageSummary
  deriving Repr, DecidableEq

namespace Extraction

/-- Enter the class file of a tree into a tier. -/
def enter (tier : Tier) (tiers : OutputTiers) (tree : ClassFile.ClassTree) : Run OutputTiers := do
  let bytes ← Run.lift (tree.write.mapError .classFile)
  let file : TierWrite := { tier, name := tree.entryName, content := bytes.toByteArray }
  Run.reportAll (tiers.events file)
  return tiers.write file

/-- Enter the class file of a tree, if there is one. -/
def enter? (tier : Tier) (tiers : OutputTiers) (tree? : Option ClassFile.ClassTree) :
    Run OutputTiers :=
  match tree? with
  | none => return tiers
  | some tree => enter tier tiers tree

/-- Emit the stub of a class, if it has one. -/
def enterStub (surroundings : Stub.Surroundings) (tiers : OutputTiers) (record : ClassRecord) :
    Run OutputTiers := do
  enter? .stub tiers (← Stub.emitClass? surroundings record)

/-- Emit the skeleton of a class, if it has one. -/
def enterSkeleton (tiers : OutputTiers) (record : ClassRecord) : Run OutputTiers := do
  enter? .skeleton tiers (← Run.lift (RunError.ofRecord (Stub.skeleton? record)))

/-- Emit the restriction annotation type if some emitted member is annotated with it. -/
def enterRestriction (tiers : OutputTiers) : Run OutputTiers := do
  if (← get).usesRestrictions then
    enter .restriction tiers Stub.restrictionTree
  else
    return tiers

/--
Emit the classes of a map: stubs, then skeletons, then the restriction annotation type.
Restrictions noted before count for nothing.
-/
def emit (configuration : Configuration) (classes : ClassMap) (referenced : ReferencedSet) :
    Run OutputTiers := do
  Run.report (.stubsStarted classes.size)
  Run.forgetRestrictions
  let surroundings : Stub.Surroundings := { classes, referenced, configuration }
  let tiers ← classes.records.foldlM (enterStub surroundings) .empty
  Run.report (.skeletonsStarted referenced.size)
  let tiers ← (referenced.toList.map Prod.snd).foldlM enterSkeleton tiers
  enterRestriction tiers

/-- Emit the classes of a map and the inaccessible classes that they need. -/
def transform (configuration : Configuration) (classes : ClassMap) : Run OutputTiers := do
  Run.report .closureStarted
  emit configuration classes classes.referenced

/-- The files that packaging sees: the output archive exists already and is empty. -/
def withOutput (files : Files) (output : String) : Except RunError Files :=
  match files.target? output with
  | none => .error .fileAccess
  | some place => .ok (files.put place (.plain .empty))

/-- Read the inputs, emit their surface and write the output archive. -/
def run
    (configuration : Configuration)
    (files : Files)
    (source : ClassSource)
    (inputs : List String)
    (output : String) : Run ExtractionSummary := do
  let classes ← source.merge inputs
  Run.report .closureStarted
  let referenced := classes.referenced
  let tiers ← emit configuration classes referenced
  let files ← Run.lift (withOutput files output)
  let package ← Package.write configuration files tiers
  Run.report (.archiveWritten package.entries output)
  return { classes := classes.size, referenced := referenced.size, package }

end Extraction

end DexSurface
