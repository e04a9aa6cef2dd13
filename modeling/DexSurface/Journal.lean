/-!
# The journal of a run

A run reports its progress and its findings as events.  Every event has a level and a text.
-/

namespace DexSurface

/-- How much attention an event asks for. -/
inductive Level where
  | debug
  | info
  | warn
  deriving Repr, DecidableEq

/-- The label of a level. -/
def Level.label : Level → String
  | .debug => "DEBUG"
  | .info => "INFO"
  | .warn => "WARN"

/-- What a run reports. -/
inductive Event where
  | runStarted (inputs : Nat) (output : String)
  | archiveStarted (path : String)
  | imageStarted (entry : String) (classes version : Nat)
  | archiveMerged (path : String) (seen : Nat) (source : String) (kept : Nat)
  | closureStarted
  | stubsStarted (classes : Nat)
  | skeletonsStarted (classes : Nat)
  | memberClassMissing (name : String)
  | recordLeft (typeName : String)
  | stubReplaced (entry : String)
  | stubRemoved (entry : String)
  | skeletonReplaced (entry : String)
  | writingStubs (count : Nat)
  | writingSkeletons (count : Nat)
  | writingResources (path : String)
  | archiveWritten (entries : Nat) (output : String)
  deriving Repr, DecidableEq

/-- A number with leading zeros up to three digits. -/
def threeDigits (number : Nat) : String :=
  let digits := Nat.repr number
  String.ofList (List.replicate (3 - digits.length) '0') ++ digits

namespace Event

/-- The level of an event. -/
def level : Event → Level
  | .imageStarted _ _ _ | .archiveMerged _ _ _ _ => .debug
  | .memberClassMissing _ | .recordLeft _ | .stubReplaced _ | .stubRemoved _
  | .skeletonReplaced _ => .warn
  | _ => .info

/-- The text of an event. -/
def message : Event → String
  | .runStarted inputs output => s!"Extracting {Nat.repr inputs} inputs to {output}"
  | .archiveStarted path => "Extract: " ++ path
  | .imageStarted entry classes version =>
      s!"Reading {entry} ({Nat.repr classes} classes, version {threeDigits version})"
  | .archiveMerged path seen source kept =>
      s!"{path}: {Nat.repr seen} classes read by {source}, {Nat.repr kept} kept"
  | .closureStarted => "Searching for referenced inaccessible classes"
  | .stubsStarted classes => s!"Transforming {Nat.repr classes} classes"
  | .skeletonsStarted classes => s!"Transforming {Nat.repr classes} inaccessible classes"
  | .memberClassMissing name => "Class not found: " ++ name
  | .recordLeft typeName => "Record class left untransformed: " ++ typeName
  | .stubReplaced entry => "Duplicated class: " ++ entry
  | .stubRemoved entry => "Duplicated class across tiers: " ++ entry
  | .skeletonReplaced entry => "Duplicated inaccessible class: " ++ entry
  | .writingStubs count => s!"Writing {Nat.repr count} classes"
  | .writingSkeletons count => s!"Writing {Nat.repr count} inaccessible classes"
  | .writingResources path => "Writing resources from " ++ path
  | .archiveWritten entries output => s!"Wrote {Nat.repr entries} entries to {output}"

end Event

end DexSurface
