import DexSurface.Archive.Entry
import DexSurface.Journal
import DexSurface.RunError

/-!
# Runs

A run can fail, and it keeps a journal that survives the failure: the events so far, whether some
member was annotated as restricted, and the entries written so far.
-/

namespace DexSurface

/-- What a run has reported, noted and written so far. -/
structure Journal where
  events : Array Event
  usesRestrictions : Bool
  /-- The entries of the output archive, once it has been created. -/
  output : Option (Array ArchiveEntry)

/-- The journal of a run that has not started. -/
def Journal.empty : Journal where
  events := #[]
  usesRestrictions := false
  output := none

instance : Inhabited Journal := ⟨Journal.empty⟩

/-- A computation that keeps a journal and may fail. -/
abbrev Run := EStateM RunError Journal

namespace Run

/-- Report an event. -/
def report (event : Event) : Run Unit :=
  modify fun journal => { journal with events := journal.events.push event }

/-- Report events in order. -/
def reportAll (events : List Event) : Run Unit :=
  events.forM report

/-- Note that a member was annotated as restricted. -/
def noteRestriction : Run Unit :=
  modify fun journal => { journal with usesRestrictions := true }

/-- Forget whether some member was annotated as restricted. -/
def forgetRestrictions : Run Unit :=
  modify fun journal => { journal with usesRestrictions := false }

/-- The result of a computation without a journal. -/
def lift (result : Except RunError α) : Run α :=
  match result with
  | .ok value => pure value
  | .error error => throw error

end Run

end DexSurface
