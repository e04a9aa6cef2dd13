import Mathlib.Data.List.Nodup
import DexSurface.Archive.Tiers

namespace DexSurface

/-!
# Files that enter tiers under fresh names

A file whose name stands in no tier enters without replacing anything: it is held afterwards along
with all files held before, and no event is reported.
-/

namespace OutputTiers

/-- A class file stands in its tier. -/
def Holds (tiers : OutputTiers) (file : TierWrite) : Prop :=
  match file.tier with
  | .stub => tiers.stubs[file.name]? = some file.content
  | .skeleton => tiers.skeletons[file.name]? = some file.content
  | .restriction => tiers.restriction = some (file.name, file.content)

/-- Neither a stub nor a skeleton has the name. -/
structure IsFresh (tiers : OutputTiers) (name : String) : Prop where
  stubs : tiers.stubs[name]? = none
  skeletons : tiers.skeletons[name]? = none

/-- What is reported while class files enter in order. -/
def eventsAll (tiers : OutputTiers) : List TierWrite → List Event
  | [] => []
  | file :: rest => tiers.events file ++ (tiers.write file).eventsAll rest

variable {tiers : OutputTiers} {file : TierWrite} {name : String}

/-- Every name is new to empty tiers. -/
theorem isFresh_empty (name : String) : empty.IsFresh name :=
  ⟨by simp [empty], by simp [empty]⟩

/-- Entering a file leaves all other names fresh. -/
theorem IsFresh.write
    (fresh : tiers.IsFresh name)
    (differs : file.name ≠ name) :
    (tiers.write file).IsFresh name := by
  obtain ⟨noStub, noSkeleton⟩ := fresh
  rcases file with ⟨tier, fileName, content⟩
  cases tier with
  | stub =>
      exact ⟨by simpa [OutputTiers.write, Std.TreeMap.getElem?_insert, differs] using noStub,
        noSkeleton⟩
  | skeleton =>
      exact ⟨by simpa [OutputTiers.write, Std.TreeMap.getElem?_erase, differs] using noStub,
        by simpa [OutputTiers.write, Std.TreeMap.getElem?_insert, differs] using noSkeleton⟩
  | restriction =>
      exact ⟨noStub, noSkeleton⟩

/-- A file with a fresh name enters without an event. -/
theorem events_eq_nil (fresh : tiers.IsFresh file.name) : tiers.events file = [] := by
  have noStub : tiers.stubs.contains file.name = false := by
    rw [Std.TreeMap.contains_eq_isSome_getElem?, fresh.stubs, Option.isSome_none]
  have noSkeleton : tiers.skeletons.contains file.name = false := by
    rw [Std.TreeMap.contains_eq_isSome_getElem?, fresh.skeletons, Option.isSome_none]
  rcases file with ⟨tier, fileName, content⟩
  cases tier with
  | stub => simp [events, eventIf, noStub]
  | skeleton => simp [events, eventIf, noStub, noSkeleton]
  | restriction => rfl

/-- After a stub or a skeleton has entered under a fresh name, it is the only new file. -/
theorem holds_write_iff
    (fresh : tiers.IsFresh file.name)
    (isClass : file.tier ≠ .restriction)
    (other : TierWrite) :
    (tiers.write file).Holds other ↔ other = file ∨ tiers.Holds other := by
  obtain ⟨noStub, noSkeleton⟩ := fresh
  rcases file with ⟨tier, fileName, content⟩
  rcases other with ⟨otherTier, otherName, otherContent⟩
  dsimp only at noStub noSkeleton
  by_cases sameName : fileName = otherName
  · subst sameName
    cases tier <;> cases otherTier <;>
      simp_all [Holds, OutputTiers.write, eq_comm]
  · have differs : otherName ≠ fileName := fun same => sameName same.symm
    cases tier <;> cases otherTier <;>
      simp_all [Holds, OutputTiers.write, Std.TreeMap.getElem?_insert, Std.TreeMap.getElem?_erase]

/-- Files in sequence report the events of both parts. -/
theorem eventsAll_append (first second : List TierWrite) :
    tiers.eventsAll (first ++ second) =
      tiers.eventsAll first ++ (tiers.writeAll first).eventsAll second := by
  induction first generalizing tiers with
  | nil => rfl
  | cons file rest inductionHypothesis =>
      rw [List.cons_append, eventsAll, eventsAll, inductionHypothesis, List.append_assoc]
      rfl

/-- Files that enter under distinct fresh names report nothing. -/
theorem eventsAll_eq_nil
    (files : List TierWrite)
    (distinct : (files.map TierWrite.name).Nodup)
    (fresh : ∀ file ∈ files, tiers.IsFresh file.name) :
    tiers.eventsAll files = [] := by
  induction files generalizing tiers with
  | nil => rfl
  | cons first rest inductionHypothesis =>
      rw [List.map_cons, List.nodup_cons] at distinct
      rw [eventsAll, events_eq_nil (fresh first List.mem_cons_self), List.nil_append]
      apply inductionHypothesis distinct.2
      intro file member
      refine (fresh file (List.mem_cons_of_mem _ member)).write ?_
      rintro sameName
      exact distinct.1 (sameName ▸ List.mem_map_of_mem member)

/-- Once files have entered under distinct fresh names, they are the only new files. -/
theorem holds_writeAll_iff
    (files : List TierWrite)
    (distinct : (files.map TierWrite.name).Nodup)
    (fresh : ∀ file ∈ files, tiers.IsFresh file.name)
    (areClasses : ∀ file ∈ files, file.tier ≠ .restriction)
    (other : TierWrite) :
    (tiers.writeAll files).Holds other ↔ other ∈ files ∨ tiers.Holds other := by
  induction files generalizing tiers with
  | nil => simp [writeAll]
  | cons first rest inductionHypothesis =>
      rw [List.map_cons, List.nodup_cons] at distinct
      have firstFresh := fresh first List.mem_cons_self
      have firstIsClass := areClasses first List.mem_cons_self
      have restFresh : ∀ file ∈ rest, (tiers.write first).IsFresh file.name := by
        intro file member
        refine (fresh file (List.mem_cons_of_mem _ member)).write ?_
        rintro sameName
        exact distinct.1 (sameName ▸ List.mem_map_of_mem member)
      change ((tiers.write first).writeAll rest).Holds other ↔ _
      rw [inductionHypothesis distinct.2 restFresh
          fun file member => areClasses file (List.mem_cons_of_mem _ member),
        holds_write_iff firstFresh firstIsClass, List.mem_cons]
      tauto

/-- No file stands in empty tiers. -/
theorem not_holds_empty (file : TierWrite) : ¬ empty.Holds file := by
  rcases file with ⟨tier, name, content⟩
  cases tier <;> simp [Holds, empty]

/-- Files that enter empty tiers under distinct names are the only files. -/
theorem holds_writeAll_empty_iff
    {files : List TierWrite}
    (distinct : (files.map TierWrite.name).Nodup)
    (areClasses : ∀ file ∈ files, file.tier ≠ .restriction)
    (other : TierWrite) :
    (empty.writeAll files).Holds other ↔ other ∈ files := by
  rw [holds_writeAll_iff files distinct (fun file _ => isFresh_empty file.name) areClasses]
  exact or_iff_left (not_holds_empty other)

end OutputTiers

end DexSurface
