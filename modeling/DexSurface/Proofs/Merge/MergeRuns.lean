import Mathlib.Data.List.Nodup
import DexSurface.Proofs.GivenValues
import DexSurface.Proofs.Output.SteadyRun
import DexSurface.Proofs.Reference.LeastClosure
import DexSurface.Source
import DexSurface.Total

namespace DexSurface

/-!
# Runs of a merge

A merge adds the class streams of its archives to a map one after the other.  What the map holds
then follows from the classes alone, and what is reported follows from the archives that were read.
-/

/-- The first class of a name that is not synthetic. -/
def firstPlain? (records : List ClassRecord) (typeName : TypeDescriptor) : Option ClassRecord :=
  records.find? fun record => !record.flags.isSynthetic && record.typeName = typeName

/-- The only class is the first one of its name unless it is synthetic. -/
theorem firstPlain?_singleton (record : ClassRecord) (typeName : String) :
    firstPlain? [record] typeName =
      if (!record.flags.isSynthetic && record.typeName = typeName) = true then some record
      else none :=
  List.find?_singleton

namespace ClassMap

/-- A class is added under its name unless the name is taken or the class is synthetic. -/
theorem getElem?_insertFirst (classes : ClassMap) (record : ClassRecord) (typeName : String) :
    (classes.insertFirst record)[typeName]? =
      classes[typeName]?.or (firstPlain? [record] typeName) := by
  rw [insertFirst, accepts, firstPlain?_singleton]
  by_cases sameName : record.typeName = typeName
  · subst sameName
    cases stored : classes[record.typeName]? with
    | some present =>
        have taken : classes.contains record.typeName = true := by
          rw [Std.TreeMap.contains_eq_isSome_getElem?, stored]
          rfl
        rw [taken, if_neg (by simp), stored]
        rfl
    | none =>
        have free : classes.contains record.typeName = false := by
          rw [Std.TreeMap.contains_eq_isSome_getElem?, stored]
          rfl
        cases isSynthetic : record.flags.isSynthetic <;> simp [free, stored]
  · have otherName : compare record.typeName typeName ≠ .eq := by simpa using sameName
    have unchanged :
        (if (!record.flags.isSynthetic && !classes.contains record.typeName) = true then
            classes.insert record.typeName record
          else
            classes)[typeName]? =
          classes[typeName]? := by
      split
      · rw [Std.TreeMap.getElem?_insert, if_neg otherName]
      · rfl
    rw [unchanged, if_neg (by simp [sameName]), Option.or_none]

/-- A map with further classes binds a name as before, or to the first of them that has the name. -/
theorem getElem?_insertAll (classes : ClassMap) (records : List ClassRecord) (typeName : String) :
    (classes.insertAll records)[typeName]? =
      classes[typeName]?.or (firstPlain? records typeName) := by
  induction records generalizing classes with
  | nil => rw [firstPlain?, List.find?_nil, Option.or_none, insertAll, List.foldl_nil]
  | cons first rest inductionHypothesis =>
      have both :
          firstPlain? (first :: rest) typeName =
            (firstPlain? [first] typeName).or (firstPlain? rest typeName) := by
        rw [firstPlain?, ← List.singleton_append, List.find?_append]
        rfl
      rw [both, ← Option.or_assoc, ← getElem?_insertFirst]
      exact inductionHypothesis (classes.insertFirst first)

/-- Classes in sequence are added one after the other. -/
theorem insertAll_append (classes : ClassMap) (first second : List ClassRecord) :
    classes.insertAll (first ++ second) = (classes.insertAll first).insertAll second :=
  List.foldl_append

end ClassMap

namespace Merging

/-- Visiting a class adds it to the map where it is the first of its name. -/
@[simp]
theorem visit_classes (merging : Merging) (record : ClassRecord) :
    (merging.visit record).classes = merging.classes.insertFirst record :=
  rfl

/-- Visiting a class counts it as seen. -/
@[simp]
theorem visit_seen (merging : Merging) (record : ClassRecord) :
    (merging.visit record).seen = merging.seen + 1 :=
  rfl

/-- Visiting a class counts it as kept if the map accepts it. -/
@[simp]
theorem visit_kept (merging : Merging) (record : ClassRecord) :
    (merging.visit record).kept = merging.kept + (merging.classes.accepts record).toNat :=
  rfl

/-- Seeing classes enters them and counts how many are seen and how many are kept. -/
theorem foldl_visit (merging : Merging) (records : List ClassRecord) :
    (records.foldl visit merging).classes = merging.classes.insertAll records
      ∧ (records.foldl visit merging).seen = merging.seen + records.length
      ∧ (records.foldl visit merging).kept + merging.classes.size =
          merging.kept + (merging.classes.insertAll records).size := by
  induction records generalizing merging with
  | nil => exact ⟨rfl, rfl, rfl⟩
  | cons first rest inductionHypothesis =>
      obtain ⟨sameClasses, allSeen, allKept⟩ := inductionHypothesis (merging.visit first)
      have oneKept :
          (merging.classes.insertFirst first).size =
            merging.classes.size + (merging.classes.accepts first).toNat := by
        rw [ClassMap.insertFirst]
        cases accepted : merging.classes.accepts first with
        | true =>
            have isNew := (Bool.and_eq_true_iff.mp accepted).2
            rw [Bool.not_eq_true'] at isNew
            rw [if_pos rfl, Std.TreeMap.size_insert, isNew]
            rfl
        | false => rfl
      refine ⟨sameClasses, ?_, ?_⟩
      · rw [List.foldl_cons, allSeen, visit_seen, List.length_cons]
        omega
      · rw [visit_classes, visit_kept, oneKept] at allKept
        rw [List.foldl_cons, ClassMap.insertAll, List.foldl_cons, ← ClassMap.insertAll]
        omega

end Merging

/-! What runs report. -/

/-- A journal with further events. -/
def Journal.reporting (journal : Journal) (events : List Event) : Journal :=
  { journal with events := journal.events ++ events.toArray }

/-- Reporting nothing keeps the journal. -/
@[simp]
theorem Journal.reporting_nil (journal : Journal) : journal.reporting [] = journal := by
  simp [reporting]

/-- Events reported one after the other are reported together. -/
@[simp]
theorem Journal.reporting_reporting (journal : Journal) (first second : List Event) :
    (journal.reporting first).reporting second = journal.reporting (first ++ second) := by
  simp [reporting]

namespace Run

/-- Reporting an event always succeeds and extends the journal by it. -/
theorem report_eq (event : Event) (before : Journal) :
    report event before = .ok () (before.reporting [event]) := by
  rw [Journal.reporting, ← Array.push_eq_append]
  rfl

/-- Reporting events always succeeds and extends the journal by them. -/
theorem reportAll_eq (events : List Event) (before : Journal) :
    reportAll events before = .ok () (before.reporting events) := by
  rw [reportAll, List.forM_eq_forM]
  induction events generalizing before with
  | nil =>
      rw [List.forM_nil, Journal.reporting_nil]
      rfl
  | cons first rest inductionHypothesis =>
      rw [List.forM_cons, bind_of_ok (report_eq first before), inductionHypothesis,
        Journal.reporting_reporting]
      rfl

end Run

namespace ClassSource

/-- Why an archive ends a merge, if it does. -/
def failure? (source : ClassSource) (path : String) : Option RunError :=
  if source.canLoad path then (source.stream path).failure else some (.unsupportedInput path)

/-- The class streams of several archives one after the other. -/
def classesOf (source : ClassSource) (paths : List String) : List ClassRecord :=
  paths.flatMap fun path => (source.stream path).classes

/-- What is reported about an archive of which so many classes are kept. -/
def mergedEvents (source : ClassSource) (path : String) (kept : Nat) : List Event :=
  .archiveStarted path :: (source.stream path).events
    ++ [.archiveMerged path (source.stream path).classes.length source.name kept]

/-- What is reported about an archive that ends a merge. -/
def failedEvents (source : ClassSource) (path : String) : List Event :=
  if source.canLoad path then .archiveStarted path :: (source.stream path).events else []

/-- What is reported about several archives, given how many classes of each are kept. -/
def allMergedEvents (source : ClassSource) (paths : List String) (kept : List Nat) : List Event :=
  (paths.zipWith source.mergedEvents kept).flatten

/-- The classes of archives in sequence are those of both parts. -/
theorem classesOf_append (source : ClassSource) (first second : List String) :
    source.classesOf (first ++ second) = source.classesOf first ++ source.classesOf second :=
  List.flatMap_append

variable
  {source : ClassSource}
  {path : String}
  {error : RunError}

/--
An archive that loads adds its classes to the map, and what is reported as kept is the growth of the
map.
-/
theorem mergeArchive_of_loads
    (loads : source.failure? path = none)
    (classes : ClassMap) :
    ∃ kept,
      classes.size + kept = (classes.insertAll (source.stream path).classes).size
        ∧ ∀ before,
            source.mergeArchive classes path before =
              .ok (classes.insertAll (source.stream path).classes)
                (before.reporting (source.mergedEvents path kept)) := by
  rw [failure?] at loads
  split at loads
  · next canLoad =>
      obtain ⟨sameClasses, allSeen, allKept⟩ :=
        Merging.foldl_visit { classes, seen := 0, kept := 0 } (source.stream path).classes
      rw [Nat.zero_add] at allSeen allKept
      refine ⟨_, (Nat.add_comm _ _).trans allKept, fun before => ?_⟩
      rw [mergeArchive, canLoad]
      change (Run.report (.archiveStarted path) >>= fun _ => _) before = _
      rw [bind_of_ok (Run.report_eq _ before), bind_of_ok (Run.reportAll_eq _ _), loads]
      dsimp only
      rw [allSeen, sameClasses, bind_of_ok (Run.report_eq _ _), Journal.reporting_reporting,
        Journal.reporting_reporting]
      rfl
  · cases loads

/-- An archive that does not load ends the merge. -/
theorem mergeArchive_of_failure
    (fails : source.failure? path = some error)
    (classes : ClassMap)
    (before : Journal) :
    source.mergeArchive classes path before =
      .error error (before.reporting (source.failedEvents path)) := by
  rw [failure?] at fails
  rw [failedEvents]
  split at fails
  · next canLoad =>
      rw [mergeArchive, canLoad]
      change (Run.report (.archiveStarted path) >>= fun _ => _) before = _
      rw [bind_of_ok (Run.report_eq _ before), bind_of_ok (Run.reportAll_eq _ _), fails,
        Journal.reporting_reporting]
      rfl
  · next cannotLoad =>
      cases fails
      rw [mergeArchive, Bool.eq_false_iff.mpr cannotLoad, if_neg Bool.false_ne_true,
        Journal.reporting_nil]
      rfl

/-- Archives that all load add their classes one after the other. -/
theorem foldlM_mergeArchive_of_loads
    {paths : List String}
    (load : ∀ path ∈ paths, source.failure? path = none)
    (classes : ClassMap) :
    ∃ kept : List Nat,
      kept.length = paths.length
        ∧ classes.size + total id kept = (classes.insertAll (source.classesOf paths)).size
        ∧ ∀ before,
            paths.foldlM source.mergeArchive classes before =
              .ok (classes.insertAll (source.classesOf paths))
                (before.reporting (source.allMergedEvents paths kept)) := by
  induction paths generalizing classes with
  | nil =>
      refine ⟨[], rfl, rfl, fun before => ?_⟩
      rw [allMergedEvents, List.zipWith_nil_left, List.flatten_nil, Journal.reporting_nil]
      rfl
  | cons first rest inductionHypothesis =>
      obtain ⟨firstKept, firstSize, firstMerged⟩ :=
        mergeArchive_of_loads (load first List.mem_cons_self) classes
      obtain ⟨restKept, sameLength, restSize, restMerged⟩ :=
        inductionHypothesis (fun path member => load path (List.mem_cons_of_mem _ member))
          (classes.insertAll (source.stream first).classes)
      have allClasses :
          source.classesOf (first :: rest) =
            (source.stream first).classes ++ source.classesOf rest :=
        List.flatMap_cons
      rw [allClasses, ClassMap.insertAll_append]
      refine ⟨firstKept :: restKept, by rw [List.length_cons, sameLength, List.length_cons], ?_, ?_⟩
      · rw [total_cons, ← restSize, ← firstSize, Nat.add_assoc]
        rfl
      · intro before
        rw [List.foldlM_cons, bind_of_ok (firstMerged before), restMerged,
          Journal.reporting_reporting]
        rfl

/-- A merge that succeeds has loaded all archives. -/
theorem foldlM_mergeArchive_eq_ok
    {paths : List String}
    {classes merged : ClassMap}
    {before after : Journal}
    (succeeded : paths.foldlM source.mergeArchive classes before = .ok merged after) :
    (∀ path ∈ paths, source.failure? path = none)
      ∧ merged = classes.insertAll (source.classesOf paths) := by
  induction paths generalizing classes before with
  | nil =>
      obtain ⟨rfl, -⟩ := Run.pure_eq_ok_iff.mp succeeded
      exact ⟨nofun, rfl⟩
  | cons first rest inductionHypothesis =>
      rw [List.foldlM_cons] at succeeded
      obtain ⟨middle, reached, firstMerged, restMerged⟩ := Run.bind_eq_ok_iff.mp succeeded
      cases firstLoads : source.failure? first with
      | some error =>
          rw [mergeArchive_of_failure firstLoads] at firstMerged
          cases firstMerged
      | none =>
          obtain ⟨_, -, merges⟩ := mergeArchive_of_loads firstLoads classes
          rw [merges before] at firstMerged
          cases firstMerged
          obtain ⟨restLoad, rfl⟩ := inductionHypothesis restMerged
          refine ⟨List.forall_mem_cons.mpr ⟨firstLoads, restLoad⟩, ?_⟩
          rw [← ClassMap.insertAll_append, classesOf, classesOf, List.flatMap_cons]

end ClassSource

end DexSurface
