import Mathlib.Data.List.Forall2
import Mathlib.Data.List.ReduceOption
import DexSurface.Proofs.Output.Emission
import DexSurface.Proofs.Output.TierWrites

namespace DexSurface

/-!
# A pass over the classes of a tier

A pass emits the trees of some classes in order and enters their class files into one tier.  Its
invariant is about the files entered so far: the tiers are those before the pass with these files
written, and the journal reports what their entering reports.
-/

namespace Extraction

open ClassFile (ClassTree)

/-- The class file of the tree that is emitted for a class. -/
def IsFileOf
    (tree? : ClassRecord → Run (Option ClassTree))
    (record : ClassRecord)
    (content : ByteArray) : Prop :=
  ∃ tree bytes,
    (tree? record).Gives (some tree)
      ∧ tree.write = .ok bytes
      ∧ content = bytes.toByteArray

/-- What a class adds to a tier. -/
def Adds
    (tier : Tier)
    (tree? : ClassRecord → Run (Option ClassTree))
    (record : ClassRecord) : Option TierWrite → Prop
  | none => (tree? record).Gives none
  | some file =>
      file.tier = tier
        ∧ file.name = Descriptor.entryName record.typeName
        ∧ IsFileOf tree? record file.content

/-- A tier has exactly one entry for each of some classes, and it holds the class's own file. -/
structure HoldsExactly
    (files : Std.TreeMap String ByteArray)
    (records : List ClassRecord)
    (tree? : ClassRecord → Run (Option ClassTree)) : Prop where
  names : files.keys.Perm (records.map fun record => Descriptor.entryName record.typeName)
  contents :
    ∀ record ∈ records,
      ∃ content,
        files[Descriptor.entryName record.typeName]? = some content
          ∧ IsFileOf tree? record content

variable
  {tier : Tier}
  {tree? : ClassRecord → Run (Option ClassTree)}
  {records : List ClassRecord}
  {files : List (Option TierWrite)}
  {before after : Journal}
  {tiers result : OutputTiers}

/-- Reporting a list of events extends the journal by them. -/
theorem extends_reportAll
    (events : List Event)
    (reported : Run.reportAll events before = .ok () after) :
    Run.Extends (· ∈ events) before after := by
  rw [Run.reportAll, List.forM_eq_forM] at reported
  induction events generalizing before with
  | nil =>
      rw [List.forM_nil] at reported
      rw [(Run.pure_eq_ok_iff.mp reported).2]
      exact .refl after
  | cons first rest inductionHypothesis =>
      rw [List.forM_cons] at reported
      obtain ⟨_, middle, firstReported, restReported⟩ := Run.bind_eq_ok_iff.mp reported
      exact (Run.extends_of_report firstReported List.mem_cons_self).trans
        ((inductionHypothesis restReported).mono fun _ member => List.mem_cons_of_mem _ member)

/-- Entering the class file of a tree writes it and reports what its entering reports. -/
theorem enter_eq_ok
    {tree : ClassTree}
    (succeeded : enter tier tiers tree before = .ok result after) :
    ∃ bytes,
      tree.write = .ok bytes
        ∧ result = tiers.write ⟨tier, tree.entryName, bytes.toByteArray⟩
        ∧ Run.Extends (· ∈ tiers.events ⟨tier, tree.entryName, bytes.toByteArray⟩)
            before after := by
  rw [enter] at succeeded
  obtain ⟨bytes, _, written, rest⟩ := Run.bind_eq_ok_iff.mp succeeded
  obtain ⟨writeResult, rfl⟩ := Run.lift_eq_ok_iff.mp written
  obtain ⟨_, _, reported, given⟩ := Run.bind_eq_ok_iff.mp rest
  obtain ⟨rfl, rfl⟩ := Run.pure_eq_ok_iff.mp given
  refine ⟨bytes, ?_, rfl, extends_reportAll _ reported⟩
  cases treeResult : tree.write with
  | error error =>
      rw [treeResult] at writeResult
      cases writeResult
  | ok value =>
      rw [treeResult] at writeResult
      cases writeResult
      rfl

/-- One class of a pass adds its file, if it has one. -/
theorem enter?_eq_ok
    {record : ClassRecord}
    (steady : Run.IsSteady Event.IsQuiet (tree? record))
    (named : ∀ tree, (tree? record).Gives (some tree) → tree.name = record.internalName)
    (succeeded : (tree? record >>= enter? tier tiers) before = .ok result after) :
    ∃ file?,
      Adds tier tree? record file?
        ∧ result = tiers.writeAll file?.toList
        ∧ Run.Extends (fun event => event.IsQuiet ∨ event ∈ tiers.eventsAll file?.toList)
            before after := by
  obtain ⟨given?, middle, emitted, entered⟩ := Run.bind_eq_ok_iff.mp succeeded
  obtain ⟨gives, quiet⟩ := steady.gives emitted
  cases given? with
  | none =>
      obtain ⟨rfl, rfl⟩ := Run.pure_eq_ok_iff.mp entered
      exact ⟨none, gives, rfl, quiet.mono fun _ isQuiet => Or.inl isQuiet⟩
  | some tree =>
      obtain ⟨bytes, written, rfl, reported⟩ := enter_eq_ok entered
      refine ⟨some ⟨tier, tree.entryName, bytes.toByteArray⟩, ⟨rfl, ?_, ?_⟩, rfl, ?_⟩
      · rw [Descriptor.entryName, ClassTree.entryName, named tree gives]
        rfl
      · exact ⟨tree, bytes, gives, written, rfl⟩
      · refine (quiet.mono fun _ isQuiet => Or.inl isQuiet).trans (reported.mono ?_)
        intro event member
        exact Or.inr (List.mem_append_left _ member)

/-- A pass adds the files of its classes in order. -/
theorem foldlM_enter?_eq_ok
    (steady : ∀ record, Run.IsSteady Event.IsQuiet (tree? record))
    (named : ∀ record tree, (tree? record).Gives (some tree) → tree.name = record.internalName)
    (records : List ClassRecord)
    (succeeded :
      records.foldlM (fun tiers record => tree? record >>= enter? tier tiers) tiers before
        = .ok result after) :
    ∃ files,
      List.Forall₂ (Adds tier tree?) records files
        ∧ result = tiers.writeAll files.reduceOption
        ∧ Run.Extends
            (fun event => event.IsQuiet ∨ event ∈ tiers.eventsAll files.reduceOption)
            before after := by
  induction records generalizing tiers before with
  | nil =>
      rw [List.foldlM_nil] at succeeded
      obtain ⟨rfl, rfl⟩ := Run.pure_eq_ok_iff.mp succeeded
      exact ⟨[], .nil, rfl, .refl before⟩
  | cons first rest inductionHypothesis =>
      rw [List.foldlM_cons] at succeeded
      obtain ⟨middleTiers, middle, firstEntered, restEntered⟩ := Run.bind_eq_ok_iff.mp succeeded
      obtain ⟨file?, adds, rfl, firstReported⟩ :=
        enter?_eq_ok (steady first) (named first) firstEntered
      obtain ⟨files, addAll, rfl, restReported⟩ := inductionHypothesis restEntered
      have sameFiles : (file? :: files).reduceOption = file?.toList ++ files.reduceOption := by
        cases file? <;> rfl
      refine ⟨file? :: files, .cons adds addAll, ?_, ?_⟩
      · rw [sameFiles, OutputTiers.writeAll, OutputTiers.writeAll, OutputTiers.writeAll,
          List.foldl_append]
      · rw [sameFiles, OutputTiers.eventsAll_append]
        refine (firstReported.mono ?_).trans (restReported.mono ?_)
        · intro event known
          exact known.imp_right fun member => List.mem_append_left _ member
        · intro event known
          exact known.imp_right fun member => List.mem_append_right _ member

/-- Whatever a pass adds comes from one of its classes. -/
theorem exists_adds_of_mem
    (addAll : List.Forall₂ (Adds tier tree?) records files)
    {file : TierWrite}
    (member : file ∈ files.reduceOption) :
    ∃ record ∈ records, Adds tier tree? record (some file) := by
  rw [List.reduceOption_mem_iff] at member
  induction addAll with
  | nil => cases member
  | @cons record file? rest restFiles adds addRest inductionHypothesis =>
      rcases List.mem_cons.mp member with isFirst | inRest
      · exact ⟨record, List.mem_cons_self, isFirst ▸ adds⟩
      · obtain ⟨other, inRecords, otherAdds⟩ := inductionHypothesis inRest
        exact ⟨other, List.mem_cons_of_mem _ inRecords, otherAdds⟩

/-- The files that classes add to a tier are files of that tier. -/
theorem tier_of_mem
    (addAll : List.Forall₂ (Adds tier tree?) records files)
    {file : TierWrite}
    (member : file ∈ files.reduceOption) :
    file.tier = tier := by
  obtain ⟨_, -, adds⟩ := exists_adds_of_mem addAll member
  exact adds.1

/-- Each class of a pass adds its part. -/
theorem exists_mem_of_adds
    (addAll : List.Forall₂ (Adds tier tree?) records files)
    {record : ClassRecord}
    (member : record ∈ records) :
    ∃ file? ∈ files, Adds tier tree? record file? := by
  induction addAll with
  | nil => cases member
  | @cons first file? rest restFiles adds addRest inductionHypothesis =>
      rcases List.mem_cons.mp member with isFirst | inRest
      · exact ⟨file?, List.mem_cons_self, isFirst ▸ adds⟩
      · obtain ⟨other, inFiles, otherAdds⟩ := inductionHypothesis inRest
        exact ⟨other, List.mem_cons_of_mem _ inFiles, otherAdds⟩

/-- The names that a pass writes are entries of its classes, in their order. -/
theorem names_sublist
    (addAll : List.Forall₂ (Adds tier tree?) records files) :
    (files.reduceOption.map TierWrite.name).Sublist
      (records.map fun record => Descriptor.entryName record.typeName) := by
  induction addAll with
  | nil => exact List.Sublist.slnil
  | @cons record file? rest restFiles adds addRest inductionHypothesis =>
      cases file? with
      | none => exact inductionHypothesis.cons _
      | some file =>
          rw [List.reduceOption_cons_of_some, List.map_cons, List.map_cons, adds.2.1]
          exact inductionHypothesis.cons_cons _

/-- A tier into which a pass has written its files and nothing else holds exactly these. -/
theorem holdsExactly_of_adds
    {map : Std.TreeMap String ByteArray}
    (addAll : List.Forall₂ (Adds tier tree?) records files)
    (distinct : (records.map fun record => Descriptor.entryName record.typeName).Nodup)
    (stands :
      ∀ name content,
        map[name]? = some content ↔ (⟨tier, name, content⟩ : TierWrite) ∈ files.reduceOption)
    (keeps : ClassRecord → Bool)
    (kept : ∀ record tree, (tree? record).Gives (some tree) → keeps record = true)
    (dropped : ∀ record, (tree? record).Gives none → keeps record = false) :
    HoldsExactly map (records.filter keeps) tree? := by
  have contents :
      ∀ record ∈ records.filter keeps,
        ∃ content,
          map[Descriptor.entryName record.typeName]? = some content
            ∧ IsFileOf tree? record content := by
    intro record member
    obtain ⟨inRecords, isKept⟩ := List.mem_filter.mp member
    obtain ⟨file?, inFiles, adds⟩ := exists_mem_of_adds addAll inRecords
    cases file? with
    | none =>
        rw [dropped record adds] at isKept
        cases isKept
    | some file =>
        obtain ⟨sameTier, sameName, isFile⟩ := adds
        refine ⟨file.content, (stands _ _).mpr ?_, isFile⟩
        rw [← sameTier, ← sameName]
        exact List.reduceOption_mem_iff.mpr inFiles
  refine ⟨?_, contents⟩
  rw [List.perm_ext_iff_of_nodup Std.TreeMap.nodup_keys
    (distinct.sublist (List.filter_sublist.map _))]
  intro name
  rw [Std.TreeMap.mem_keys]
  constructor
  · intro present
    have stored : map[name]? = some map[name] := Std.TreeMap.getElem?_eq_some_getElem present
    obtain ⟨record, inRecords, -, sameName, tree, _, gives, -, -⟩ :=
      exists_adds_of_mem addAll ((stands _ _).mp stored)
    rw [show name = _ from sameName]
    exact List.mem_map_of_mem (List.mem_filter.mpr ⟨inRecords, kept record tree gives⟩)
  · intro member
    obtain ⟨record, isKept, rfl⟩ := List.mem_map.mp member
    obtain ⟨content, stored, -⟩ := contents record isKept
    rw [← Std.TreeMap.contains_iff_mem, Std.TreeMap.contains_eq_isSome_getElem?, stored,
      Option.isSome_some]

end Extraction

end DexSurface
