import DexSurface.Archive.Package
import DexSurface.Proofs.Output.LastWrites
import DexSurface.Proofs.Output.SteadyRun

namespace DexSurface

/-!
# Names in a package

An entry enters a package only under a name that no earlier entry has.  Adding class files one after
the other therefore succeeds exactly if their names are distinct from each other and from those
before, and if the level at which they are deflated exists.
-/

namespace Package

/-- The names of the entries written so far. -/
def names (written : Array ArchiveEntry) : List String :=
  written.toList.map ArchiveEntry.name

variable
  {level : Int64}
  {before after : Journal}
  {written : Array ArchiveEntry}
  {file : String × ByteArray}
  {files : List (String × ByteArray)}

/-- Class files add their own names behind the names written so far. -/
theorem names_append_classEntries :
    names (written ++ files.map classEntry) = names written ++ files.map Prod.fst := by
  simp [names, classEntry, ArchiveEntry.plain, Function.comp_def]

/-- A class file can follow other entries if its name is new and the level exists. -/
theorem canFollow_classEntry_iff :
    canFollow level written (classEntry file) = true
      ↔ file.1 ∉ names written ∧ isLevel level = true := by
  have isTaken :
      (written.any fun other => other.name = file.1) = true ↔ file.1 ∈ names written := by
    rw [← Array.any_toList, List.any_eq_true, names, List.mem_map]
    simp
  have deflated :
      canFollow level written (classEntry file) =
        (!(written.any fun other => other.name = file.1) && isLevel level) := rfl
  rw [deflated, Bool.and_eq_true, Bool.not_eq_true', ← isTaken, Bool.not_eq_true]

/-- An entry is added exactly if it can follow those written so far. -/
theorem addEntry_eq_ok_iff
    {entry : ArchiveEntry}
    (output : before.output = some written) :
    addEntry level entry before = .ok () after
      ↔ canFollow level written entry = true
        ∧ { before with output := some (written.push entry) } = after := by
  have known : before.output.getD #[] = written := by rw [output, Option.getD_some]
  rw [addEntry, Run.bind_eq_ok_iff]
  constructor
  · rintro ⟨_, _, ⟨⟩, added⟩
    rw [known] at added
    split at added
    · next follows =>
        cases added
        exact ⟨follows, rfl⟩
    · cases added
  · rintro ⟨follows, rfl⟩
    refine ⟨before, before, rfl, ?_⟩
    rw [known, if_pos follows]
    rfl

/-- Class files enter one after the other if their names are new and distinct. -/
theorem addClasses_eq_ok_iff
    (files : List (String × ByteArray))
    (output : before.output = some written)
    (distinct : (names written).Nodup) :
    addClasses level files before = .ok () after
      ↔ (names written ++ files.map Prod.fst).Nodup
        ∧ (files = [] ∨ isLevel level = true)
        ∧ { before with output := some (written ++ files.map classEntry) } = after := by
  rw [addClasses, List.forM_eq_forM]
  induction files generalizing before written with
  | nil =>
      rw [List.forM_nil, Run.pure_eq_ok_iff]
      simp [distinct, ← output]
  | cons first rest inductionHypothesis =>
      rw [List.forM_cons, Run.bind_eq_ok_iff]
      have oneMore : names (written.push (classEntry first)) = names written ++ [first.1] := by
        simp [names, classEntry, ArchiveEntry.plain]
      constructor
      · rintro ⟨_, middle, firstAdded, restAdded⟩
        obtain ⟨follows, rfl⟩ := (addEntry_eq_ok_iff output).mp firstAdded
        obtain ⟨isNew, isLevel⟩ := canFollow_classEntry_iff.mp follows
        have stillDistinct : (names (written.push (classEntry first))).Nodup := by
          rw [oneMore]
          exact List.Nodup.append distinct (List.nodup_singleton _) (by simpa using isNew)
        obtain ⟨allDistinct, -, rfl⟩ := (inductionHypothesis rfl stillDistinct).mp restAdded
        refine ⟨?_, Or.inr isLevel, ?_⟩
        · simpa [oneMore] using allDistinct
        · simp
      · rintro ⟨allDistinct, someLevel, rfl⟩
        have isLevel := someLevel.resolve_left (List.cons_ne_nil _ _)
        have isNew : first.1 ∉ names written := by
          have disjoint := List.disjoint_of_nodup_append allDistinct
          exact fun member => disjoint member List.mem_cons_self
        refine ⟨(), _, (addEntry_eq_ok_iff output).mpr
          ⟨canFollow_classEntry_iff.mpr ⟨isNew, isLevel⟩, rfl⟩, ?_⟩
        have nextDistinct :
            (names (written.push (classEntry first)) ++ rest.map Prod.fst).Nodup := by
          simpa [oneMore] using allDistinct
        refine (inductionHypothesis rfl (List.Nodup.of_append_left nextDistinct)).mpr
          ⟨nextDistinct, Or.inr isLevel, ?_⟩
        simp

/-- Class files whose names stay distinct are appended to those written so far. -/
theorem addClasses_of_nodup
    {files : List (String × ByteArray)}
    (output : before.output = some written)
    (distinct : (names written ++ files.map Prod.fst).Nodup)
    (someLevel : files = [] ∨ isLevel level = true) :
    addClasses level files before =
      .ok () { before with output := some (written ++ files.map classEntry) } := by
  have stillDistinct : (names written).Nodup := List.Nodup.of_append_left distinct
  exact (addClasses_eq_ok_iff files output stillDistinct).mpr ⟨distinct, someLevel, rfl⟩

/-- An archive that splices no resources adds none. -/
theorem addResources_of_unspliced
    {configuration : Configuration}
    (unspliced : configuration.splicesResources = false)
    (files : Files) :
    addResources configuration files = pure 0 := by
  rw [addResources, unspliced]
  rfl

/--
Without resources an archive of class files can be written exactly if the names of the files are
distinct and, unless there is no file, the level exists.
-/
theorem exists_write_eq_ok_iff
    {configuration : Configuration}
    (unspliced : configuration.splicesResources = false)
    (files : Files)
    (tiers : OutputTiers)
    (before : Journal) :
    (∃ summary after, write configuration files tiers before = .ok summary after)
      ↔ tiers.names.Nodup
        ∧ (tiers.entries = [] ∨ isLevel configuration.compressionLevel = true) := by
  have allNames :
      tiers.names =
        names #[] ++ tiers.stubs.toList.map Prod.fst ++ tiers.skeletons.toList.map Prod.fst
          ++ tiers.restriction.toList.map Prod.fst := by
    simp [OutputTiers.names, OutputTiers.entries, names]
  have noneDistinct : (names #[]).Nodup := List.nodup_nil
  rw [write, addResources_of_unspliced unspliced files]
  simp only [Run.bind_eq_ok_iff]
  constructor
  · rintro ⟨summary, after, _, _, ⟨⟩, _, _, ⟨⟩, _, _, stubsAdded, _, _, ⟨⟩, _, _, skeletonsAdded,
      _, _, restrictionAdded, -⟩
    obtain ⟨stubsDistinct, stubsLevel, rfl⟩ :=
      (addClasses_eq_ok_iff _ rfl noneDistinct).mp stubsAdded
    rw [← names_append_classEntries] at stubsDistinct
    obtain ⟨bothDistinct, skeletonsLevel, rfl⟩ :=
      (addClasses_eq_ok_iff _ rfl stubsDistinct).mp skeletonsAdded
    rw [← names_append_classEntries] at bothDistinct
    obtain ⟨allDistinct, restrictionLevel, rfl⟩ :=
      (addClasses_eq_ok_iff _ rfl bothDistinct).mp restrictionAdded
    rw [names_append_classEntries, names_append_classEntries] at allDistinct
    refine ⟨allNames ▸ allDistinct, ?_⟩
    by_cases isLevel : isLevel configuration.compressionLevel = true
    · exact Or.inr isLevel
    · left
      rw [OutputTiers.entries, stubsLevel.resolve_right isLevel,
        skeletonsLevel.resolve_right isLevel, restrictionLevel.resolve_right isLevel]
      rfl
  · rintro ⟨distinct, someLevel⟩
    rw [allNames] at distinct
    rw [OutputTiers.entries, List.append_eq_nil_iff, List.append_eq_nil_iff] at someLevel
    have bothDistinct := List.Nodup.of_append_left distinct
    have stubsDistinct := List.Nodup.of_append_left bothDistinct
    have stubsLevel := someLevel.imp_left fun none => none.1.1
    have skeletonsLevel := someLevel.imp_left fun none => none.1.2
    have restrictionLevel := someLevel.imp_left fun none => none.2
    refine ⟨_, _, (), _, rfl, (), _, rfl,
      (), _, addClasses_of_nodup rfl stubsDistinct stubsLevel, (), _, rfl,
      (), _, addClasses_of_nodup rfl ?_ skeletonsLevel,
      (), _, addClasses_of_nodup rfl ?_ restrictionLevel, _, _, rfl, rfl⟩
    · rw [names_append_classEntries]
      exact bothDistinct
    · rw [names_append_classEntries, names_append_classEntries]
      exact distinct

end Package

end DexSurface
