import Mathlib
import DexSurface.Proofs.GivenValues
import DexSurface.Proofs.Output.PackagedNames

namespace DexSurface

/-!
# What a package lists

A written archive lists the class files of the three tiers and then copies of the wanted entries of
the resource archive.  The step of copying adds at most one entry; over all members it adds one for
each that is wanted, in their order, and counts them.
-/

namespace Package

/-- A copy keeps the name and the content of an entry, and stores what was stored. -/
structure IsCopyOf (source : OpenEntry) (copy : ArchiveEntry) : Prop where
  name : copy.name = source.name
  compression : copy.compression = source.compression
  content : source.content.all = .ok copy.content
  isPlain : copy.modified = .earliest ∧ copy.mode = ArchiveEntry.plainMode

/-- Entries list the class files of a tier, deflated and in strictly ascending order of names. -/
structure ListsTier
    (files : Std.TreeMap String ByteArray)
    (entries : List ArchiveEntry) : Prop where
  ascending : entries.Pairwise fun first second => first.name < second.name
  isFile :
    ∀ entry ∈ entries, files[entry.name]? = some entry.content ∧ entry.compression = .deflated
  complete : ∀ name ∈ files, ∃ entry ∈ entries, entry.name = name

/-- The entries of an archive by their kinds. -/
structure Sections where
  stubs : List ArchiveEntry
  skeletons : List ArchiveEntry
  restriction : List ArchiveEntry
  resources : List ArchiveEntry

/-- All entries in order. -/
def Sections.all (sections : Sections) : List ArchiveEntry :=
  sections.stubs ++ sections.skeletons ++ sections.restriction ++ sections.resources

variable
  {configuration : Configuration}
  {level : Int64}
  {files : Files}
  {tiers : OutputTiers}
  {summary : PackageSummary}
  {before after : Journal}
  {written : Array ArchiveEntry}

/-! The class files of a tier. -/

/-- The entries made of a map list its files in ascending order. -/
theorem listsTier_classEntries (files : Std.TreeMap String ByteArray) :
    ListsTier files (files.toList.map classEntry) := by
  constructor
  case ascending =>
    rw [List.pairwise_map]
    exact Std.TreeMap.ordered_keys_toList.imp compare_lt_iff_lt.mp
  case isFile =>
    intro entry member
    obtain ⟨file, inFiles, rfl⟩ := List.mem_map.mp member
    exact ⟨Std.TreeMap.mem_toList_iff_getElem?_eq_some.mp inFiles, rfl⟩
  case complete =>
    intro name member
    have stored := Std.TreeMap.getElem?_eq_some_getElem member
    exact ⟨_, List.mem_map_of_mem (Std.TreeMap.mem_toList_iff_getElem?_eq_some.mpr stored), rfl⟩

/-! The copies of resources. -/

/-- Changing the error of a result keeps its values. -/
theorem mapError_eq_ok_iff
    {change : ε → δ}
    {result : Except ε α}
    {value : α} :
    result.mapError change = .ok value ↔ result = .ok value := by
  cases result <;> simp [Except.mapError]

/-- A resource is copied with its name, its content and the way it was stored. -/
theorem isCopyOf_of_resourceEntry
    {source : OpenEntry}
    {copy : ArchiveEntry}
    (given : resourceEntry source = .ok copy) :
    IsCopyOf source copy := by
  obtain ⟨content, contentGiven, same⟩ := isGiving_except.of_bind given
  obtain rfl := Except.ok.inj same
  exact ⟨rfl, rfl, mapError_eq_ok_iff.mp contentGiven, rfl, rfl⟩

/-- A member is opened; if it is wanted, a copy of it is added and counted. -/
theorem addResource_eq_ok
    {count result : Nat}
    {member : Member}
    (output : before.output = some written)
    (succeeded : addResource configuration count member before = .ok result after) :
    ∃ source copies,
      member.opened = .ok source
        ∧ List.Forall₂ IsCopyOf ([source].filter (isWanted configuration)) copies
        ∧ result = count + copies.length
        ∧ after = { before with output := some (written ++ copies) } := by
  obtain ⟨source, _, opened, rest⟩ := Run.bind_eq_ok_iff.mp succeeded
  obtain ⟨openedGiven, rfl⟩ := Run.lift_eq_ok_iff.mp opened
  have isOpened := mapError_eq_ok_iff.mp openedGiven
  split at rest
  · next wanted =>
      obtain ⟨copy, _, copied, rest⟩ := Run.bind_eq_ok_iff.mp rest
      obtain ⟨copyGiven, rfl⟩ := Run.lift_eq_ok_iff.mp copied
      obtain ⟨_, _, added, given⟩ := Run.bind_eq_ok_iff.mp rest
      obtain ⟨-, rfl⟩ := (addEntry_eq_ok_iff output).mp added
      obtain ⟨rfl, rfl⟩ := Run.pure_eq_ok_iff.mp given
      refine ⟨source, [copy], isOpened, ?_, rfl, by simp⟩
      rw [List.filter_cons_of_pos wanted]
      exact .cons (isCopyOf_of_resourceEntry copyGiven) .nil
  · next unwanted =>
      obtain ⟨rfl, rfl⟩ := Run.pure_eq_ok_iff.mp rest
      refine ⟨source, [], isOpened, ?_, rfl, by simp [← output]⟩
      rw [List.filter_cons_of_neg unwanted]
      exact .nil

/-- Over all members the wanted ones are copied in order. -/
theorem foldlM_addResource_eq_ok
    {count result : Nat}
    (members : List Member)
    (output : before.output = some written)
    (succeeded : members.foldlM (addResource configuration) count before = .ok result after) :
    ∃ sources copies,
      members.mapM Member.opened = .ok sources
        ∧ List.Forall₂ IsCopyOf (sources.filter (isWanted configuration)) copies
        ∧ result = count + copies.length
        ∧ after = { before with output := some (written ++ copies) } := by
  induction members generalizing count before written with
  | nil =>
      rw [List.foldlM_nil] at succeeded
      obtain ⟨rfl, rfl⟩ := Run.pure_eq_ok_iff.mp succeeded
      exact ⟨[], [], rfl, .nil, rfl, by simp [← output]⟩
  | cons first rest inductionHypothesis =>
      rw [List.foldlM_cons] at succeeded
      obtain ⟨middleCount, middle, firstAdded, restAdded⟩ := Run.bind_eq_ok_iff.mp succeeded
      obtain ⟨source, firstCopies, firstOpened, firstCopied, rfl, rfl⟩ :=
        addResource_eq_ok output firstAdded
      obtain ⟨sources, restCopies, restOpened, restCopied, rfl, rfl⟩ :=
        inductionHypothesis rfl restAdded
      refine ⟨source :: sources, firstCopies ++ restCopies, ?_, ?_, ?_, ?_⟩
      · rw [List.mapM_cons, firstOpened, restOpened]
        rfl
      · have parts : (source :: sources).filter (isWanted configuration) =
            [source].filter (isWanted configuration)
              ++ sources.filter (isWanted configuration) := by
          rw [← List.filter_append, List.singleton_append]
        rw [parts]
        exact List.rel_append firstCopied restCopied
      · rw [List.length_append, Nat.add_assoc]
      · simp [← Array.toList_inj]

/-- A copy of a known entry is that entry with the fixed time and mode. -/
theorem IsCopyOf.eq_plain
    {source copy : ArchiveEntry}
    (isCopy : IsCopyOf (.ofEntry source) copy) :
    copy = .plain source.name source.compression source.content := by
  obtain ⟨sameName, sameCompression, sameContent, modified, mode⟩ := isCopy
  rcases copy with ⟨name, compression, content, time, copyMode⟩
  cases sameContent
  cases sameName
  cases sameCompression
  cases modified
  cases mode
  rfl

/-! The whole archive. -/

/-- What stands in the resources of an archive. -/
structure ListsResources
    (configuration : Configuration)
    (files : Files)
    (resources : List ArchiveEntry) : Prop where
  /-- Resources are wanted only if one of the two options is on. -/
  unspliced : configuration.splicesResources = false → resources = []
  /-- The wanted entries of the resource archive are copied in their order. -/
  spliced :
    configuration.splicesResources = true →
      ∃ archive sources,
        listing files configuration.resourceArchive = .ok archive
          ∧ archive.openAll = .ok sources
          ∧ List.Forall₂ IsCopyOf (sources.filter (isWanted configuration)) resources
  /-- Of a known archive the entries are copied that are no directories and have a wanted name. -/
  known :
    configuration.splicesResources = true →
      ∀ entries,
        files.find? configuration.resourceArchive = some (.archive entries) →
          resources =
            (entries.filter fun entry =>
                !entry.isDirectory && configuration.isSpliced entry.name).map
              fun entry => .plain entry.name entry.compression entry.content

/-- What stands in a written archive, and what its summary counts. -/
structure IsPackage
    (configuration : Configuration)
    (files : Files)
    (tiers : OutputTiers)
    (summary : PackageSummary)
    (written : Array ArchiveEntry)
    (sections : Sections) : Prop where
  lists : written.toList = sections.all
  isPlain :
    ∀ entry ∈ written, entry.modified = .earliest ∧ entry.mode = ArchiveEntry.plainMode
  stubs : ListsTier tiers.stubs sections.stubs
  skeletons : ListsTier tiers.skeletons sections.skeletons
  restriction :
    sections.restriction =
      tiers.restriction.toList.map fun file => .plain file.1 .deflated file.2
  resources : ListsResources configuration files sections.resources
  stubCount : summary.stubs = sections.stubs.length
  skeletonCount : summary.skeletons = sections.skeletons.length
  restrictionCount : summary.restriction.toNat = sections.restriction.length
  resourceCount : summary.resources = sections.resources.length
  entryCount : summary.entries = written.size

/-- The sections of class files, with the resources behind them. -/
def sectionsOf (tiers : OutputTiers) (resources : List ArchiveEntry) : Sections where
  stubs := tiers.stubs.toList.map classEntry
  skeletons := tiers.skeletons.toList.map classEntry
  restriction := tiers.restriction.toList.map classEntry
  resources

/-- The sections together are the class files followed by the resources. -/
theorem all_sectionsOf (tiers : OutputTiers) (resources : List ArchiveEntry) :
    (sectionsOf tiers resources).all = tiers.entries.map classEntry ++ resources := by
  simp [sectionsOf, Sections.all, OutputTiers.entries]

/-- Class files are written first; the archive then has them in the order of the tiers. -/
theorem exists_addResources_of_write
    (succeeded : write configuration files tiers before = .ok summary after) :
    ∃ middle count,
      middle.output = some (tiers.entries.map classEntry).toArray
        ∧ addResources configuration files middle = .ok count after
        ∧ summary = {
            stubs := tiers.stubs.size
            skeletons := tiers.skeletons.size
            restriction := tiers.restriction.isSome
            resources := count } := by
  have noneDistinct : (names #[]).Nodup := List.nodup_nil
  rw [write] at succeeded
  simp only [Run.bind_eq_ok_iff] at succeeded
  obtain ⟨_, _, ⟨⟩, _, _, ⟨⟩, _, _, stubsAdded, _, _, ⟨⟩, _, _, skeletonsAdded, _, _,
    restrictionAdded, count, _, resourcesAdded, given⟩ := succeeded
  obtain ⟨stubsDistinct, -, rfl⟩ := (addClasses_eq_ok_iff _ rfl noneDistinct).mp stubsAdded
  rw [← names_append_classEntries] at stubsDistinct
  obtain ⟨bothDistinct, -, rfl⟩ := (addClasses_eq_ok_iff _ rfl stubsDistinct).mp skeletonsAdded
  rw [← names_append_classEntries] at bothDistinct
  obtain ⟨-, -, rfl⟩ := (addClasses_eq_ok_iff _ rfl bothDistinct).mp restrictionAdded
  obtain ⟨rfl, rfl⟩ := Run.pure_eq_ok_iff.mp given
  refine ⟨_, count, ?_, resourcesAdded, rfl⟩
  simp [OutputTiers.entries]

/-- Copies of the wanted entries of a known archive are these entries, made plain. -/
theorem eq_map_plain_of_copied
    {entries resources : List ArchiveEntry}
    (copied :
      List.Forall₂ IsCopyOf
        ((entries.map OpenEntry.ofEntry).filter (isWanted configuration)) resources) :
    resources =
      (entries.filter fun entry => !entry.isDirectory && configuration.isSpliced entry.name).map
        fun entry => .plain entry.name entry.compression entry.content := by
  rw [List.filter_map, List.forall₂_map_left_iff] at copied
  symm
  rw [← List.forall₂_eq_eq_eq, List.forall₂_map_left_iff]
  exact copied.imp fun _ _ isCopy => isCopy.eq_plain.symm

/-- Resources are listed behind what was written before, and counted. -/
theorem addResources_eq_ok
    {count : Nat}
    (output : before.output = some written)
    (succeeded : addResources configuration files before = .ok count after) :
    ∃ resources,
      ListsResources configuration files resources
        ∧ count = resources.length
        ∧ after.output = some (written ++ resources) := by
  rw [addResources] at succeeded
  split at succeeded
  · next splices =>
      obtain ⟨_, reported, ⟨⟩, rest⟩ := Run.bind_eq_ok_iff.mp succeeded
      obtain ⟨archive, _, listed, added⟩ := Run.bind_eq_ok_iff.mp rest
      obtain ⟨isListing, rfl⟩ := Run.lift_eq_ok_iff.mp listed
      obtain ⟨sources, copies, opened, copied, counted, rfl⟩ :=
        foldlM_addResource_eq_ok archive.members (by exact output) added
      refine ⟨copies, ⟨?unspliced, fun _ => ⟨archive, sources, isListing, opened, copied⟩, ?known⟩,
        by simpa using counted, rfl⟩
      case unspliced => simp [splices]
      case known =>
        intro _ entries found
        rw [listing, found] at isListing
        obtain rfl := Except.ok.inj (mapError_eq_ok_iff.mp isListing)
        obtain rfl := Except.ok.inj ((Listing.openAll_ofEntries entries).symm.trans opened)
        exact eq_map_plain_of_copied copied
  · next splicesNone =>
      obtain ⟨rfl, rfl⟩ := Run.pure_eq_ok_iff.mp succeeded
      refine ⟨[], ⟨fun _ => rfl, fun splices => absurd splices splicesNone,
        fun splices => absurd splices splicesNone⟩, rfl, by simpa using output⟩

/-- Resources have the earliest time and the plain mode. -/
theorem ListsResources.isPlain
    {resources : List ArchiveEntry}
    (lists : ListsResources configuration files resources) :
    ∀ entry ∈ resources, entry.modified = .earliest ∧ entry.mode = ArchiveEntry.plainMode := by
  by_cases splices : configuration.splicesResources = true
  case pos =>
    obtain ⟨_, _, -, -, copied⟩ := lists.spliced splices
    intro entry member
    obtain ⟨place, inRange, rfl⟩ := List.getElem_of_mem member
    rw [List.forall₂_iff_get] at copied
    exact (copied.2 place (copied.1 ▸ inRange) inRange).isPlain
  case neg =>
    rw [lists.unspliced (Bool.not_eq_true _ ▸ splices)]
    simp

/--
A written archive lists the stubs and the skeletons, each in ascending order of names, the type of
the restriction, and the wanted resources in the order of their archive; its summary counts them.
Without an option that wants resources, no archive of resources is read.
-/
theorem isPackage_of_write
    (succeeded : write configuration files tiers before = .ok summary after) :
    (∃ written sections,
        after.output = some written
          ∧ IsPackage configuration files tiers summary written sections)
      ∧ (configuration.appendResourceBlocks = false → configuration.appendResourceFiles = false →
          ∀ path others,
            write { configuration with resourceArchive := path } others tiers before =
              .ok summary after) := by
  constructor
  · obtain ⟨middle, count, output, added, rfl⟩ := exists_addResources_of_write succeeded
    obtain ⟨resources, lists, rfl, appended⟩ := addResources_eq_ok output added
    have restrictionCount :
        tiers.restriction.isSome.toNat = (tiers.restriction.toList.map classEntry).length := by
      cases tiers.restriction <;> rfl
    refine ⟨_, sectionsOf tiers resources, appended, ?_⟩
    constructor
    case lists => simp [all_sectionsOf]
    case isPlain =>
      intro entry member
      have byKind : entry ∈ tiers.entries.map classEntry ∨ entry ∈ resources := by
        simpa using member
      rcases byKind with inClasses | inResources
      · obtain ⟨file, -, rfl⟩ := List.mem_map.mp inClasses
        exact ⟨rfl, rfl⟩
      · exact lists.isPlain entry inResources
    case stubs => exact listsTier_classEntries tiers.stubs
    case skeletons => exact listsTier_classEntries tiers.skeletons
    case restriction => rfl
    case resources => exact lists
    case stubCount => simp [sectionsOf]
    case skeletonCount => simp [sectionsOf]
    case restrictionCount => exact restrictionCount
    case resourceCount => rfl
    case entryCount =>
      rw [PackageSummary.entries, restrictionCount]
      simp [OutputTiers.entries, Nat.add_assoc]
  · intro noBlocks noFiles path others
    have unspliced : configuration.splicesResources = false := by
      rw [Configuration.splicesResources, noBlocks, noFiles, Bool.or_false]
    rw [← succeeded, write, write, addResources_of_unspliced unspliced files,
      addResources_of_unspliced (by exact unspliced) others]

/-! A package of two stubs and of resources among which there is a directory. -/

def frameworkEntries : List ArchiveEntry :=
  [ .plain "AndroidManifest.xml" .deflated ⟨#[1]⟩,
    .plain "res/" .stored .empty,
    .plain "resources.arsc" .stored ⟨#[2]⟩ ]

def frameworkFiles : Files :=
  .ofList [("r", .archive frameworkEntries)]

def splicingFramework : Configuration :=
  { Configuration.standard with resourceArchive := "r" }

def twoStubs : OutputTiers where
  stubs :=
    ((∅ : Std.TreeMap String ByteArray).insert "pkg/B.class" ⟨#[4]⟩).insert "pkg/A.class" ⟨#[3]⟩
  skeletons := ∅
  restriction := none

def splicedStubs : Journal where
  events := #[.writingStubs 2, .writingSkeletons 0, .writingResources "r"]
  usesRestrictions := false
  output :=
    some #[
      .plain "pkg/A.class" .deflated ⟨#[3]⟩,
      .plain "pkg/B.class" .deflated ⟨#[4]⟩,
      .plain "AndroidManifest.xml" .deflated ⟨#[1]⟩,
      .plain "resources.arsc" .stored ⟨#[2]⟩]

/-- Two stubs are written in front of two resources of a source archive. -/
theorem isPackage_splicedStubs :
    let summary := { stubs := 2, skeletons := 0, restriction := false, resources := 2 }
    write splicingFramework frameworkFiles twoStubs .empty = .ok summary splicedStubs
      ∧ ∃ written sections,
          splicedStubs.output = some written
            ∧ IsPackage splicingFramework frameworkFiles twoStubs summary written sections := by
  have succeeded :
      write splicingFramework frameworkFiles twoStubs .empty =
        .ok { stubs := 2, skeletons := 0, restriction := false, resources := 2 } splicedStubs := by
    cbv
  exact ⟨succeeded, (isPackage_of_write succeeded).1⟩

end Package

end DexSurface
