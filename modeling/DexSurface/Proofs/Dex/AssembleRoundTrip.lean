import DexSurface.Proofs.Dex.AssembledImage

namespace DexSurface

namespace Dex

open Dex.Numbering (Denotes forall₂_denotes)

/-!
# Reading undoes assembling

An image of readable drafts is parsed, and its classes are the ones that the drafts mean, in their
order, whichever way their entries were numbered.
-/

section Classes

variable {image : Image} {tables : EntryTables} {drafts : List ClassDraft}

/-- Classes are read in a row if each is read at its index. -/
theorem classesFrom_eq
    {records : List ClassRecord}
    {start : Nat}
    (readEach :
      ∀ {index : Nat} {record : ClassRecord},
        records[index]? = some record → image.classRecord (start + index) = .ok record) :
    image.classesFrom start records.length = .ok records := by
  induction records generalizing start with
  | nil => rfl
  | cons first rest inductionHypothesis =>
      have firstRead : image.classRecord (start + 0) = .ok first := readEach rfl
      rw [Nat.add_zero] at firstRead
      have restRead : image.classesFrom (start + 1) rest.length = .ok rest := by
        apply inductionHypothesis
        intro index record found
        rw [Nat.add_assoc, Nat.add_comm 1]
        exact readEach found
      rw [List.length_cons, Image.classesFrom, firstRead]
      change (image.classesFrom (start + 1) rest.length >>= fun _ => _) = _
      rw [restRead]
      rfl

/-- The classes of an image that holds them are the ones that the drafts mean. -/
theorem classes_eq
    {classes : List NumberedClass}
    {items : List Item}
    (imageFits : image.bytes.size < Bytes.span 4)
    (denoted : List.Forall₂ (Denotes tables) drafts classes)
    (restrictionsHold :
      HoldsRestrictions image.bytes (classes.map (·.restrictions)) image.restrictions)
    (classesHold : List.Forall₂ (HoldsClass image tables) drafts items)
    (tableHolds : image.tables.classDefs.Holds image.bytes 32 items) :
    image.classes = .ok (drafts.map (ClassDraft.record tables)) := by
  have sameCount : image.classCount = (drafts.map (ClassDraft.record tables)).length := by
    rw [Image.classCount, tableHolds.size, ← classesHold.length_eq, List.length_map]
  rw [Image.classes, sameCount]
  apply classesFrom_eq
  intro index record found
  rw [List.getElem?_map, Option.map_eq_some_iff] at found
  obtain ⟨draft, foundDraft, rfl⟩ := found
  obtain ⟨item, foundItem, holdsClass⟩ := exists_getElem?_of_forall₂ classesHold foundDraft
  obtain ⟨entry, foundEntry, denotes⟩ := exists_getElem?_of_forall₂ denoted foundDraft
  have foundFlags : (classes.map (·.restrictions))[index]? = some draft.restrictions := by
    rw [List.getElem?_map, foundEntry, Option.map_some, denotes.restrictions]
  obtain ⟨place?, flagsRead, flagsStand⟩ :=
    exists_restrictionFlags imageFits restrictionsHold foundFlags
  obtain ⟨entryFound, stands⟩ := tableHolds.entry foundItem .classDef
  rw [Nat.zero_add]
  exact holdsClass.reads entryFound stands flagsRead flagsStand

end Classes

namespace Assembly

section Parsing

variable
  {tables : EntryTables}
  {classes : List NumberedClass}
  {drafts : List ClassDraft}

/-- The data of an image start behind its header. -/
theorem dataStart_pos (tables : EntryTables) (classCount : Nat) :
    0 < dataStart tables classCount := by
  have headerPositive : 0 < Image.headerSize := by decide
  simp only [dataStart, indexTables, Table.after]
  omega

/-- The index tables end where the data start, so they fit when these do. -/
theorem fits_of_dataStart_lt
    {classCount : Nat}
    (fits : dataStart tables classCount < Bytes.span 4) :
    ∀ table ∈ (indexTables tables classCount).inOrder, table.Fits := by
  intro table member
  simp only [dataStart, indexTables, Table.after] at fits
  simp only [Tables.inOrder, indexTables, Table.after, List.mem_cons, List.not_mem_nil,
    or_false] at member
  rcases member with rfl | rfl | rfl | rfl | rfl | rfl <;>
    exact ⟨by dsimp only; omega, by dsimp only; omega⟩

/-- The image of classes numbered in any order is read as the drafts that they denote. -/
theorem exists_parse_imageOf
    (readable : ∀ draft ∈ drafts, draft.IsReadable)
    (denoted : List.Forall₂ (Denotes tables) drafts classes)
    (typesFit : tables.types.size < Bytes.span 2)
    (protosFit : tables.protos.size < Bytes.span 2)
    (imageFits : (imageOf tables classes).size < Bytes.span 4) :
    ∃ image,
      Image.parse (imageOf tables classes) = .ok image
        ∧ image.classes = .ok (drafts.map (ClassDraft.record tables)) := by
  obtain ⟨fileSize, placed, isCounted, stands, yielded⟩ := exists_placed tables classes
  generalize imageOf tables classes = bytes at imageFits stands yielded ⊢
  have startFits : dataStart tables classes.length < Bytes.span 4 := by
    have bound := stands.le_size
    rw [length_indexOf isCounted] at bound
    omega
  have positive := dataStart_pos tables classes.length
  obtain ⟨section?, restrictionsHold, offset, mapPlaced⟩ :=
    yielded _ (yields_map positive imageFits tables classes)
  have sectionFits : ∀ section_ ∈ section?, section_ < Bytes.span 4 := by
    rintro section_ rfl
    exact restrictionsHold.fits
  let image : Image := {
    bytes
    version := 39
    tables := indexTables tables classes.length
    restrictions := section?
  }
  have parsed : Image.parse bytes = .ok image :=
    parse_eq stands.left.left.left.left.left.left mapPlaced.fits (fits_of_dataStart_lt startFits)
      (mapItem?_eq sectionFits mapPlaced)
  have sameTables : image.tables = indexTables tables classes.length := rfl
  obtain ⟨tablesHold, classTable⟩ := holdsTables_of_stands isCounted sameTables stands
  have imageTypesFit : image.tables.types.size < Bytes.span 2 := typesFit
  obtain ⟨stringsPlaced, protosPlaced⟩ :=
    yielded _ (yields_entries positive imageFits imageTypesFit tables classes)
  have shown : image.Shows tables :=
    shows_of_holdsTables imageFits typesFit protosFit tablesHold stringsPlaced protosPlaced
  have classesHold := yielded _ (yields_classes positive shown readable denoted)
  exact ⟨image, parsed, classes_eq imageFits denoted restrictionsHold classesHold classTable⟩

end Parsing

end Assembly

/-- An assembled image is parsed, and its classes are what the drafts mean, in their order. -/
theorem Image.exists_parse_assemble
    {drafts : List ClassDraft}
    (readable : ∀ draft ∈ drafts, draft.IsReadable)
    (typesFit : (tablesOf drafts).types.size < Bytes.span 2)
    (protosFit : (tablesOf drafts).protos.size < Bytes.span 2)
    (imageFits : (assemble drafts).size < Bytes.span 4) :
    ∃ image,
      parse (assemble drafts) = .ok image
        ∧ image.classes = .ok (drafts.map (ClassDraft.record (tablesOf drafts))) :=
  Assembly.exists_parse_imageOf readable (forall₂_denotes drafts) typesFit protosFit imageFits

end Dex

end DexSurface
