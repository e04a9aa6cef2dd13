import DexSurface.Configuration
import DexSurface.Proofs.Merge.MergeRuns

namespace DexSurface

/-!
# Merging as an overlay

Merging binds every type name to the first class of the name in the streams of the archives, one
after the other, where synthetic classes do not count.  It ends with the first archive that does not
load.  A boot class path is merged from its end, so there the last archive takes precedence.
-/

namespace Configuration

/-- A boot class path lists the texts between its colons, empty ones left out. -/
def ListsArchives (value : String) (listed : List String) : Prop :=
  ∃ pieces : List String,
    pieces ≠ []
      ∧ (∀ piece ∈ pieces, ':' ∉ piece.toList)
      ∧ value = ":".intercalate pieces
      ∧ listed = pieces.filter fun piece => !piece.isEmpty

/--
The pieces between separators contain no separator.  A letter other than the separator joins the
first of the later pieces, of which there is at least one.
-/
theorem not_mem_of_mem_splitOn
    {separator : Char}
    {text piece : List Char}
    (member : piece ∈ text.splitOn separator) :
    separator ∉ piece := by
  induction text generalizing piece with
  | nil =>
      rw [List.splitOn_nil, List.mem_singleton] at member
      rw [member]
      exact List.not_mem_nil
  | cons first rest inductionHypothesis =>
      rw [List.splitOn_cons_eq_if_modifyHead] at member
      split at member
      · rcases List.mem_cons.mp member with rfl | inRest
        · exact List.not_mem_nil
        · exact inductionHypothesis inRest
      · next isOther =>
          cases pieces : rest.splitOn separator with
          | nil => exact absurd pieces (List.splitOn_ne_nil _ _)
          | cons head tail =>
              rw [pieces, List.modifyHead_cons] at member
              rw [pieces] at inductionHypothesis
              rcases List.mem_cons.mp member with rfl | inTail
              · rw [List.mem_cons, not_or]
                exact ⟨fun same => isOther (by simp [same]), inductionHypothesis List.mem_cons_self⟩
              · exact inductionHypothesis (List.mem_cons_of_mem _ inTail)

/-- Every text lists some archives. -/
theorem exists_listsArchives (value : String) : ∃ listed, ListsArchives value listed := by
  refine ⟨_, (value.toList.splitOn ':').map String.ofList, ?_, ?_, ?_, rfl⟩
  · simp [List.splitOn_ne_nil]
  · intro piece member
    obtain ⟨letters, inSplit, rfl⟩ := List.mem_map.mp member
    rw [String.toList_ofList]
    exact not_mem_of_mem_splitOn inSplit
  · rw [← String.toList_inj, String.toList_intercalate, List.map_map]
    have sameLetters : String.toList ∘ String.ofList = id := by
      funext letters
      exact String.toList_ofList
    rw [sameLetters, List.map_id]
    exact (List.intercalate_splitOn ':').symm

/-- A boot class path is read from its end. -/
theorem bootClassPath_eq_reverse
    {value : String}
    {listed : List String}
    (lists : ListsArchives value listed) :
    bootClassPath value = listed.reverse := by
  obtain ⟨pieces, someValue, noColon, rfl, rfl⟩ := lists
  have split : (":".intercalate pieces).toList.splitOn ':' = pieces.map String.toList := by
    rw [String.toList_intercalate]
    refine List.splitOn_intercalate ':' ?_ (by simpa using someValue)
    intro letters member
    obtain ⟨piece, inPieces, rfl⟩ := List.mem_map.mp member
    exact noColon piece inPieces
  have samePieces : String.ofList ∘ String.toList = id := by
    funext piece
    exact String.ofList_toList
  rw [bootClassPath, split, List.map_map, samePieces, List.map_id]

example : bootClassPath "core.jar::ext.jar:" = ["ext.jar", "core.jar"] := by
  rfl

end Configuration

/-! The first class of a name. -/

section FirstPlain

/-- The names of the classes that are not synthetic. -/
def plainNames (records : List ClassRecord) : List TypeDescriptor :=
  (records.filter fun record => !record.flags.isSynthetic).map ClassRecord.typeName

variable {records : List ClassRecord} {record : ClassRecord} {typeName : TypeDescriptor}

/-- The first class of a name is one of the classes, not synthetic, and has the name. -/
theorem mem_of_firstPlain?_eq_some (found : firstPlain? records typeName = some record) :
    record ∈ records ∧ record.flags.isSynthetic = false ∧ record.typeName = typeName := by
  have isNamed := List.find?_some found
  simp only [Bool.and_eq_true, Bool.not_eq_true', decide_eq_true_eq] at isNamed
  exact ⟨List.mem_of_find?_eq_some found, isNamed⟩

/-- Where plain names differ, a name has one class that is not synthetic. -/
theorem eq_of_mem_of_distinct
    {other : ClassRecord}
    (distinct : (plainNames records).Nodup)
    (member : record ∈ records)
    (isPlain : record.flags.isSynthetic = false)
    (otherMember : other ∈ records)
    (otherPlain : other.flags.isSynthetic = false)
    (sameName : record.typeName = other.typeName) :
    record = other := by
  refine List.inj_on_of_nodup_map distinct (List.mem_filter.mpr ⟨member, ?_⟩)
    (List.mem_filter.mpr ⟨otherMember, ?_⟩) sameName
  · rw [isPlain]
    rfl
  · rw [otherPlain]
    rfl

/-- Where names are not repeated, the first class of a name is the only one. -/
theorem firstPlain?_eq_some_iff (distinct : (plainNames records).Nodup) :
    firstPlain? records typeName = some record
      ↔ record ∈ records ∧ record.flags.isSynthetic = false ∧ record.typeName = typeName := by
  refine ⟨mem_of_firstPlain?_eq_some, ?_⟩
  rintro ⟨member, isPlain, isNamed⟩
  cases found : firstPlain? records typeName with
  | none =>
      have isOther := List.find?_eq_none.mp found record member
      simp [isPlain, isNamed] at isOther
  | some first =>
      obtain ⟨firstMember, firstPlain, firstNamed⟩ := mem_of_firstPlain?_eq_some found
      rw [eq_of_mem_of_distinct distinct member isPlain firstMember firstPlain
        (isNamed.trans firstNamed.symm)]

/-- Without repeated names the order of classes does not decide which one is found. -/
theorem firstPlain?_of_perm
    {others : List ClassRecord}
    (permuted : records.Perm others)
    (distinct : (plainNames records).Nodup)
    (typeName : TypeDescriptor) :
    firstPlain? records typeName = firstPlain? others typeName := by
  have othersDistinct : (plainNames others).Nodup :=
    ((permuted.filter _).map ClassRecord.typeName).nodup_iff.mp distinct
  ext record
  rw [firstPlain?_eq_some_iff distinct, firstPlain?_eq_some_iff othersDistinct,
    permuted.mem_iff]

end FirstPlain

namespace ClassSource

/-- Two sources deliver the same for some archives. -/
def AgreesOn (source other : ClassSource) (paths : List String) : Prop :=
  other.name = source.name
    ∧ ∀ path ∈ paths,
        other.canLoad path = source.canLoad path ∧ other.stream path = source.stream path

/-- A source is merged as an overlay. -/
structure MergesAsOverlay (source : ClassSource) : Prop where
  /-- Archives that load bind each name to its first class, and the kept classes are counted. -/
  merged :
    ∀ paths before,
      (∀ path ∈ paths, source.failure? path = none) →
      ∃ classes kept,
        source.merge paths before =
            .ok classes (before.reporting (source.allMergedEvents paths kept))
          ∧ kept.length = paths.length
          ∧ total id kept = classes.size
          ∧ classes.IsKeyedByName
          ∧ ∀ typeName, classes[typeName]? = firstPlain? (source.classesOf paths) typeName
  /-- The first archive that does not load ends the merge, whatever comes after it. -/
  ended :
    ∀ read path error before,
      (∀ earlier ∈ read, source.failure? earlier = none) →
      source.failure? path = some error →
      ∃ kept,
        kept.length = read.length
          ∧ ∀ unread (other : ClassSource),
              source.AgreesOn other (read ++ [path]) →
              other.merge (read ++ path :: unread) before =
                .error error
                  (before.reporting
                    (source.allMergedEvents read kept ++ source.failedEvents path))
  /-- Without repeated names the order of the classes does not matter. -/
  permuted :
    ∀ paths (other : ClassSource) otherPaths
      before otherBefore classes otherClasses after otherAfter,
      source.merge paths before = .ok classes after →
      other.merge otherPaths otherBefore = .ok otherClasses otherAfter →
      (source.classesOf paths).Perm (other.classesOf otherPaths) →
      (plainNames (source.classesOf paths)).Nodup →
      classes.Equiv otherClasses
  /-- On a boot class path the last archive that has a class of a name decides. -/
  bootClassPath :
    ∀ value,
      ∃ listed,
        Configuration.ListsArchives value listed
          ∧ ∀ before classes after,
              source.merge (Configuration.bootClassPath value) before = .ok classes after →
              ∀ (typeName : String) record,
                classes[typeName]? = some record
                  ↔ ∃ front path back,
                      listed = front ++ path :: back
                        ∧ firstPlain? (source.stream path).classes typeName = some record
                        ∧ ∀ later ∈ back,
                            firstPlain? (source.stream later).classes typeName = none

variable {source : ClassSource} {paths : List String}

/-- The map of a successful merge binds each name to the first class of the name. -/
theorem getElem?_of_merge_eq_ok
    {before after : Journal}
    {classes : ClassMap}
    (succeeded : source.merge paths before = .ok classes after)
    (typeName : String) :
    classes[typeName]? = firstPlain? (source.classesOf paths) typeName := by
  obtain ⟨-, rfl⟩ := foldlM_mergeArchive_eq_ok succeeded
  rw [ClassMap.getElem?_insertAll, Std.TreeMap.getElem?_emptyc, Option.none_or]

/-- Sources that agree on archives agree on some of them. -/
theorem AgreesOn.mono
    {other : ClassSource}
    {some : List String}
    (agree : source.AgreesOn other paths)
    (among : ∀ path ∈ some, path ∈ paths) :
    source.AgreesOn other some :=
  ⟨agree.1, fun path member => agree.2 path (among path member)⟩

/-- Sources that agree on an archive merge it alike. -/
theorem AgreesOn.mergeArchive_eq
    {other : ClassSource}
    {path : String}
    (agree : source.AgreesOn other paths)
    (member : path ∈ paths)
    (classes : ClassMap) :
    other.mergeArchive classes path = source.mergeArchive classes path := by
  obtain ⟨sameLoad, sameStream⟩ := agree.2 path member
  rw [mergeArchive, mergeArchive, sameLoad, sameStream, agree.1]

/-- A merge depends on nothing but what the source delivers for its archives. -/
theorem AgreesOn.foldlM_mergeArchive_eq
    {other : ClassSource}
    (agree : source.AgreesOn other paths)
    (classes : ClassMap) :
    paths.foldlM other.mergeArchive classes = paths.foldlM source.mergeArchive classes := by
  induction paths generalizing classes with
  | nil => rfl
  | cons first rest inductionHypothesis =>
      rw [List.foldlM_cons, List.foldlM_cons, agree.mergeArchive_eq List.mem_cons_self]
      congr 1
      funext merged
      exact inductionHypothesis (agree.mono fun _ => List.mem_cons_of_mem first) merged

/--
Every source is merged as an overlay.  The first archive in merge order with a class of a name is
the last one listed with it.
-/
theorem mergesAsOverlay (source : ClassSource) : source.MergesAsOverlay where
  merged := by
    intro paths before load
    obtain ⟨kept, sameLength, allKept, merges⟩ := foldlM_mergeArchive_of_loads load ∅
    refine ⟨_, kept, merges before, sameLength, ?_, ?_, getElem?_of_merge_eq_ok (merges before)⟩
    · rw [← allKept, Std.TreeMap.size_emptyc, Nat.zero_add]
    · exact ClassMap.isKeyedByName_insertAll ClassMap.isKeyedByName_empty _
  ended := by
    intro read path error before load fails
    obtain ⟨kept, sameLength, -, merges⟩ := foldlM_mergeArchive_of_loads load ∅
    refine ⟨kept, sameLength, fun unread other agree => ?_⟩
    have agreeOnRead : source.AgreesOn other read :=
      agree.mono fun _ => List.mem_append_left [path]
    have pathRead : path ∈ read ++ [path] := List.mem_append_right read List.mem_cons_self
    rw [merge, List.foldlM_append, agreeOnRead.foldlM_mergeArchive_eq,
      bind_of_ok (merges before), List.foldlM_cons, agree.mergeArchive_eq pathRead,
      bind_of_error (mergeArchive_of_failure fails _ _), Journal.reporting_reporting]
  permuted := by
    intro paths other otherPaths before otherBefore classes otherClasses after otherAfter merged
      otherMerged permuted distinct
    apply Std.TreeMap.Equiv.of_forall_constGet?_eq
    intro typeName
    rw [getElem?_of_merge_eq_ok merged, getElem?_of_merge_eq_ok otherMerged,
      firstPlain?_of_perm permuted distinct]
  bootClassPath := by
    intro value
    obtain ⟨listed, lists⟩ := Configuration.exists_listsArchives value
    refine ⟨listed, lists, ?_⟩
    intro before classes after merged typeName record
    rw [Configuration.bootClassPath_eq_reverse lists] at merged
    rw [getElem?_of_merge_eq_ok merged, firstPlain?, classesOf, List.find?_flatMap,
      List.findSome?_eq_some_iff]
    constructor
    · rintro ⟨back, path, front, order, found, others⟩
      refine ⟨front.reverse, path, back.reverse, ?_, found, fun later member => ?_⟩
      · rw [← List.reverse_inj, order]
        simp
      · exact others later (List.mem_reverse.mp member)
    · rintro ⟨front, path, back, rfl, found, others⟩
      refine ⟨back.reverse, path, front.reverse, by simp, found, fun later member => ?_⟩
      exact others later (List.mem_reverse.mp member)

end ClassSource

end DexSurface
