import Mathlib.Data.List.Induction
import Mathlib.Data.List.Nodup
import DexSurface.Archive.Tiers

namespace DexSurface

/-!
# The last file of a name

Every tier shows the last file that was entered under a name, but the three tiers do not know of
each other in the same way: a skeleton takes the place of a stub, while a stub leaves an earlier
skeleton where it is, and the restriction type looks at neither.  The last file of a name is
therefore always among the entries, but it need not be the only one.
-/

/-- A stub or a skeleton. -/
def TierWrite.isClass (file : TierWrite) : Bool :=
  file.tier ≠ .restriction

namespace OutputTiers

/-- The names of all entries. -/
def names (tiers : OutputTiers) : List String :=
  tiers.entries.map Prod.fst

/-- The last file of some kind. -/
def last? (isKind : TierWrite → Bool) (files : List TierWrite) : Option TierWrite :=
  (files.filter isKind).getLast?

/-- The stubs and skeletons, and of the restriction types only the last one. -/
def lastRestrictionOnly : List TierWrite → List TierWrite
  | [] => []
  | file :: rest =>
      if file.tier = .restriction ∧ ∃ later ∈ rest, later.tier = .restriction then
        lastRestrictionOnly rest
      else
        file :: lastRestrictionOnly rest

/-- No file was entered under the name of this one later; only the last restriction type counts. -/
def IsLastOfName (files : List TierWrite) (file : TierWrite) : Prop :=
  ∃ earlier later,
    lastRestrictionOnly files = earlier ++ file :: later
      ∧ ∀ other ∈ later, other.name ≠ file.name

/-- After files have entered, each name has one entry, and it is the last file of the name. -/
structure LastWriteWins (files : List TierWrite) : Prop where
  distinct : (empty.writeAll files).names.Nodup
  listed :
    ∀ file, IsLastOfName files file → (file.name, file.content) ∈ (empty.writeAll files).entries

/--
No stub is the last class of a name that a skeleton has had, and the restriction type that stands in
the end shares its name with no class.
-/
structure KeepsNamesApart (files : List TierWrite) : Prop where
  skeletons :
    ∀ skeleton ∈ files,
      skeleton.tier = .skeleton →
      ∀ file,
        last? (fun other => other.isClass && other.name = skeleton.name) files = some file →
        file.tier = .skeleton
  restriction :
    ∀ restriction,
      last? (fun other => other.tier = .restriction) files = some restriction →
      ∀ file ∈ files, file.isClass = true → file.name ≠ restriction.name

variable {tiers : OutputTiers} {files : List TierWrite} {file : TierWrite} {name : String}

/-! What one more file changes. -/

/-- A class that enters decides alone what the stubs hold under its name. -/
theorem getElem?_stubs_write (tiers : OutputTiers) (file : TierWrite) (name : String) :
    (tiers.write file).stubs[name]? =
      if (file.isClass && file.name = name) = true then
        if file.tier = .stub then some file.content else none
      else
        tiers.stubs[name]? := by
  rcases file with ⟨tier, fileName, content⟩
  cases tier <;>
    simp [write, TierWrite.isClass, Std.TreeMap.getElem?_insert, Std.TreeMap.getElem?_erase]

/-- Only a skeleton decides what the skeletons hold under its name. -/
theorem getElem?_skeletons_write (tiers : OutputTiers) (file : TierWrite) (name : String) :
    (tiers.write file).skeletons[name]? =
      if (file.tier = .skeleton && file.name = name) = true then
        some file.content
      else
        tiers.skeletons[name]? := by
  rcases file with ⟨tier, fileName, content⟩
  cases tier <;> simp [write, Std.TreeMap.getElem?_insert]

/-- Only a restriction type decides which one stands. -/
theorem restriction_write (tiers : OutputTiers) (file : TierWrite) :
    (tiers.write file).restriction =
      if (file.tier = .restriction : Bool) then
        some (file.name, file.content)
      else
        tiers.restriction := by
  rcases file with ⟨tier, fileName, content⟩
  cases tier <;> simp [write]

/--
What is observed after a run of files is decided by the last file of the kind that changes it: the
induction is on the files from the back, since a file overrides those before it.
-/
theorem observe_writeAll
    (observe : OutputTiers → β)
    (isKind : TierWrite → Bool)
    (shown : TierWrite → β)
    (step :
      ∀ tiers file,
        observe (tiers.write file) = if isKind file = true then shown file else observe tiers)
    (files : List TierWrite) :
    observe (empty.writeAll files) = (last? isKind files).elim (observe empty) shown := by
  induction files using List.reverseRecOn with
  | nil => rfl
  | append_singleton earlier file inductionHypothesis =>
      have oneMore :
          empty.writeAll (earlier ++ [file]) = (empty.writeAll earlier).write file := by
        rw [writeAll, List.foldl_append]
        rfl
      rw [oneMore, step, last?, List.filter_append]
      cases decides : isKind file with
      | true => simp [decides]
      | false => simpa [decides, last?] using inductionHypothesis

/-- The stub of a name is the last class of the name, provided that it is a stub. -/
theorem getElem?_stubs_writeAll (files : List TierWrite) (name : String) :
    (empty.writeAll files).stubs[name]? =
      (last? (fun file => file.isClass && file.name = name) files).elim none fun file =>
        if file.tier = .stub then some file.content else none := by
  have observed := observe_writeAll (fun tiers => tiers.stubs[name]?) _ _
    (fun tiers file => getElem?_stubs_write tiers file name) files
  simpa [empty] using observed

/-- The skeleton of a name is the last skeleton of the name. -/
theorem getElem?_skeletons_writeAll (files : List TierWrite) (name : String) :
    (empty.writeAll files).skeletons[name]? =
      (last? (fun file => file.tier = .skeleton && file.name = name) files).map
        TierWrite.content := by
  have observed := observe_writeAll (fun tiers => tiers.skeletons[name]?) _ _
    (fun tiers file => getElem?_skeletons_write tiers file name) files
  rw [observed]
  cases last? (fun file => file.tier = .skeleton && file.name = name) files <;> simp [empty]

/-- The restriction type is the last one. -/
theorem restriction_writeAll (files : List TierWrite) :
    (empty.writeAll files).restriction =
      (last? (fun file => file.tier = .restriction) files).map
        fun file => (file.name, file.content) := by
  rw [observe_writeAll (fun tiers => tiers.restriction) _ _ restriction_write files]
  cases last? (fun file => file.tier = .restriction) files <;> rfl

/-! The entries of any tiers. -/

/-- The entries are those of the stubs, those of the skeletons and the restriction type. -/
theorem mem_entries_iff {entry : String × ByteArray} :
    entry ∈ tiers.entries
      ↔ tiers.stubs[entry.1]? = some entry.2
        ∨ tiers.skeletons[entry.1]? = some entry.2
        ∨ tiers.restriction = some entry := by
  rw [entries, List.mem_append, List.mem_append, Option.mem_toList, or_assoc,
    ← Std.TreeMap.mem_toList_iff_getElem?_eq_some, ← Std.TreeMap.mem_toList_iff_getElem?_eq_some]

/-- No two entries share a name when the three tiers share none. -/
theorem nodup_names_iff :
    tiers.names.Nodup
      ↔ (∀ name ∈ tiers.stubs, name ∉ tiers.skeletons)
        ∧ ∀ file,
            tiers.restriction = some file → file.1 ∉ tiers.stubs ∧ file.1 ∉ tiers.skeletons := by
  have inTiers :
      tiers.names =
        tiers.stubs.keys ++ tiers.skeletons.keys ++ tiers.restriction.toList.map Prod.fst := by
    rw [names, entries, List.map_append, List.map_append, Std.TreeMap.map_fst_toList_eq_keys,
      Std.TreeMap.map_fst_toList_eq_keys]
  rw [inTiers, List.nodup_append', List.nodup_append']
  cases tiers.restriction with
  | none => simp [List.disjoint_left, Std.TreeMap.nodup_keys]
  | some file => simp [List.disjoint_left, Std.TreeMap.nodup_keys]

/-! The entries after a run of files. -/

/-- There is no last file of a kind exactly if no file is of this kind. -/
theorem last?_eq_none_iff {isKind : TierWrite → Bool} :
    last? isKind files = none ↔ ∀ file ∈ files, isKind file = false := by
  simp [last?]

/-- The last file of a kind is one of the files and of the kind. -/
theorem mem_of_last?
    {isKind : TierWrite → Bool}
    (isLast : last? isKind files = some file) :
    file ∈ files ∧ isKind file = true :=
  List.mem_filter.mp (List.mem_of_getLast? isLast)

/-- A stub stands under a name exactly if the last class of that name is a stub. -/
theorem mem_stubs_writeAll_iff :
    name ∈ (empty.writeAll files).stubs
      ↔ ∃ file,
          last? (fun other => other.isClass && other.name = name) files = some file
            ∧ file.tier = .stub := by
  rw [Std.TreeMap.mem_iff_isSome_getElem?, getElem?_stubs_writeAll]
  cases last? (fun other => other.isClass && other.name = name) files with
  | none => simp
  | some file => by_cases isStub : file.tier = .stub <;> simp [isStub]

/-- A skeleton stands under a name exactly if some skeleton has the name. -/
theorem mem_skeletons_writeAll_iff :
    name ∈ (empty.writeAll files).skeletons
      ↔ ∃ file ∈ files, file.tier = .skeleton ∧ file.name = name := by
  rw [Std.TreeMap.mem_iff_isSome_getElem?, getElem?_skeletons_writeAll, Option.isSome_map]
  cases isLast : last? (fun file => file.tier = .skeleton && file.name = name) files with
  | none => simpa using last?_eq_none_iff.mp isLast
  | some file =>
      obtain ⟨member, isSkeleton⟩ := mem_of_last? isLast
      simpa using ⟨file, member, by simpa using isSkeleton⟩

/-- A class that was entered under a name stands there still, or a later class does. -/
theorem mem_of_isClass
    (member : file ∈ files)
    (isClass : file.isClass = true) :
    file.name ∈ (empty.writeAll files).stubs ∨ file.name ∈ (empty.writeAll files).skeletons := by
  cases isLast : last? (fun other => other.isClass && other.name = file.name) files with
  | none =>
      have dropped := last?_eq_none_iff.mp isLast file member
      simp [isClass] at dropped
  | some other =>
      obtain ⟨otherMember, sameKind⟩ := mem_of_last? isLast
      simp only [Bool.and_eq_true, decide_eq_true_eq] at sameKind
      cases tier : other.tier with
      | stub => exact Or.inl (mem_stubs_writeAll_iff.mpr ⟨other, isLast, tier⟩)
      | skeleton =>
          exact Or.inr (mem_skeletons_writeAll_iff.mpr ⟨other, otherMember, tier, sameKind.2⟩)
      | restriction => simp [TierWrite.isClass, tier] at sameKind

/-- The names of the entries are distinct exactly if the files kept their names apart. -/
theorem nodup_names_writeAll_iff (files : List TierWrite) :
    (empty.writeAll files).names.Nodup ↔ KeepsNamesApart files := by
  rw [nodup_names_iff]
  constructor
  · rintro ⟨disjoint, isApart⟩
    constructor
    · intro skeleton member isSkeleton file isLast
      cases tier : file.tier with
      | skeleton => rfl
      | stub =>
          have inStubs := mem_stubs_writeAll_iff.mpr ⟨file, isLast, tier⟩
          have inSkeletons := mem_skeletons_writeAll_iff.mpr ⟨skeleton, member, isSkeleton, rfl⟩
          exact absurd inSkeletons (disjoint _ inStubs)
      | restriction =>
          have isClass := (mem_of_last? isLast).2
          simp [TierWrite.isClass, tier] at isClass
    · intro restriction isLast file member isClass sameName
      have stands :
          (empty.writeAll files).restriction = some (restriction.name, restriction.content) := by
        rw [restriction_writeAll, isLast, Option.map_some]
      have notThere := isApart _ stands
      rw [← sameName] at notThere
      exact (mem_of_isClass member isClass).elim notThere.1 notThere.2
  · rintro ⟨skeletons, restriction⟩
    constructor
    · intro name inStubs inSkeletons
      obtain ⟨file, isLast, isStub⟩ := mem_stubs_writeAll_iff.mp inStubs
      obtain ⟨skeleton, member, isSkeleton, rfl⟩ := mem_skeletons_writeAll_iff.mp inSkeletons
      cases isStub.symm.trans (skeletons skeleton member isSkeleton file isLast)
    · intro entry stands
      rw [restriction_writeAll, Option.map_eq_some_iff] at stands
      obtain ⟨last, isLast, rfl⟩ := stands
      constructor
      · intro inStubs
        obtain ⟨file, isLastClass, isStub⟩ := mem_stubs_writeAll_iff.mp inStubs
        obtain ⟨member, sameKind⟩ := mem_of_last? isLastClass
        simp only [Bool.and_eq_true, decide_eq_true_eq] at sameKind
        exact restriction last isLast file member sameKind.1 sameKind.2
      · intro inSkeletons
        obtain ⟨file, member, isSkeleton, sameName⟩ := mem_skeletons_writeAll_iff.mp inSkeletons
        refine restriction last isLast file member ?_ sameName
        simp [TierWrite.isClass, isSkeleton]

/-! The last file of a name is listed. -/

/-- Forgetting replaced restriction types forgets no stub and no skeleton. -/
theorem filter_lastRestrictionOnly
    {isKind : TierWrite → Bool}
    (areClasses : ∀ file, isKind file = true → file.isClass = true)
    (files : List TierWrite) :
    (lastRestrictionOnly files).filter isKind = files.filter isKind := by
  induction files with
  | nil => rfl
  | cons file rest inductionHypothesis =>
      rw [lastRestrictionOnly]
      split
      · next replaced =>
          have otherKind : ¬ isKind file = true := by
            intro isKind
            have isClass := areClasses file isKind
            simp [TierWrite.isClass, replaced.1] at isClass
          rw [inductionHypothesis, List.filter_cons_of_neg otherKind]
      · rw [List.filter_cons, List.filter_cons, inductionHypothesis]

/-- A restriction type that is not forgotten is the last one. -/
theorem last?_of_mem_lastRestrictionOnly
    (member : file ∈ lastRestrictionOnly files)
    (isRestriction : file.tier = .restriction) :
    last? (fun other => other.tier = .restriction) files = some file := by
  induction files with
  | nil => cases member
  | cons first rest inductionHypothesis =>
      rw [lastRestrictionOnly] at member
      split at member
      · next replaced =>
          have isLast := inductionHypothesis member
          rw [last?, List.filter_cons_of_pos (by simpa using replaced.1)]
          rw [last?] at isLast
          rw [List.getLast?_cons, isLast]
          rfl
      · next stands =>
          rcases List.mem_cons.mp member with isFirst | inRest
          · subst isFirst
            have noneLater : rest.filter (fun other => other.tier = .restriction) = [] := by
              rw [List.filter_eq_nil_iff]
              intro later inRest isLater
              exact stands ⟨isRestriction, later, inRest, by simpa using isLater⟩
            rw [last?, List.filter_cons_of_pos (by simpa using isRestriction), noneLater]
            rfl
          · have isLast := inductionHypothesis inRest
            rw [last?, List.filter_cons]
            rw [last?] at isLast
            split
            · rw [List.getLast?_cons, isLast]
              rfl
            · exact isLast

/-- The last file of a name is the last one of every kind of class of this name that it is of. -/
theorem IsLastOfName.last?_eq
    {isKind : TierWrite → Bool}
    (isLast : IsLastOfName files file)
    (areClasses : ∀ other, isKind other = true → other.isClass = true)
    (sameName : ∀ other, isKind other = true → other.name = file.name)
    (ofKind : isKind file = true) :
    last? isKind files = some file := by
  obtain ⟨earlier, later, counted, otherNames⟩ := isLast
  have noneLater : later.filter isKind = [] := by
    rw [List.filter_eq_nil_iff]
    intro other member otherOfKind
    exact otherNames other member (sameName other otherOfKind)
  rw [last?, ← filter_lastRestrictionOnly areClasses, counted, List.filter_append,
    List.filter_cons_of_pos ofKind, noneLater, List.getLast?_append]
  rfl

/-- The last file of a name is among the entries, whatever else is. -/
theorem IsLastOfName.mem_entries (isLast : IsLastOfName files file) :
    (file.name, file.content) ∈ (empty.writeAll files).entries := by
  rw [mem_entries_iff]
  cases tier : file.tier with
  | stub =>
      left
      have lastClass :
          last? (fun other => other.isClass && other.name = file.name) files = some file := by
        apply isLast.last?_eq <;> simp +contextual [TierWrite.isClass, tier]
      rw [getElem?_stubs_writeAll, lastClass, Option.elim_some, if_pos tier]
  | skeleton =>
      right
      left
      have lastSkeleton :
          last? (fun other => other.tier = .skeleton && other.name = file.name) files =
            some file := by
        apply isLast.last?_eq <;> simp +contextual [TierWrite.isClass, tier]
      rw [getElem?_skeletons_writeAll, lastSkeleton, Option.map_some]
  | restriction =>
      right
      right
      obtain ⟨earlier, later, counted, -⟩ := isLast
      have member : file ∈ lastRestrictionOnly files := by simp [counted]
      rw [restriction_writeAll, last?_of_mem_lastRestrictionOnly member tier, Option.map_some]

/--
The last file of every name is listed.  Each name is listed once, so that the last file wins,
exactly if no stub follows a skeleton of its name for good and the restriction type has a name of
its own.
-/
theorem lastWriteWins_iff_keepsNamesApart (files : List TierWrite) :
    (∀ file, IsLastOfName files file →
        (file.name, file.content) ∈ (empty.writeAll files).entries)
      ∧ (LastWriteWins files ↔ KeepsNamesApart files) := by
  have listed :
      ∀ file, IsLastOfName files file →
        (file.name, file.content) ∈ (empty.writeAll files).entries :=
    fun _ isLast => isLast.mem_entries
  refine ⟨listed, ?_⟩
  constructor
  · intro wins
    exact (nodup_names_writeAll_iff files).mp wins.distinct
  · intro apart
    exact ⟨(nodup_names_writeAll_iff files).mpr apart, listed⟩

/-- A skeleton, and then a stub of the same name. -/
def stubAfterSkeleton : List TierWrite :=
  [⟨.skeleton, "pkg/A.class", ⟨#[1]⟩⟩, ⟨.stub, "pkg/A.class", ⟨#[2]⟩⟩]

/-- A stub, and then a restriction type of the same name. -/
def restrictionAfterStub : List TierWrite :=
  [⟨.stub, "pkg/A.class", ⟨#[1]⟩⟩, ⟨.restriction, "pkg/A.class", ⟨#[2]⟩⟩]

/-- Both runs end with two entries of one name. -/
theorem not_lastWriteWins_reusedNames :
    ¬ LastWriteWins stubAfterSkeleton ∧ ¬ LastWriteWins restrictionAfterStub := by
  constructor
  · intro wins
    have twice : (empty.writeAll stubAfterSkeleton).names = ["pkg/A.class", "pkg/A.class"] := rfl
    have distinct := wins.distinct
    rw [twice] at distinct
    simp at distinct
  · intro wins
    have twice : (empty.writeAll restrictionAfterStub).names = ["pkg/A.class", "pkg/A.class"] := rfl
    have distinct := wins.distinct
    rw [twice] at distinct
    simp at distinct

end OutputTiers

end DexSurface
