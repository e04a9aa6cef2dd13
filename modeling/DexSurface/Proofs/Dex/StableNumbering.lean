import Mathlib.Data.List.Forall2
import DexSurface.Dex.NumberedClass

namespace DexSurface

namespace Dex

/-!
# Numbering again changes nothing

Numbering only adds entries behind those that are there.  Once it has been done, doing it again in
tables that have grown further gives the same numbers and adds nothing: the numbers are settled.  So
whatever is written while an image is drafted can be understood in its final tables alone.
-/

/-- The entries of some tables are the first ones of others. -/
structure EntryTables.IsPartOf (earlier later : EntryTables) : Prop where
  strings : earlier.strings.toList <+: later.strings.toList
  types : earlier.types.toList <+: later.types.toList
  protos : earlier.protos.toList <+: later.protos.toList
  fields : earlier.fields.toList <+: later.fields.toList
  methods : earlier.methods.toList <+: later.methods.toList

namespace EntryTables

variable {earlier middle later : EntryTables}

/-- Tables are part of themselves. -/
theorem IsPartOf.refl (tables : EntryTables) : tables.IsPartOf tables :=
  ⟨List.prefix_rfl, List.prefix_rfl, List.prefix_rfl, List.prefix_rfl, List.prefix_rfl⟩

/-- A part of a part is a part. -/
theorem IsPartOf.trans
    (first : earlier.IsPartOf middle)
    (second : middle.IsPartOf later) :
    earlier.IsPartOf later where
  strings := first.strings.trans second.strings
  types := first.types.trans second.types
  protos := first.protos.trans second.protos
  fields := first.fields.trans second.fields
  methods := first.methods.trans second.methods

/-- Two arrays that are the front of each other are equal. -/
theorem eq_of_isPart
    {first second : Array α}
    (isFirst : first.toList <+: second.toList)
    (isSecond : second.toList <+: first.toList) :
    first = second :=
  Array.toList_inj.mp (isFirst.eq_of_length_le isSecond.length_le)

/-- Tables that are part of each other are equal. -/
theorem IsPartOf.antisymm
    (first : earlier.IsPartOf later)
    (second : later.IsPartOf earlier) :
    earlier = later := by
  rcases earlier with ⟨strings, types, protos, fields, methods⟩
  rcases later with ⟨otherStrings, otherTypes, otherProtos, otherFields, otherMethods⟩
  obtain rfl : strings = otherStrings := eq_of_isPart first.strings second.strings
  obtain rfl : types = otherTypes := eq_of_isPart first.types second.types
  obtain rfl : protos = otherProtos := eq_of_isPart first.protos second.protos
  obtain rfl : fields = otherFields := eq_of_isPart first.fields second.fields
  obtain rfl : methods = otherMethods := eq_of_isPart first.methods second.methods
  rfl

end EntryTables

section NumberIn

variable {table later : Array α} {entry : α} {index : Nat}

/-- The index of an entry is that of the first one equal to it. -/
theorem idxOf?_eq_findIdx? [BEq α] (table : Array α) (entry : α) :
    table.idxOf? entry = table.toList.findIdx? (· == entry) := by
  rcases table with ⟨list⟩
  rw [List.idxOf?_toArray]
  rfl

/-- What is found in the front of a list is found at the same index in the list. -/
theorem findIdx?_of_isPart
    {first second : List α}
    {holds : α → Bool}
    (isPart : first <+: second)
    (found : first.findIdx? holds = some index) :
    second.findIdx? holds = some index := by
  obtain ⟨more, rfl⟩ := isPart
  rw [List.findIdx?_append, found, Option.some_or]

/-- An entry that was missing is found at the end where it is added. -/
theorem findIdx?_append_singleton
    {first : List α}
    {holds : α → Bool}
    (absent : first.findIdx? holds = none)
    (isHeld : holds entry = true) :
    (first ++ [entry]).findIdx? holds = some first.length := by
  rw [List.findIdx?_append, absent, Option.none_or, List.findIdx?_singleton, if_pos isHeld]
  simp

/-- Numbering an entry adds at most the entry. -/
theorem prefix_numberIn [BEq α] (table : Array α) (entry : α) :
    table.toList <+: (numberIn table entry).2.toList := by
  rw [numberIn]
  split
  · exact List.prefix_rfl
  · rw [Array.toList_push]
    exact List.prefix_append _ _

/-- An entry that has been numbered keeps its number. -/
theorem numberIn_of_isPart
    [BEq α]
    [LawfulBEq α]
    (isPart : (numberIn table entry).2.toList <+: later.toList) :
    numberIn later entry = ((numberIn table entry).1, later) := by
  have found :
      (numberIn table entry).2.toList.findIdx? (· == entry) =
        some (numberIn table entry).1 := by
    rw [numberIn]
    split
    · next index known =>
        rw [idxOf?_eq_findIdx?] at known
        exact known
    · next unknown =>
        rw [idxOf?_eq_findIdx?] at unknown
        rw [Array.toList_push]
        exact (findIdx?_append_singleton unknown (beq_self_eq_true entry)).trans
          (congrArg some Array.length_toList)
  have foundLater := findIdx?_of_isPart isPart found
  rw [numberIn, idxOf?_eq_findIdx?, foundLater]

/-- The entry with a settled number stands at that number. -/
theorem getElem?_of_numberIn
    [BEq α]
    [LawfulBEq α]
    (settled : numberIn table entry = (index, table)) :
    table[index]? = some entry := by
  rw [numberIn] at settled
  split at settled
  · next found known =>
      obtain rfl := (Prod.mk.inj settled).1
      rw [idxOf?_eq_findIdx?, List.findIdx?_eq_some_iff_getElem] at known
      obtain ⟨inRange, same, -⟩ := known
      rw [Array.getElem?_eq_getElem (by rwa [Array.length_toList] at inRange),
        ← Array.getElem_toList, eq_of_beq same]
  · have sameSize := congrArg Array.size (Prod.mk.inj settled).2
    rw [Array.size_push] at sameSize
    omega

end NumberIn

namespace Numbering

/-- Numbering only adds entries, and repeating it later gives the same value. -/
def IsStable (run : Numbering α) : Prop :=
  ∀ tables : EntryTables,
    tables.IsPartOf (run tables).2
      ∧ ∀ later : EntryTables, (run tables).2.IsPartOf later → run later = ((run tables).1, later)

/-- Numbering gives the value in some tables and adds nothing to them. -/
def Settles (tables : EntryTables) (run : Numbering α) (value : α) : Prop :=
  run tables = (value, tables)

variable {tables : EntryTables}

/-- A numbering that returns at once is stable. -/
theorem isStable_pure (value : α) : IsStable (pure value) :=
  fun tables => ⟨.refl tables, fun _ _ => rfl⟩

/-- Stable numberings in sequence are stable. -/
theorem IsStable.bind
    {run : Numbering α}
    {next : α → Numbering β}
    (stable : IsStable run)
    (nextStable : ∀ value, IsStable (next value)) :
    IsStable (run >>= next) := by
  intro tables
  obtain ⟨firstGrows, firstStays⟩ := stable tables
  obtain ⟨nextGrows, nextStays⟩ := nextStable (run tables).1 (run tables).2
  refine ⟨firstGrows.trans nextGrows, ?_⟩
  intro later isPart
  change next (run later).1 (run later).2 = _
  rw [firstStays later (nextGrows.trans isPart)]
  exact nextStays later isPart

/-- A stable numbering stays stable when its value is changed. -/
theorem IsStable.map
    {run : Numbering α}
    (stable : IsStable run)
    (change : α → β) :
    IsStable (change <$> run) := by
  rw [map_eq_pure_bind]
  exact stable.bind fun value => isStable_pure (change value)

/-- Numbering a list is stable if numbering each of its elements is. -/
theorem isStable_listMapM
    {item : α → Numbering β}
    (elements : List α)
    (stable : ∀ element ∈ elements, IsStable (item element)) :
    IsStable (elements.mapM item) := by
  induction elements with
  | nil => exact isStable_pure []
  | cons first rest inductionHypothesis =>
      rw [List.mapM_cons]
      refine (stable first List.mem_cons_self).bind fun value => ?_
      refine (inductionHypothesis ?_).bind fun values => isStable_pure _
      exact fun element member => stable element (List.mem_cons_of_mem _ member)

/-- Numbering an element that may be absent is stable if numbering an element is. -/
theorem isStable_optionMapM
    {item : α → Numbering β}
    (stable : ∀ element, IsStable (item element))
    (element? : Option α) :
    IsStable (element?.mapM item) := by
  cases element? with
  | none => exact isStable_pure none
  | some element => exact (stable element).map some

/-! What has been numbered is settled in all later tables. -/

/-- A stable numbering settles in all tables that its result is part of. -/
theorem IsStable.settles
    {run : Numbering α}
    (stable : IsStable run)
    {later : EntryTables}
    (isPart : (run tables).2.IsPartOf later) :
    Settles later run (run tables).1 :=
  (stable tables).2 later isPart

/-- What is settled stays settled when the tables grow. -/
theorem Settles.later
    {run : Numbering α}
    {value : α}
    {later : EntryTables}
    (settled : Settles tables run value)
    (stable : IsStable run)
    (isPart : tables.IsPartOf later) :
    Settles later run value := by
  have sameRun : run tables = (value, tables) := settled
  have reached : (run tables).2.IsPartOf later := by
    rw [sameRun]
    exact isPart
  have repeated : Settles later run (run tables).1 := stable.settles reached
  rw [sameRun] at repeated
  exact repeated

/-- A sequence is settled where its steps are. -/
theorem Settles.bind
    {run : Numbering α}
    {next : α → Numbering β}
    {value : α}
    {result : β}
    (settled : Settles tables run value)
    (nextSettled : Settles tables (next value) result) :
    Settles tables (run >>= next) result := by
  have sameRun : run tables = (value, tables) := settled
  change next (run tables).1 (run tables).2 = _
  rw [sameRun]
  exact nextSettled

/-- A numbering that returns at once settles on exactly its value. -/
theorem settles_pure_iff {value result : α} :
    Settles tables (pure value) result ↔ value = result := by
  change (value, tables) = (result, tables) ↔ _
  rw [Prod.mk.injEq, and_iff_left rfl]

/-- A sequence is settled if its parts are. -/
theorem settles_bind_iff
    {run : Numbering α}
    {next : α → Numbering β}
    (stable : IsStable run)
    (nextStable : ∀ value, IsStable (next value))
    {result : β} :
    Settles tables (run >>= next) result
      ↔ ∃ value, Settles tables run value ∧ Settles tables (next value) result := by
  constructor
  · intro settled
    change next (run tables).1 (run tables).2 = (result, tables) at settled
    have grows := (stable tables).1
    have nextGrows := (nextStable (run tables).1 (run tables).2).1
    rw [settled] at nextGrows
    have sameTables : (run tables).2 = tables := nextGrows.antisymm grows
    refine ⟨(run tables).1, Prod.ext rfl sameTables, ?_⟩
    rw [sameTables] at settled
    exact settled
  · rintro ⟨value, settled, nextSettled⟩
    exact settled.bind nextSettled

/-- A changed numbering settles on exactly the changed values of the numbering. -/
theorem settles_map_iff
    {run : Numbering α}
    (stable : IsStable run)
    {change : α → β}
    {result : β} :
    Settles tables (change <$> run) result
      ↔ ∃ value, Settles tables run value ∧ change value = result := by
  rw [map_eq_pure_bind, settles_bind_iff stable fun value => isStable_pure _]
  simp only [settles_pure_iff]

/-- Numbering a list settles exactly if numbering each of its elements does. -/
theorem settles_listMapM_iff
    {item : α → Numbering β}
    {elements : List α}
    (stable : ∀ element ∈ elements, IsStable (item element))
    {values : List β} :
    Settles tables (elements.mapM item) values
      ↔ List.Forall₂ (fun element value => Settles tables (item element) value)
          elements values := by
  induction elements generalizing values with
  | nil =>
      rw [List.mapM_nil, settles_pure_iff, List.forall₂_nil_left_iff]
      exact eq_comm
  | cons first rest inductionHypothesis =>
      have restStable : ∀ element ∈ rest, IsStable (item element) :=
        fun element member => stable element (List.mem_cons_of_mem _ member)
      rw [List.mapM_cons, settles_bind_iff (stable first List.mem_cons_self) fun value =>
        (isStable_listMapM rest restStable).bind fun values => isStable_pure _]
      constructor
      · rintro ⟨value, settled, restSettled⟩
        rw [settles_bind_iff (isStable_listMapM rest restStable)
          fun values => isStable_pure _] at restSettled
        obtain ⟨others, othersSettled, given⟩ := restSettled
        rw [← settles_pure_iff.mp given]
        exact .cons settled ((inductionHypothesis restStable).mp othersSettled)
      · intro settled
        cases settled with
        | cons firstSettled restSettled =>
            refine ⟨_, firstSettled, ?_⟩
            rw [settles_bind_iff (isStable_listMapM rest restStable)
              fun values => isStable_pure _]
            exact ⟨_, (inductionHypothesis restStable).mpr restSettled, rfl⟩

end Numbering

end Dex

end DexSurface
